import MarkdownIntake.Json.Value

/-!
This module contains the text of JSON values. A style says how members are spread over lines and
whether characters beyond ASCII are written by their codes, those beyond 16 bits as a surrogate pair.
A surrogate in a string is written by its code in every style.
-/

namespace MarkdownIntake.Json

open MarkdownIntake.Text

structure Style where
  /-- The step of indentation; without one, everything is on one line. -/
  indent : Option Nat
  asciiOnly : Bool
deriving Repr, DecidableEq

def Style.report : Style := ⟨some 2, true⟩

def Style.document : Style := ⟨some 2, false⟩

def Style.line : Style := ⟨none, false⟩

def Style.lineBreak (style : Style) (depth : Nat) : List Char :=
  match style.indent with
  | none => []
  | some step => '\n' :: List.replicate (step * depth) ' '

def Style.separator (style : Style) (depth : Nat) : List Char :=
  match style.indent with
  | none => [',', ' ']
  | some _ => ',' :: style.lineBreak depth

def hexDigit (n : Nat) : Char :=
  if n < 10 then Char.ofNat (48 + n) else Char.ofNat (87 + n)

def unitEscape (n : Nat) : List Char :=
  ['\\', 'u', hexDigit (n / 4096 % 16), hexDigit (n / 256 % 16), hexDigit (n / 16 % 16),
    hexDigit (n % 16)]

def codeEscape (c : Char) : List Char :=
  let n := c.toNat
  if n < 0x10000 then
    unitEscape n
  else
    unitEscape (0xD800 + (n - 0x10000) / 1024) ++ unitEscape (0xDC00 + (n - 0x10000) % 1024)

def charText (style : Style) (c : Char) : List Char :=
  if c = '"' then ['\\', '"']
  else if c = '\\' then ['\\', '\\']
  else if c = '\n' then ['\\', 'n']
  else if c = '\r' then ['\\', 'r']
  else if c = '\t' then ['\\', 't']
  else if c = '\x0c' then ['\\', 'f']
  else if c = '\x08' then ['\\', 'b']
  else if c.toNat < 32 then codeEscape c
  else if style.asciiOnly && 126 < c.toNat then codeEscape c
  else [c]

def pointText (style : Style) (p : CodePoint) : List Char :=
  match p.char? with
  | some c => charText style c
  | none => unitEscape p.value

variable {σ : Type} [Spelled σ]

def stringText (style : Style) (s : σ) : List Char :=
  '"' :: ((Spelled.points s).flatMap (pointText style) ++ ['"'])

mutual

def valueText (style : Style) (depth : Nat) : Value σ → List Char
  | .null => "null".toList
  | .bool true => "true".toList
  | .bool false => "false".toList
  | .int n => (toString n).toList
  | .real x => x.text.toList
  | .str s => stringText style s
  | .arr [] => ['[', ']']
  | .arr (v :: vs) =>
    '[' :: (style.lineBreak (depth + 1) ++ valueText style (depth + 1) v
      ++ itemsText style (depth + 1) vs ++ style.lineBreak depth ++ [']'])
  | .obj [] => ['\x7b', '\x7d']
  | .obj ((name, v) :: rest) =>
    '\x7b' :: (style.lineBreak (depth + 1) ++ stringText style name ++ [':', ' ']
      ++ valueText style (depth + 1) v ++ membersText style (depth + 1) rest
      ++ style.lineBreak depth ++ ['\x7d'])

def itemsText (style : Style) (depth : Nat) : List (Value σ) → List Char
  | [] => []
  | v :: vs => style.separator depth ++ valueText style depth v ++ itemsText style depth vs

def membersText (style : Style) (depth : Nat) : List (String × Value σ) → List Char
  | [] => []
  | (name, v) :: rest =>
    style.separator depth ++ stringText style name ++ [':', ' '] ++ valueText style depth v
      ++ membersText style depth rest

end

def Value.render (style : Style) (v : Value σ) : String :=
  String.ofList (valueText style 0 v)

end MarkdownIntake.Json
