import MarkdownIntake.Text.Printable

/-!
This module contains the quoted form in which error messages show a text: in single quotes, or in
double quotes if that avoids an escape, with every character that cannot be printed shown by code.
-/

namespace MarkdownIntake.Text

def hexDigits (n width : Nat) : List Char :=
  let digits := Nat.toDigits 16 n
  List.replicate (width - digits.length) '0' ++ digits

def escapeCode (c : Char) : List Char :=
  if c.toNat < 0x100 then
    '\\' :: 'x' :: hexDigits c.toNat 2
  else if c.toNat < 0x10000 then
    '\\' :: 'u' :: hexDigits c.toNat 4
  else
    '\\' :: 'U' :: hexDigits c.toNat 8

def quotedChar (quote c : Char) : List Char :=
  if c = quote || c = '\\' then ['\\', c]
  else if c = '\n' then ['\\', 'n']
  else if c = '\r' then ['\\', 'r']
  else if c = '\t' then ['\\', 't']
  else if isPrintable c then [c]
  else escapeCode c

def quoteFor (cs : List Char) : Char :=
  if cs.contains '\'' && !cs.contains '"' then '"' else '\''

def quoted (s : String) : String :=
  let quote := quoteFor s.toList
  String.ofList (quote :: s.toList.flatMap (quotedChar quote) ++ [quote])

end MarkdownIntake.Text
