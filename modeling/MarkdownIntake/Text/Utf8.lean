/-!
This module contains the encoding of text as UTF-8 and its decoding. Decoding never fails: each
longest piece that could have been the start of a character but is not completed becomes one
replacement character.
-/

namespace MarkdownIntake.Text

def replacementChar : Char := '\uFFFD'

def utf8Bytes (c : Char) : List Nat :=
  let n := c.toNat
  if n < 0x80 then [n]
  else if n < 0x800 then [0xC0 + n / 64, 0x80 + n % 64]
  else if n < 0x10000 then [0xE0 + n / 4096, 0x80 + n / 64 % 64, 0x80 + n % 64]
  else [0xF0 + n / 262144, 0x80 + n / 4096 % 64, 0x80 + n / 64 % 64, 0x80 + n % 64]

def hasZero (text : String) : Bool :=
  text.toList.contains '\x00'

/-- What a leading byte asks for: how many more bytes, and between which bounds the next one lies. -/
structure Lead where
  bits : Nat
  following : Nat
  low : Nat
  high : Nat

def leadOf? (byte : Nat) : Option Lead :=
  if byte < 0x80 then some ⟨byte, 0, 0, 0⟩
  else if byte < 0xC2 then none
  else if byte < 0xE0 then some ⟨byte - 0xC0, 1, 0x80, 0xBF⟩
  else if byte = 0xE0 then some ⟨0, 2, 0xA0, 0xBF⟩
  else if byte = 0xED then some ⟨0xD, 2, 0x80, 0x9F⟩
  else if byte < 0xF0 then some ⟨byte - 0xE0, 2, 0x80, 0xBF⟩
  else if byte = 0xF0 then some ⟨0, 3, 0x90, 0xBF⟩
  else if byte < 0xF4 then some ⟨byte - 0xF0, 3, 0x80, 0xBF⟩
  else if byte = 0xF4 then some ⟨4, 3, 0x80, 0x8F⟩
  else none

/-- The character read so far: its bits, the bytes still missing, and the bounds of the next one. -/
inductive Utf8State where
  | between
  | inside (lead : Lead)

def startChar (byte : Nat) : Utf8State × List Char :=
  match leadOf? byte with
  | none => (.between, [replacementChar])
  | some lead =>
    if lead.following = 0 then (.between, [Char.ofNat lead.bits]) else (.inside lead, [])

def utf8Step (state : Utf8State) (byte : Nat) : Utf8State × List Char :=
  match state with
  | .between => startChar byte
  | .inside lead =>
    if lead.low ≤ byte && byte ≤ lead.high then
      let bits := lead.bits * 64 + (byte - 0x80)
      if lead.following ≤ 1 then (.between, [Char.ofNat bits])
      else (.inside ⟨bits, lead.following - 1, 0x80, 0xBF⟩, [])
    else
      let (state, chars) := startChar byte
      (state, replacementChar :: chars)

def decodeUtf8 (bytes : List Nat) : List Char :=
  let (state, out) := bytes.foldl
    (fun (state, out) byte =>
      let (state, chars) := utf8Step state byte
      (state, chars.reverse ++ out))
    (Utf8State.between, ([] : List Char))
  match state with
  | .between => out.reverse
  | .inside _ => (replacementChar :: out).reverse

def decodeUtf8? (bytes : List Nat) : Option (List Char) :=
  let (state, out) := bytes.foldl
    (fun ((state, out) : Utf8State × Option (List Char)) byte =>
      match state, leadOf? byte with
      | .between, none => (.between, none)
      | .between, some lead =>
        if lead.following = 0 then (.between, out.map (Char.ofNat lead.bits :: ·))
        else (.inside lead, out)
      | .inside lead, _ =>
        if lead.low ≤ byte && byte ≤ lead.high then
          let bits := lead.bits * 64 + (byte - 0x80)
          if lead.following ≤ 1 then (.between, out.map (Char.ofNat bits :: ·))
          else (.inside ⟨bits, lead.following - 1, 0x80, 0xBF⟩, out)
        else
          (.between, none))
    (Utf8State.between, some ([] : List Char))
  match state with
  | .between => out.map List.reverse
  | .inside _ => none

end MarkdownIntake.Text
