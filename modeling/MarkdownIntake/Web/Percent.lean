import MarkdownIntake.Text.Utf8

/-!
This module contains percent encoding: characters that may not stand in an address are written as
their UTF-8 bytes, each as a percent sign and two hexadecimal digits.
-/

namespace MarkdownIntake.Web

open MarkdownIntake.Text

def upperHexDigit (n : Nat) : Char :=
  if n < 10 then Char.ofNat (48 + n) else Char.ofNat (55 + n)

def percentByte (byte : Nat) : List Char :=
  ['%', upperHexDigit (byte / 16 % 16), upperHexDigit (byte % 16)]

def percentChar (c : Char) : List Char :=
  (utf8Bytes c).flatMap percentByte

def isHexDigit (c : Char) : Bool :=
  c.isDigit || ('a' ≤ c && c ≤ 'f') || ('A' ≤ c && c ≤ 'F')

def hexDigitValue (c : Char) : Nat :=
  if c.isDigit then c.toNat - 48
  else if 'a' ≤ c then c.toNat - 87
  else c.toNat - 55

def percentEncode (isSafe : Char → Bool) : List Char → List Char
  | [] => []
  | '%' :: a :: b :: rest =>
    if isHexDigit a && isHexDigit b then
      '%' :: a :: b :: percentEncode isSafe rest
    else
      (if isSafe '%' then ['%'] else percentChar '%') ++ percentEncode isSafe (a :: b :: rest)
  | c :: rest => (if isSafe c then [c] else percentChar c) ++ percentEncode isSafe rest

def percentBytes : List Char → List Nat
  | [] => []
  | '%' :: a :: b :: rest =>
    if isHexDigit a && isHexDigit b then
      (hexDigitValue a * 16 + hexDigitValue b) :: percentBytes rest
    else
      utf8Bytes '%' ++ percentBytes (a :: b :: rest)
  | c :: rest => utf8Bytes c ++ percentBytes rest

def percentDecode (cs : List Char) : List Char :=
  decodeUtf8 (percentBytes cs)

end MarkdownIntake.Web
