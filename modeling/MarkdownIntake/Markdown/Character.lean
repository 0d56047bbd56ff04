import MarkdownIntake.Text.Blank
import MarkdownIntake.Text.Punctuation

/-!
This module contains the classes of characters that the syntax of Markdown tells apart.
-/

namespace MarkdownIntake.Markdown

open MarkdownIntake.Text

def isIndent (c : Char) : Bool :=
  c = ' ' || c = '\t'

def isLinkGap (c : Char) : Bool :=
  isIndent c || c = '\n'

def isWhite (c : Char) : Bool :=
  let n := c.toNat
  (9 ≤ n && n ≤ 13) || n == 32 || n == 0xA0 || n == 0x1680 || (0x2000 ≤ n && n ≤ 0x200A)
    || n == 0x202F || n == 0x205F || n == 0x3000

def isMargin (c : Char) : Bool :=
  let n := c.toNat
  isWhite c || n == 0x2028 || n == 0x2029 || n == 0xFEFF

def trimMargins (cs : List Char) : List Char :=
  stripWhile isMargin cs

def isAsciiPunctuation (c : Char) : Bool :=
  let n := c.toNat
  (33 ≤ n && n ≤ 47) || (58 ≤ n && n ≤ 64) || (91 ≤ n && n ≤ 96) || (123 ≤ n && n ≤ 126)

def isDelimiting (c : Char) : Bool :=
  isAsciiPunctuation c || isPunctuation c

def isLetter (c : Char) : Bool :=
  c.isAlpha

def endsPlainText (c : Char) : Bool :=
  "\n!#$%&*+-:<=>@[\\]^_`\x7b\x7d~".toList.contains c

end MarkdownIntake.Markdown
