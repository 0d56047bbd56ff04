/-!
This module contains the classes of characters that YAML texts are divided by.
-/

namespace MarkdownIntake.Yaml

def isBreak (c : Char) : Bool :=
  let n := c.toNat
  n == 10 || n == 0x85 || n == 0x2028 || n == 0x2029

def isBlank (c : Char) : Bool :=
  c = ' ' || c = '\t'

def isSeparator (c : Char) : Bool :=
  isBlank c || isBreak c

def lineEnd (c : Char) : Char :=
  if c.toNat = 0x85 then '\n' else c

def isAllowed (c : Char) : Bool :=
  let n := c.toNat
  c = '\t' || c = '\n' || c = '\r' || (0x20 ≤ n && n ≤ 0x7E) || n = 0x85
    || (0xA0 ≤ n && n ≤ 0xD7FF) || (0xE000 ≤ n && n ≤ 0xFFFD) || 0x10000 ≤ n

def isNameChar (c : Char) : Bool :=
  c.isAlphanum || c = '-' || c = '_'

def isTagChar (c : Char) : Bool :=
  c.isAlphanum || "-;/?:@&=+$,_.!~*'()[]".toList.contains c

def isBracketSign (c : Char) : Bool :=
  c = ',' || c = '[' || c = ']' || c = '\x7b' || c = '\x7d'

end MarkdownIntake.Yaml
