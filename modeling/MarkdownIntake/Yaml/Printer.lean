import MarkdownIntake.Json.Value
import MarkdownIntake.Number.Decimal
import MarkdownIntake.Yaml.Character
import MarkdownIntake.Yaml.Kind

/-!
This module contains the YAML text of values. Objects and arrays are written in blocks, the members
of an object in the order of their names; a text is written plainly if that leaves no doubt,
otherwise in single quotes, and in double quotes if a character has to be escaped. A long line is
broken at a space.
-/

namespace MarkdownIntake.Yaml

open MarkdownIntake.Json MarkdownIntake.Number

def lineWidth : Nat := 80

def indentStep : Nat := 2

def isOrdinary (c : Char) : Bool :=
  c = '\n' || (32 ≤ c.toNat && c.toNat ≤ 126)

inductive Quotes where
  | none
  | single
  | double
deriving Repr, DecidableEq

def startsWithIndicator (cs : List Char) : Bool :=
  match cs with
  | [] => false
  | c :: rest =>
    "#,[]\x7b\x7d&*!|>'\"%@`".toList.contains c
      || ((c = '?' || c = ':' || c = '-') && rest.head?.all isSeparator)
      || "---".toList.isPrefixOf cs || "...".toList.isPrefixOf cs

def hasIndicator : (previous : Char) → List Char → Bool
  | _, [] => false
  | previous, c :: rest =>
    (c = ':' && rest.head?.all isSeparator) || (c = '#' && isSeparator previous)
      || hasIndicator c rest

def hasPair (first second : Char → Bool) : List Char → Bool
  | a :: b :: rest => (first a && second b) || hasPair first second (b :: rest)
  | _ => false

def mayBePlain (cs : List Char) : Bool :=
  let isEdge (c : Char) := c = ' ' || isBreak c
  cs.all isOrdinary && !cs.any isBreak && !cs.head?.any isEdge && !cs.getLast?.any isEdge
    && !startsWithIndicator cs && !hasIndicator 'x' (cs.drop 1) && !hasIndicatorAfterFirst cs
where
  hasIndicatorAfterFirst : List Char → Bool
    | c :: '#' :: _ => isSeparator c
    | _ => false

def mayBeSingle (cs : List Char) : Bool :=
  cs.all isOrdinary && !hasPair (· = ' ') isBreak cs && !hasPair isBreak (· = ' ') cs

/-- How a text is written. Inside a key there is no line end without double quotes. -/
def quotesFor (isKey : Bool) (text : String) : Quotes :=
  let cs := text.toList
  let isFlat := !cs.any isBreak
  if Kind.ofPlain text = .text && mayBePlain cs then .none
  else if mayBeSingle cs && (!isKey || isFlat) then .single
  else .double

def escapeOf (c : Char) : List Char :=
  let hex (width : Nat) : List Char :=
    let digits := (Nat.toDigits 16 c.toNat).map Char.toUpper
    List.replicate (width - digits.length) '0' ++ digits
  match c.toNat with
  | 0 => ['\\', '0']
  | 7 => ['\\', 'a']
  | 8 => ['\\', 'b']
  | 9 => ['\\', 't']
  | 10 => ['\\', 'n']
  | 11 => ['\\', 'v']
  | 12 => ['\\', 'f']
  | 13 => ['\\', 'r']
  | 27 => ['\\', 'e']
  | 34 => ['\\', '"']
  | 92 => ['\\', '\\']
  | 0x85 => ['\\', 'N']
  | 0xA0 => ['\\', '_']
  | 0x2028 => ['\\', 'L']
  | 0x2029 => ['\\', 'P']
  | n =>
    if n ≤ 0xFF then '\\' :: 'x' :: hex 2
    else if n ≤ 0xFFFF then '\\' :: 'u' :: hex 4
    else '\\' :: 'U' :: hex 8

def isEscaped (c : Char) : Bool :=
  c = '"' || c = '\\' || !(32 ≤ c.toNat && c.toNat ≤ 126)

structure Page where
  written : List Char := []
  column : Nat := 0
  hasGap : Bool := true
  isIndented : Bool := true

namespace Page

def put (page : Page) (cs : List Char) : Page :=
  { page with written := cs.reverse ++ page.written, column := page.column + cs.length }

def breakLine (page : Page) : Page :=
  { written := '\n' :: page.written, column := 0, hasGap := true, isIndented := true }

/-- Go to a column, in the next line unless nothing but indentation stands in this one. -/
def goTo (page : Page) (indent : Nat) : Page :=
  let page :=
    if !page.isIndented || indent < page.column || (page.column = indent && !page.hasGap) then
      page.breakLine
    else
      page
  if page.column < indent then
    { page.put (List.replicate (indent - page.column) ' ') with hasGap := true }
  else
    page

def mark (page : Page) (text : List Char) (needsGap : Bool) (leavesGap : Bool := false)
    (keepsIndent : Bool := false) : Page :=
  let text := if page.hasGap || !needsGap then text else ' ' :: text
  { page.put text with hasGap := leavesGap, isIndented := page.isIndented && keepsIndent }

/-- `spaces` is the number of spaces that have been read and not yet written. -/
def plain (page : Page) (isKey : Bool) (indent spaces : Nat) : List Char → Page
  | [] => page.put (List.replicate spaces ' ')
  | c :: rest =>
    if c = ' ' then
      page.plain isKey indent (spaces + 1) rest
    else
      -- Only a single space may become a line end, and none in a key.
      let page :=
        if spaces = 1 && lineWidth < page.column && !isKey then
          { page.goTo indent with hasGap := false, isIndented := false }
        else
          page.put (List.replicate spaces ' ')
      (page.put [c]).plain isKey indent 0 rest

/-- Write the line ends of a text in single quotes: one more than in the text. -/
def singleBreaks (page : Page) (indent count : Nat) : Page :=
  (Nat.repeat breakLine (count + 1) page).goTo indent

def singleGap (page : Page) (isKey : Bool) (indent : Nat) (atStart : Bool) (gap : List Char) : Page :=
  if gap.head? == some '\n' then
    page.singleBreaks indent gap.length
  else if gap.length = 1 && lineWidth < page.column && !isKey && !atStart then
    page.goTo indent
  else
    page.put gap

/--
Write a text inside single quotes. `gap` are the spaces or line ends that have been read and not yet
written; `atStart` tells whether they are the first characters.
-/
def single (page : Page) (isKey : Bool) (indent : Nat) (atStart : Bool) (gap : List Char) :
    List Char → Page
  | [] => if gap.head? == some '\n' then page.singleBreaks indent gap.length else page.put gap
  | c :: rest =>
    if c = ' ' || c = '\n' then
      page.single isKey indent atStart (c :: gap) rest
    else
      let page := page.singleGap isKey indent atStart gap
      (page.put (if c = '\'' then ['\'', '\''] else [c])).single isKey indent false [] rest

def doubleBreak (page : Page) (indent : Nat) (next? : Option Char) : Page :=
  let page := { (page.put ['\\']).goTo indent with hasGap := false, isIndented := false }
  if next? == some ' ' then page.put ['\\'] else page

/--
`pending` are the characters, the last one first, that have been read and not yet written; `atStart`
tells whether the next character is the first one.
-/
def double (page : Page) (isKey : Bool) (indent : Nat) (atStart : Bool) (pending : List Char) :
    List Char → Page
  | [] => page.put pending.reverse
  | c :: rest =>
    -- A line is broken before a space and beside an escape, but not around the first or last character.
    let mayBreak := !isKey && !atStart && !rest.isEmpty
    if isEscaped c then
      let page := (page.put pending.reverse).put (escapeOf c)
      let page :=
        if mayBreak && lineWidth + 1 < page.column then page.doubleBreak indent rest.head? else page
      page.double isKey indent false [] rest
    else if mayBreak && (c = ' ' || pending.isEmpty) && lineWidth < page.column + pending.length then
      ((page.put pending.reverse).doubleBreak indent (some c)).double isKey indent false [c] rest
    else
      page.double isKey indent false (c :: pending) rest

/-- Write a text so that it is read as a text; lines after the first one start at `indent`. -/
def text (page : Page) (isKey : Bool) (indent : Nat) (text : String) : Page :=
  let cs := text.toList
  match quotesFor isKey text with
  | .none =>
    let page := if page.hasGap then page else page.put [' ']
    { page with hasGap := false, isIndented := false }.plain isKey indent 0 cs
  | .single =>
    ((page.mark ['\''] true).single isKey indent true [] cs).mark ['\''] false
  | .double =>
    ((page.mark ['"'] true).double isKey indent true [] cs).mark ['"'] false

def word (page : Page) (word : String) : Page :=
  let page := if page.hasGap then page else page.put [' ']
  { page with hasGap := false, isIndented := false }.put word.toList

end Page

def realText (x : Binary64) : String :=
  match x with
  | .nan => ".nan"
  | .infinite true => "-.inf"
  | .infinite false => ".inf"
  | x =>
    let cs := x.text.toList
    if cs.contains 'e' && !cs.contains '.' then
      String.ofList (cs.takeWhile (· ≠ 'e') ++ ['.', '0'] ++ cs.dropWhile (· ≠ 'e'))
    else
      x.text

def maxSimpleKey : Nat := 122

def isSimpleKey (key : String) : Bool :=
  !key.isEmpty && !key.toList.any isBreak && key.length ≤ maxSimpleKey

mutual

def sorted : Value → Value
  | .arr items => .arr (sortedItems items)
  | .obj members =>
    .obj ((sortedMembers members).mergeSort fun a b => decide (a.1 ≤ b.1))
  | value => value

def sortedItems : List Value → List Value
  | [] => []
  | item :: rest => sorted item :: sortedItems rest

def sortedMembers : List (String × Value) → List (String × Value)
  | [] => []
  | (name, value) :: rest => (name, sorted value) :: sortedMembers rest

end

mutual

/--
Write a value. `indent?` is the column at which the present items or members start, if there are any;
`inObject` tells whether the value belongs to a member.
-/
def Page.value (page : Page) (indent? : Option Nat) (inObject : Bool) : Value → Page
  | .null => page.word "null"
  | .bool b => page.word (if b then "true" else "false")
  | .int n => page.word (toString n)
  | .real x => page.word (realText x)
  | .str s => page.text false (indent?.elim indentStep (· + indentStep)) s
  | .arr [] => (page.mark ['['] true true).mark [']'] false
  | .arr items =>
    let step := if inObject && !page.isIndented then 0 else indentStep
    page.items (indent?.elim 0 (· + step)) items
  | .obj [] => (page.mark ['\x7b'] true true).mark ['\x7d'] false
  | .obj members => page.members (indent?.elim 0 (· + indentStep)) members

def Page.items (page : Page) (indent : Nat) : List Value → Page
  | [] => page
  | item :: rest =>
    let page := (page.goTo indent).mark ['-'] true false true
    (page.value (some indent) false item).items indent rest

def Page.members (page : Page) (indent : Nat) : List (String × Value) → Page
  | [] => page
  | (name, value) :: rest =>
    let page := page.goTo indent
    let page :=
      if isSimpleKey name then
        (page.text true (indent + indentStep) name).mark [':'] false
      else
        let page := (page.mark ['?'] true false true).text false (indent + indentStep) name
        (page.goTo indent).mark [':'] true false true
    (page.value (some indent) true value).members indent rest

end

def render (value : Value) : String :=
  let page := (({} : Page).value none false (sorted value)).goTo 0
  String.ofList page.written.reverse

end MarkdownIntake.Yaml
