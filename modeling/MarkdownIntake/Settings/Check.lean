import MarkdownIntake.Settings.Basic
import MarkdownIntake.Text.Utf8
import MarkdownIntake.Yaml.Value

/-!
This module contains the reading of settings from a stored value. Related values are taken for each
other, a text of digits for a number or a word for yes or no, and all faults are found at once.
-/

namespace MarkdownIntake.Settings

open MarkdownIntake.Json MarkdownIntake.Number MarkdownIntake.Review MarkdownIntake.Text

inductive Fault where
  | notAMap
  | notAText
  | notUnicode
  | noWordForYesOrNo
  | notYesOrNo
  | noTextOfWhole
  | notWhole
  | tooLarge
  | hasFraction
  | notFinite
  | belowLeast
  | noTextOfNumber
  | notANumber
  | notPositive
deriving Repr, DecidableEq

abbrev FaultAt := List String × Fault

def textOf? : Yaml.Value → Option (Except Fault String)
  | .text text => some (.ok text)
  | .bytes bytes =>
    match decodeUtf8? bytes with
    | some cs => some (.ok (String.ofList cs))
    | none => some (.error .notUnicode)
  | _ => none

def readText (value : Yaml.Value) : Except Fault String :=
  (textOf? value).getD (.error .notAText)

def readOptionalText (value : Yaml.Value) : Except Fault (Option String) :=
  match value with
  | .null => .ok none
  | value => (readText value).map some

def yesWords : List String := ["1", "on", "t", "true", "y", "yes"]

def noWords : List String := ["0", "off", "f", "false", "n", "no"]

def wordBound : Nat := 1 <<< 63

def isWord (n : Int) : Bool :=
  -(wordBound : Int) ≤ n && n < wordBound

def flagOfInt (n : Int) : Except Fault Bool :=
  if n = 0 then .ok false else if n = 1 then .ok true else .error .noWordForYesOrNo

def readFlag (value : Yaml.Value) : Except Fault Bool :=
  match textOf? value with
  | some (.error _) => .error .noWordForYesOrNo
  | some (.ok text) =>
    let word := String.ofList (text.toList.map Char.toLower)
    if yesWords.contains word then .ok true
    else if noWords.contains word then .ok false
    else .error .noWordForYesOrNo
  | none =>
    match value with
    | .bool flag => .ok flag
    | .int n => flagOfInt n
    | .real x =>
      match x.toInt? with
      | some n => if isWord n then flagOfInt n else .error .notYesOrNo
      | none => .error .notYesOrNo
    | _ => .error .notYesOrNo

def strictInt? (cs : List Char) : Option Int :=
  let (digits, isNegative) := match cs with
    | '-' :: digits => (digits, true)
    | digits => (digits, false)
  let isCanonical := match digits with
    | [] => false
    | ['0'] => true
    | c :: _ => c ≠ '0' && digits.all Char.isDigit
  if isCanonical then
    some (if isNegative then -(digitsValue digits : Int) else digitsValue digits)
  else
    none

/-- A number without the zeros and underscores in front of it; one character stays. -/
def dropZeros? (cs : List Char) : Option (List Char) :=
  match cs with
  | '0' :: rest => go '0' rest
  | c :: _ => if c.isDigit || c = '-' then some cs else none
  | [] => none
where
  go (last : Char) : List Char → Option (List Char)
    | [] => some [last]
    | c :: rest =>
      if c = '0' || c = '_' then go c rest
      else if c.isDigit then some (c :: rest)
      else if c = '.' then some (last :: c :: rest)
      else none

def dropZeroFraction (cs : List Char) : List Char :=
  match cs.dropWhile (· ≠ '.') with
  | '.' :: fraction => if fraction.all (· = '0') then cs.takeWhile (· ≠ '.') else cs
  | _ => cs

def hasDoubleGap : List Char → Bool
  | '_' :: '_' :: _ => true
  | _ :: rest => hasDoubleGap rest
  | [] => false

def dropGaps? (cs : List Char) : Option (List Char) :=
  if cs.head? == some '_' || cs.getLast? == some '_' || hasDoubleGap cs then none
  else some (cs.filter (· ≠ '_'))

def dropPlus? : List Char → Option (List Char)
  | '+' :: '-' :: _ => none
  | '+' :: rest => some rest
  | rest => some rest

def lenientInt? (cs : List Char) : Option Int := do
  let cs ← dropPlus? cs
  let cs := dropZeroFraction (← dropZeros? cs)
  strictInt? (← dropGaps? cs)

def intOfText (text : String) : Except Fault Int :=
  let cs := stripWhile isPadding text.toList
  if maxDigits < cs.length then .error .tooLarge
  else match (strictInt? cs).or (lenientInt? cs) with
    | some n => .ok n
    | none => .error .noTextOfWhole

def readInt (value : Yaml.Value) : Except Fault Int :=
  match textOf? value with
  | some (.error _) => .error .noTextOfWhole
  | some (.ok text) => intOfText text
  | none =>
    match value with
    | .bool flag => .ok (if flag then 1 else 0)
    | .int n => .ok n
    | .real .nan | .real (.infinite _) => .error .notFinite
    | .real x =>
      match x.toInt? with
      | some n => if isWord n then .ok n else .error .tooLarge
      | none => .error .hasFraction
    | _ => .error .notWhole

def readLeast (least : Int) (value : Yaml.Value) : Except Fault Int := do
  let n ← readInt value
  if least ≤ n then return n else .error .belowLeast

def strictReal? (cs : List Char) : Option Binary64 :=
  if cs.all (fun c => c.toNat < 128 && c ≠ '_') then (readDecimal (String.ofList cs)).toOption
  else none

/-- Read a text as a number. Only without blanks around it may it have underscores. -/
def realOfText (text : String) : Except Fault Binary64 :=
  let cs := text.toList
  let lenient? : Option Binary64 := do
    let cs ← dropGaps? cs
    if cs.any isPadding then none else strictReal? cs
  match (strictReal? (stripWhile isPadding cs)).or lenient? with
  | some x => .ok x
  | none => .error .noTextOfNumber

def readReal (value : Yaml.Value) : Except Fault Binary64 :=
  match textOf? value with
  | some (.error _) => .error .noTextOfNumber
  | some (.ok text) => realOfText text
  | none =>
    match value with
    | .bool flag => .ok (.ofInt (if flag then 1 else 0))
    | .int n =>
      match Binary64.ofInt n with
      | .infinite _ => .error .notANumber
      | x => .ok x
    | .real x => .ok x
    | _ => .error .notANumber

def readPositive (value : Yaml.Value) : Except Fault Binary64 := do
  let x ← readReal value
  if x.isPositive then return x else .error .notPositive

abbrev Checked (α : Type) := List FaultAt × α

def checkKey (part : Section) (entries : List (Yaml.Value × Yaml.Value)) (key : Key)
    (read : Yaml.Value → Except Fault α) (present : α) : Checked α :=
  match Yaml.Value.entry? key.name entries with
  | none => ([], present)
  | some value =>
    match read value with
    | .ok read => ([], read)
    | .error fault => ([([part.name, key.name], fault)], present)

/-- Read a part of the settings from the entries of all; without an entry, or with a fault, it stays. -/
def checkPart (part : Section) (entries : List (Yaml.Value × Yaml.Value))
    (check : List (Yaml.Value × Yaml.Value) → Checked α) (present : α) : Checked α :=
  match Yaml.Value.entry? part.name entries with
  | none => ([], present)
  | some (.map entries) => check entries
  | some _ => ([([part.name], .notAMap)], present)

def checkEntry (entries : List (Yaml.Value × Yaml.Value)) : Checked EntrySettings :=
  let present : EntrySettings := {}
  let (spaceFaults, spaceId) := checkKey .entry entries .spaceId readOptionalText present.spaceId
  let (environmentFaults, environmentId) :=
    checkKey .entry entries .environmentId readText present.environmentId
  let (typeFaults, contentType) := checkKey .entry entries .contentType readText present.contentType
  let (localeFaults, locale) := checkKey .entry entries .locale readText present.locale
  let (publishFaults, publish) := checkKey .entry entries .publish readFlag present.publish
  (spaceFaults ++ environmentFaults ++ typeFaults ++ localeFaults ++ publishFaults,
    { spaceId, environmentId, contentType, locale, publish })

def checkLimits (entries : List (Yaml.Value × Yaml.Value)) : Checked Limits :=
  let present : Limits := {}
  let (lengthFaults, maxLineLength) :=
    checkKey .review entries .maxLineLength (readLeast leastMaxLineLength) present.maxLineLength
  let (limitFaults, longLineLimit) :=
    checkKey .review entries .longLineLimit (readLeast leastLongLineLimit) present.longLineLimit
  (lengthFaults ++ limitFaults, { maxLineLength, longLineLimit })

def checkTimeout (entries : List (Yaml.Value × Yaml.Value)) : Checked Binary64 :=
  checkKey .download entries .timeout readPositive Web.defaultTimeout

def checkOutput (entries : List (Yaml.Value × Yaml.Value)) : Checked OutputSettings :=
  let present : OutputSettings := {}
  let (formatFaults, format) := checkKey .output entries .format readText present.format
  let (directoryFaults, directory) := checkKey .output entries .directory readText present.directory
  let (importFaults, importFile) := checkKey .output entries .importFile readText present.importFile
  let (errorsFaults, errorsFile) := checkKey .output entries .errorsFile readText present.errorsFile
  let (colorFaults, color) := checkKey .output entries .color readFlag present.color
  let (verboseFaults, verbose) := checkKey .output entries .verbose readFlag present.verbose
  (formatFaults ++ directoryFaults ++ importFaults ++ errorsFaults ++ colorFaults ++ verboseFaults,
    { format, directory, importFile, errorsFile, color, verbose })

def ofEntries (entries : List (Yaml.Value × Yaml.Value)) : Except (List FaultAt) Settings :=
  let present : Settings := {}
  let (entryFaults, entry) := checkPart .entry entries checkEntry present.entry
  let (limitFaults, limits) := checkPart .review entries checkLimits present.limits
  let (timeoutFaults, timeout) := checkPart .download entries checkTimeout present.timeout
  let (outputFaults, output) := checkPart .output entries checkOutput present.output
  match entryFaults ++ limitFaults ++ timeoutFaults ++ outputFaults with
  | [] => .ok { entry, limits, timeout, output }
  | faults => .error faults

end MarkdownIntake.Settings
