import MarkdownIntake.Settings.Basic
import MarkdownIntake.Text.Case

/-!
This module contains the change of one setting. The new value is brought to the kind of the present
one, but no bound is checked and a text may be replaced by any value.
-/

namespace MarkdownIntake.Settings

open MarkdownIntake.Json MarkdownIntake.Number MarkdownIntake.Text

inductive UpdateError where
  | keyWithoutPart (key : String)
  | keyTooLong (key : String)
  | unknownPart (part : String)
  | unknownSetting (name part : String)
  | noNumber (error : LiteralError)
  | wholeOfNan
  | overflow
  | wrongKind
  /-- A whole number in the new value has too many digits to be compared with a word. -/
  | untellable
  /-- A whole number has too many digits to be written, which is found only when it is. -/
  | unwritable
deriving Repr, DecidableEq

def UpdateError.message : UpdateError → String
  | .keyWithoutPart key => s!"Invalid config key: {key}"
  | .keyTooLong key => s!"Invalid config key format: {key}"
  | .unknownPart part => s!"Unknown section: {part}"
  | .unknownSetting name part => s!"Unknown field: {name} in {part}"
  | .noNumber error => error.message
  | .wholeOfNan => "cannot convert float NaN to integer"
  | .overflow | .wrongKind => ""
  | .untellable | .unwritable => untellableMessage

def affirmations : List String := ["true", "1", "yes"]

def saysYes : Value → Bool
  | .bool flag => flag
  | .int n => n = 1
  | .str text => affirmations.contains (String.ofList (lower text.toList))
  | _ => false

def wholePart : Binary64 → Except UpdateError Int
  | .nan => .error .wholeOfNan
  | .infinite _ => .error .overflow
  | .finite isNegative mantissa exponent _ =>
    let (num, den) := Binary64.ratio mantissa exponent
    .ok (if isNegative then -((num / den : Nat) : Int) else ((num / den : Nat) : Int))

def numberOf (result : Except LiteralError α) : Except UpdateError α :=
  result.mapError .noNumber

def toWhole : Value → Except UpdateError Int
  | .bool flag => .ok (if flag then 1 else 0)
  | .int n => .ok n
  | .real x => wholePart x
  | .str text => numberOf (readInteger text)
  | _ => .error .wrongKind

def toReal : Value → Except UpdateError Binary64
  | .bool flag => .ok (.ofInt (if flag then 1 else 0))
  | .int n =>
    match Binary64.ofInt n with
    | .infinite _ => .error .overflow
    | x => .ok x
  | .real x => .ok x
  | .str text => numberOf (readDecimal text)
  | _ => .error .wrongKind

def toFlag (value : Value) : Except UpdateError Bool :=
  if value.isTellable then .ok (saysYes value) else .error .untellable

def coerce (present value : Value) : Except UpdateError Value :=
  match present with
  | .bool _ => (toFlag value).map .bool
  | .int _ => (toWhole value).map .int
  | .real _ => (toReal value).map .real
  | _ => .ok value

def Key.ofText (text : String) : Except UpdateError Key :=
  match splitAt '.' text.toList with
  | [] | [_] => .error (.keyWithoutPart text)
  | [part, name] =>
    let partName := String.ofList part
    let name := String.ofList name
    match Section.ofName? partName with
    | none => .error (.unknownPart partName)
    | some part =>
      match Key.ofName? part name with
      | none => .error (.unknownSetting name partName)
      | some key => .ok key
  | _ => .error (.keyTooLong text)

def replaced (settings : Settings) (key : Key) (value : Value) : Value :=
  record fun other => if other = key then value else settings.get other

def changed (settings : Settings) (key : String) (value : Value) : Except UpdateError Value := do
  let key ← Key.ofText key
  return settings.replaced key (← coerce (settings.get key) value)

end MarkdownIntake.Settings
