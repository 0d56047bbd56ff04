import MarkdownIntake.Number.Decimal
import MarkdownIntake.Text.CodePoint

/-!
This module contains JSON values over any type of texts. An object keeps its members in the order they
were written in, and a whole number is kept apart from one that has a fraction or an exponent.
-/

namespace MarkdownIntake.Json

open MarkdownIntake.Number

inductive Value (σ : Type := String) where
  | null
  | bool (value : Bool)
  | int (value : Int)
  | real (value : Binary64)
  | str (value : σ)
  | arr (items : List (Value σ))
  | obj (members : List (String × Value σ))
deriving Repr

variable {σ : Type}

instance : Inhabited (Value σ) := ⟨.null⟩

namespace Value

/-- The member of an object with the given name; the last one counts. -/
def get? (v : Value σ) (name : String) : Option (Value σ) :=
  match v with
  | .obj members => (members.reverse.find? (·.1 = name)).map (·.2)
  | _ => none

def ofOption : Option σ → Value σ
  | none => .null
  | some s => .str s

def strings (texts : List σ) : Value σ :=
  .arr (texts.map .str)

mutual

def isTellable : Value σ → Bool
  | .int n => Number.isTellable n
  | .arr items => areTellable items
  | .obj members => haveTellable members
  | _ => true

def areTellable : List (Value σ) → Bool
  | [] => true
  | item :: rest => isTellable item && areTellable rest

def haveTellable : List (String × Value σ) → Bool
  | [] => true
  | (_, value) :: rest => isTellable value && haveTellable rest

end

end Value

end MarkdownIntake.Json
