import MarkdownIntake.Proofs.Storage.Files
import MarkdownIntake.Storage.EnvironmentFile
import Mathlib.Data.List.Induction
import Mathlib.Data.List.Nodup
import Mathlib.Data.List.TakeWhile

/-!
This module contains what an environment is after a file of variables was loaded. The file defines what
was not there before, up to the first variable that is not taken, and nothing that was there is changed.
-/

namespace MarkdownIntake.Storage

open MarkdownIntake.Text

namespace Environment

@[simp]
theorem get?_set (environment : Environment) (name value : String) :
    (environment.set name value).get? name = some value := by
  simp [get?, set]

theorem get?_set_of_ne {name other : String} (h : other ≠ name) (environment : Environment)
    (value : String) : (environment.set name value).get? other = environment.get? other := by
  rw [get?, set, lookup_cons_eq_if, if_neg h]
  exact lookup_filter_of_ne h environment.entries

@[simp]
theorem get?_unset (environment : Environment) (name : String) :
    (environment.unset name).get? name = none := by
  rw [get?, unset, List.lookup_eq_none_iff]
  intro entry hentry
  simpa using Ne.symm (of_decide_eq_true (List.mem_filter.mp hentry).2)

theorem get?_unset_of_ne {name other : String} (h : other ≠ name) (environment : Environment) :
    (environment.unset name).get? other = environment.get? other :=
  lookup_filter_of_ne h environment.entries

def Extends (environment later : Environment) : Prop :=
  ∀ name value, environment.get? name = some value → later.get? name = some value

theorem Extends.refl (environment : Environment) : environment.Extends environment :=
  fun _ _ h => h

theorem Extends.trans {first second third : Environment} (h : first.Extends second)
    (hnext : second.Extends third) : first.Extends third :=
  fun name value hvalue => hnext name value (h name value hvalue)

end Environment

namespace Binding

theorem assign_eq_setEntry (name : String) (value? : Option String)
    (known : List (String × Option String)) : assign name value? known = setEntry name value? known := by
  induction known with
  | nil => rfl
  | cons entry rest ih => rw [assign, setEntry, ih]

theorem nodup_assign {known : List (String × Option String)} (h : (known.map Prod.fst).Nodup)
    (name : String) (value? : Option String) : ((assign name value? known).map Prod.fst).Nodup := by
  rw [assign_eq_setEntry, map_fst_setEntry]
  split
  . exact h
  . next hname => simpa using h.concat hname

def last? (bindings : List Binding) (name : String) : Option Binding :=
  bindings.reverse.find? (·.name = name)

theorem exists_values_concat (environment : Environment) (bindings : List Binding) (binding : Binding) :
    ∃ value?, values environment (bindings ++ [binding])
        =
      assign binding.name value? (values environment bindings)
        ∧ value?.isSome = binding.value?.isSome :=
  ⟨_, List.foldl_concat _ _ _ _, Option.isSome_map⟩

theorem isSome_lookup_values (environment : Environment) (bindings : List Binding) (name : String) :
    ((values environment bindings).lookup name).map Option.isSome
      =
    (last? bindings name).map (·.value?.isSome) := by
  induction bindings using List.reverseRecOn with
  | nil => rfl
  | append_singleton rest binding ih =>
    obtain ⟨value?, hvalues, hsome⟩ := exists_values_concat environment rest binding
    unfold last? at ih ⊢
    rw [List.reverse_append, List.reverse_singleton, List.singleton_append, hvalues,
      assign_eq_setEntry, lookup_setEntry]
    by_cases h : name = binding.name
    . rw [if_pos h, List.find?_cons_of_pos (by simpa using h.symm), Option.map_some, hsome,
        Option.map_some]
    . rw [if_neg h, List.find?_cons_of_neg (by simpa using Ne.symm h)]
      exact ih

theorem nodup_values (environment : Environment) (bindings : List Binding) :
    ((values environment bindings).map Prod.fst).Nodup := by
  induction bindings using List.reverseRecOn with
  | nil => exact List.nodup_nil
  | append_singleton rest binding ih =>
    obtain ⟨value?, hvalues, -⟩ := exists_values_concat environment rest binding
    rw [hvalues]
    exact nodup_assign ih _ _

end Binding

namespace Environment

def valueIn? (environment : Environment) (text name : String) : Option String :=
  ((Binding.values environment (Binding.ofText text)).lookup name).join

theorem isSome_valueIn?_iff (environment : Environment) (text name : String) :
    (environment.valueIn? text name).isSome ↔
      ∃ binding, Binding.last? (Binding.ofText text) name = some binding ∧ binding.value?.isSome := by
  have h := Binding.isSome_lookup_values environment (Binding.ofText text) name
  unfold valueIn?
  cases hvalues : (Binding.values environment (Binding.ofText text)).lookup name <;>
    cases hlast : Binding.last? (Binding.ofText text) name <;> simp_all

/-! ### Variables that are taken -/

/-- Variables up to the first that an operating system does not take. -/
def takeable (entries : List (String × String)) : List (String × String) :=
  entries.takeWhile fun entry => (fault? entry.1 entry.2).isNone

theorem fault?_ne_none_iff (name value : String) :
    fault? name value ≠ none ↔ hasZero name = true ∨ hasZero value = true ∨ '=' ∈ name.toList := by
  unfold fault?
  cases hasZero name <;> cases hasZero value <;> simp

theorem fst_define_eq_none_iff (environment : Environment) (entries : List (String × String)) :
    (environment.define entries).1 = none ↔ ∀ entry ∈ entries, fault? entry.1 entry.2 = none := by
  induction entries generalizing environment with
  | nil => simp [define]
  | cons entry rest ih =>
    rcases entry with ⟨name, value⟩
    rw [List.forall_mem_cons, define]
    cases hfault : fault? name value with
    | some error => simp
    | none => simp [ih]

theorem get?_define {entries : List (String × String)} (h : (entries.map Prod.fst).Nodup)
    (environment : Environment) (name : String) :
    (environment.define entries).2.get? name
      =
    ((takeable entries).lookup name).or (environment.get? name) := by
  induction entries generalizing environment with
  | nil => rfl
  | cons entry rest ih =>
    rcases entry with ⟨first, value⟩
    rw [List.map_cons, List.nodup_cons] at h
    obtain ⟨hfirst, hrest⟩ := h
    rw [define, takeable, List.takeWhile_cons]
    cases hfault : fault? first value with
    | some error => simp
    | none =>
      simp only [Option.isNone_none, if_true]
      rw [ih hrest, lookup_cons_eq_if]
      by_cases hname : name = first
      . -- The name does not occur again, so what is defined here stays.
        subst hname
        have hmissing : (takeable rest).lookup name = none := by
          rw [List.lookup_eq_none_iff]
          intro other hother
          have hmem : other.1 ∈ rest.map Prod.fst :=
            List.mem_map_of_mem ((List.takeWhile_sublist _).mem hother)
          simpa using fun heq : name = other.1 => hfirst (heq ▸ hmem)
        rw [if_pos rfl, hmissing, get?_set, Option.none_or, Option.some_or]
      . rw [if_neg hname, get?_set_of_ne hname]
        rfl

/-! ### Files of variables -/

theorem mem_missing_iff {environment : Environment} {text : String} {entry : String × String} :
    entry ∈ environment.missing text
      ↔
    environment.get? entry.1 = none
      ∧ (entry.1, some entry.2) ∈ Binding.values environment (Binding.ofText text) := by
  rcases entry with ⟨name, value⟩
  rw [missing, List.mem_filterMap]
  constructor
  . rintro ⟨⟨first, value?⟩, hmem, heq⟩
    cases hget : environment.get? first with
    | some set => simp [hget] at heq
    | none =>
      simp only [hget, Option.isSome_none, Bool.false_eq_true, if_false, Option.map_eq_some_iff,
        Prod.mk.injEq] at heq
      obtain ⟨_, rfl, rfl, rfl⟩ := heq
      exact ⟨hget, hmem⟩
  . rintro ⟨hget, hmem⟩
    exact ⟨_, hmem, by simp [hget]⟩

theorem nodup_missing (environment : Environment) (text : String) :
    ((environment.missing text).map Prod.fst).Nodup := by
  refine List.Nodup.sublist ?_ (Binding.nodup_values environment (Binding.ofText text))
  unfold missing
  induction Binding.values environment (Binding.ofText text) with
  | nil => exact List.Sublist.refl _
  | cons entry rest ih =>
    rcases entry with ⟨name, value?⟩
    rw [List.filterMap_cons, List.map_cons]
    cases hget : environment.get? name with
    | some set => simpa [hget] using ih.cons name
    | none =>
      cases value? with
      | none => simpa [hget] using ih.cons name
      | some value => simpa [hget] using ih.cons_cons name

theorem lookup_eq_some_iff_mem {α : Type} {entries : List (String × α)}
    (h : (entries.map Prod.fst).Nodup) {name : String} {value : α} :
    entries.lookup name = some value ↔ (name, value) ∈ entries := by
  induction entries with
  | nil => simp
  | cons entry rest ih =>
    rcases entry with ⟨first, found⟩
    rw [List.map_cons, List.nodup_cons] at h
    obtain ⟨hfirst, hrest⟩ := h
    rw [lookup_cons_eq_if, List.mem_cons, Prod.mk.injEq]
    split
    . next hname =>
      subst hname
      have hnone : (name, value) ∉ rest := fun hmem =>
        hfirst (List.mem_map.mpr ⟨(name, value), hmem, rfl⟩)
      simp [hnone, eq_comm]
    . next hname => simp [hname, ih hrest]

theorem lookup_missing (environment : Environment) (text name : String)
    (h : environment.get? name = none) :
    (environment.missing text).lookup name = environment.valueIn? text name := by
  ext value
  have hvalues := Binding.nodup_values environment (Binding.ofText text)
  rw [lookup_eq_some_iff_mem (nodup_missing environment text), mem_missing_iff,
    ← lookup_eq_some_iff_mem hvalues, valueIn?, Option.join_eq_some_iff]
  simp [h]

def newIn (environment : Environment) (text : String) : List (String × String) :=
  takeable (environment.missing text)

theorem get?_load (environment : Environment) (text name : String) :
    (environment.load text).2.get? name
      =
    (environment.get? name).or ((environment.newIn text).lookup name) := by
  rw [load, get?_define (nodup_missing environment text), newIn]
  cases hget : environment.get? name with
  | none => simp
  | some value =>
    have hmissing : (takeable (environment.missing text)).lookup name = none := by
      rw [List.lookup_eq_none_iff]
      intro entry hentry
      have hmem := mem_missing_iff.mp ((List.takeWhile_sublist _).mem hentry)
      simpa using fun heq : name = entry.1 => by simp [heq, hmem.1] at hget
    simp [hmissing]

theorem fst_load_eq_none_iff (environment : Environment) (text : String) :
    (environment.load text).1 = none
      ↔
    ∀ name value, environment.get? name = none → environment.valueIn? text name = some value →
      fault? name value = none := by
  have hnodup := nodup_missing environment text
  rw [load, fst_define_eq_none_iff]
  constructor
  . intro h name value hget hvalue
    rw [← lookup_missing environment text name hget, lookup_eq_some_iff_mem hnodup] at hvalue
    exact h (name, value) hvalue
  . rintro h ⟨name, value⟩ hentry
    have hget := (mem_missing_iff.mp hentry).1
    rw [← lookup_eq_some_iff_mem hnodup, lookup_missing environment text name hget] at hentry
    exact h name value hget hentry

theorem get?_load_of_taken {environment : Environment} {text : String}
    (h : (environment.load text).1 = none) (name : String) :
    (environment.load text).2.get? name
      =
    (environment.get? name).or (environment.valueIn? text name) := by
  have hall : takeable (environment.missing text) = environment.missing text := by
    rw [load, fst_define_eq_none_iff] at h
    rw [takeable, List.takeWhile_eq_self_iff]
    intro entry hentry
    rw [h entry hentry, Option.isNone_none]
  rw [get?_load, newIn, hall]
  cases hget : environment.get? name with
  | none => rw [lookup_missing environment text name hget]
  | some value => rfl

theorem extends_load (environment : Environment) (text : String) :
    environment.Extends (environment.load text).2 := by
  intro name value h
  rw [get?_load, h, Option.some_or]

end Environment

end MarkdownIntake.Storage
