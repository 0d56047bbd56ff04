import MarkdownIntake.Storage.Files

/-!
This module contains what is read from files after a write and after a removal.
-/

namespace MarkdownIntake.Storage

section

variable {κ β : Type} [BEq κ] [LawfulBEq κ] [DecidableEq κ]

theorem lookup_cons_eq_if (key : κ) (value : β) (rest : List (κ × β)) (other : κ) :
    ((key, value) :: rest).lookup other = if other = key then some value else rest.lookup other := by
  rw [List.lookup_cons]
  by_cases h : other = key
  . simp [h]
  . have hother : (other == key) = false := by simpa using h
    rw [hother, if_neg h]

theorem lookup_filter_of_ne {key other : κ} (h : other ≠ key) (entries : List (κ × β)) :
    (entries.filter (·.1 ≠ key)).lookup other = entries.lookup other := by
  induction entries with
  | nil => rfl
  | cons entry rest ih =>
    rcases entry with ⟨present, old⟩
    by_cases hpresent : present = key
    . rw [List.filter_cons_of_neg (by simp [hpresent]), ih, hpresent, lookup_cons_eq_if, if_neg h]
    . rw [List.filter_cons_of_pos (by simp [hpresent]), lookup_cons_eq_if, lookup_cons_eq_if, ih]

theorem isSome_lookup (key : κ) (entries : List (κ × β)) :
    (entries.lookup key).isSome = decide (key ∈ entries.map Prod.fst) := by
  induction entries with
  | nil => rfl
  | cons entry rest ih =>
    rcases entry with ⟨present, value⟩
    rw [lookup_cons_eq_if]
    by_cases h : key = present <;> simp [h, ih]

def setEntry (key : κ) (value : β) : List (κ × β) → List (κ × β)
  | [] => [(key, value)]
  | entry :: rest => if entry.1 = key then (key, value) :: rest else entry :: setEntry key value rest

theorem lookup_setEntry (key : κ) (value : β) (entries : List (κ × β)) (other : κ) :
    (setEntry key value entries).lookup other = if other = key then some value else entries.lookup other := by
  induction entries with
  | nil => exact lookup_cons_eq_if key value [] other
  | cons entry rest ih =>
    rcases entry with ⟨present, old⟩
    unfold setEntry
    split
    . next hpresent =>
      subst hpresent
      simp only [lookup_cons_eq_if]
      split <;> rfl
    . next hpresent =>
      rw [lookup_cons_eq_if, lookup_cons_eq_if, ih]
      split
      . next hother => rw [if_neg (hother ▸ hpresent)]
      . rfl

theorem map_fst_setEntry (key : κ) (value : β) (entries : List (κ × β)) :
    (setEntry key value entries).map Prod.fst
      =
    if key ∈ entries.map Prod.fst then entries.map Prod.fst else entries.map Prod.fst ++ [key] := by
  induction entries with
  | nil => rfl
  | cons entry rest ih =>
    rcases entry with ⟨present, old⟩
    by_cases h : present = key
    . simp [setEntry, h]
    . simp only [setEntry, if_neg h, List.map_cons, ih, List.mem_cons, Ne.symm h, false_or]
      split <;> rfl

end

namespace Files

theorem put_eq_setEntry (place : Path) (text : String) (entries : List (Path × String)) :
    put place text entries = setEntry place text entries := by
  induction entries with
  | nil => rfl
  | cons entry rest ih => rw [put, setEntry, ih]

theorem read?_congr {path other : Path} (h : path.place = other.place) (files : Files) :
    files.read? path = files.read? other := by
  rw [read?, read?, h]

@[simp]
theorem read?_write (files : Files) (path : Path) (text : String) :
    (files.write path text).read? path = some text := by
  rw [read?, write, put_eq_setEntry, lookup_setEntry, if_pos rfl]

theorem read?_write_of_ne {path other : Path} (h : other.place ≠ path.place) (files : Files)
    (text : String) : (files.write path text).read? other = files.read? other := by
  rw [read?, write, put_eq_setEntry, lookup_setEntry, if_neg h, read?]

theorem read?_remove_of_ne {path other : Path} (h : other.place ≠ path.place) (files : Files) :
    (files.remove path).read? other = files.read? other :=
  lookup_filter_of_ne h files.entries

@[simp]
theorem read?_remove (files : Files) (path : Path) : (files.remove path).read? path = none := by
  rw [read?, remove, List.lookup_eq_none_iff]
  intro entry hentry
  simpa using Ne.symm (of_decide_eq_true (List.mem_filter.mp hentry).2)

theorem read?_write_congr {files other : Files} {path : Path} (h : files.read? path = other.read? path)
    (written : Path) (text : String) :
    (files.write written text).read? path = (other.write written text).read? path := by
  by_cases hplace : path.place = written.place
  . rw [read?_congr hplace, read?_congr hplace, read?_write, read?_write]
  . rw [read?_write_of_ne hplace, read?_write_of_ne hplace, h]

theorem read?_remove_congr {files other : Files} {path : Path} (h : files.read? path = other.read? path)
    (removed : Path) : (files.remove removed).read? path = (other.remove removed).read? path := by
  by_cases hplace : path.place = removed.place
  . rw [read?_congr hplace, read?_congr hplace, read?_remove, read?_remove]
  . rw [read?_remove_of_ne hplace, read?_remove_of_ne hplace, h]

theorem eq_write_of_write? {files next : Files} {path : Path} {text : String}
    (h : files.write? path text = .ok next) : next = files.write path text := by
  unfold write? at h
  split at h
  . cases h
  . exact (Except.ok.inj h).symm

theorem write?_eq_error_iff {files : Files} {path : Path} {text : String} {error : WriteError} :
    files.write? path text = .error error ↔ files.obstacle? path = some error := by
  unfold write?
  cases files.obstacle? path with
  | none => simp
  | some => simp

/-! ### Files in the same places -/

def SamePlaces (files other : Files) : Prop :=
  files.entries.map Prod.fst = other.entries.map Prod.fst

namespace SamePlaces

variable {files other : Files}

protected theorem write (h : files.SamePlaces other) (path : Path) (text otherText : String) :
    (files.write path text).SamePlaces (other.write path otherText) := by
  unfold SamePlaces at h ⊢
  rw [Files.write, Files.write, put_eq_setEntry, put_eq_setEntry, map_fst_setEntry, map_fst_setEntry, h]

protected theorem remove (h : files.SamePlaces other) (path : Path) :
    (files.remove path).SamePlaces (other.remove path) := by
  have hremove (files : Files) : (files.remove path).entries.map Prod.fst
      = (files.entries.map Prod.fst).filter (· ≠ path.place) := by
    rw [Files.remove, List.filter_map]
    rfl
  unfold SamePlaces at h ⊢
  rw [hremove, hremove, h]

theorem isSome_read? (h : files.SamePlaces other) (path : Path) :
    (files.read? path).isSome = (other.read? path).isSome := by
  unfold SamePlaces at h
  rw [read?, read?, isSome_lookup, isSome_lookup, h]

theorem isFolder (h : files.SamePlaces other) (path : Path) :
    files.isFolder path = other.isFolder path := by
  have hfolder (files : Files) : files.isFolder path
      = (files.entries.map Prod.fst).any fun file =>
        file.root = path.place.root && path.place.parts.length < file.parts.length
          && path.place.parts.isPrefixOf file.parts := by
    rw [List.any_map]
    rfl
  unfold SamePlaces at h
  rw [hfolder, hfolder, h]

theorem obstacle? (h : files.SamePlaces other) (path : Path) :
    files.obstacle? path = other.obstacle? path := by
  simp only [Files.obstacle?, h.isFolder, h.isSome_read?]

end SamePlaces

end Files

end MarkdownIntake.Storage
