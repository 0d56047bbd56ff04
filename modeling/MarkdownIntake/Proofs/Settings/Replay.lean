import MarkdownIntake.Proofs.Attempts
import MarkdownIntake.Proofs.Settings.Kept
import Mathlib.Data.Option.Basic

/-!
This module contains runs of changes of the stored settings. What is loaded after a run is the record
that the same changes make in memory, and a setting is loaded as it was written last.
-/

namespace MarkdownIntake.Settings

open MarkdownIntake.Json MarkdownIntake.Storage

inductive Change where
  | save (settings : Settings)
  | update (key : String) (value : Value)

namespace Change

def onFiles (format : Format) (folder : Folder) (files : Files) : Change → Except ChangeError Files
  | .save settings => .ok (Settings.save format folder files settings)
  | .update key value => Settings.update format folder files key value

def onRecord (record : Key → Value) : Change → Except UpdateError (Key → Value)
  | .save settings => .ok settings.get
  | .update text value => do
    let key ← Key.ofText text
    return Function.update record key (← coerce (record key) value)

/--
A change that keeps the settings valid if it is made: valid settings are saved, and a value, once it is
brought to the kind of its key, is one that the key admits.
-/
def Admissible : Change → Prop
  | .save settings => settings.Valid
  | .update text value =>
    ∀ key coerced, Key.ofText text = .ok key → key.coerce value = .ok coerced → key.Admits coerced

theorem admissible_update_of_ok {text : String} {key : Key} {value coerced : Value}
    (hkey : Key.ofText text = .ok key) (hcoerce : key.coerce value = .ok coerced)
    (h : key.Admits coerced) : (update text value).Admissible := by
  intro key' coerced' hkey' hcoerce'
  rw [hkey, Except.ok.injEq] at hkey'
  subst hkey'
  rw [hcoerce, Except.ok.injEq] at hcoerce'
  exact hcoerce' ▸ h

theorem admissible_update_of_error {text : String} {error : UpdateError} (value : Value)
    (h : Key.ofText text = .error error) : (update text value).Admissible := by
  intro key coerced hkey
  rw [h] at hkey
  cases hkey

def written? (key : Key) : Change → Option Value
  | .save settings => some (settings.get key)
  | .update text value =>
    if (Key.ofText text).toOption = some key then (key.coerce value).toOption else none

def lastWritten? (key : Key) (changes : List Change) : Option Value :=
  (changes.filterMap (written? key)).getLast?

end Change

def loadAfter (format : Format) (folder : Folder) (files : Files) (changes : List Change) :
    Except LoadError Settings :=
  load format folder (attempts (Change.onFiles format folder) files changes).2

/-- What a change writes, if it does, is the record of settings that the format keeps. -/
def Format.KeepsChange (format : Format) (folder : Folder) (files : Files) (change : Change) : Prop :=
  ∀ loaded settings : Settings, load format folder files = .ok loaded →
    change.onRecord loaded.get = .ok settings.get → format.KeepsSettings settings

def Format.KeepsRun (format : Format) (folder : Folder) : Files → List Change → Prop
  | _, [] => True
  | files, change :: rest =>
    format.KeepsChange folder files change
      ∧ format.KeepsRun folder (attempt (Change.onFiles format folder) files change).2 rest

def Holds (format : Format) (folder : Folder) (files : Files) (record : Key → Value) : Prop :=
  ∃ settings, load format folder files = .ok settings ∧ settings.get = record

/-! ### One change -/

section

variable {format : Format} {folder : Folder} {files : Files} {settings : Settings}

theorem update_error_of_ofText {text : String} {value : Value} {error : UpdateError}
    (hload : load format folder files = .ok settings) (h : Key.ofText text = .error error) :
    update format folder files text value = .error (.notChanged error) := by
  simp [update, changed, hload, h, bind, Except.bind, Except.mapError]

theorem update_error_of_coerce {text : String} {key : Key} {value : Value} {error : UpdateError}
    (hload : load format folder files = .ok settings) (hkey : Key.ofText text = .ok key)
    (h : coerce (settings.get key) value = .error error) :
    update format folder files text value = .error (.notChanged error) := by
  simp [update, changed, hload, hkey, h, bind, Except.bind, Except.mapError]

theorem update_of_coerce {text : String} {key : Key} {value coerced : Value}
    (hload : load format folder files = .ok settings) (hkey : Key.ofText text = .ok key)
    (hcoerce : coerce (settings.get key) value = .ok coerced) :
    update format folder files text value
      =
    if format.writes (settings.replaced key coerced) then
      .ok (store format folder files (settings.replaced key coerced))
    else .error (.notChanged .unwritable) := by
  simp [update, changed, hload, hkey, hcoerce, bind, Except.bind, Except.mapError, pure, Except.pure]

theorem update_ok {text : String} {key : Key} {value coerced : Value} {next : Settings}
    (hload : load format folder files = .ok settings) (hkey : Key.ofText text = .ok key)
    (hcoerce : coerce (settings.get key) value = .ok coerced)
    (hnext : settings.put? key coerced = some next) (hwrites : format.writes next.toJson) :
    update format folder files text value = .ok (save format folder files next) := by
  rw [update_of_coerce hload hkey hcoerce, replaced_of_put? hnext, if_pos hwrites]
  rfl

theorem get_eq_update_of_put? {key : Key} {value : Value} {next : Settings}
    (h : settings.put? key value = some next) :
    next.get = Function.update settings.get key value := by
  funext other
  simp [get_of_put? h, Function.update_apply]

theorem onRecord_error_of_ofText {text : String} {value : Value} {error : UpdateError}
    (record : Key → Value) (h : Key.ofText text = .error error) :
    (Change.update text value).onRecord record = .error error := by
  simp [Change.onRecord, h, bind, Except.bind]

theorem onRecord_error_of_coerce {record : Key → Value} {text : String} {key : Key} {value : Value}
    {error : UpdateError} (hkey : Key.ofText text = .ok key)
    (h : coerce (record key) value = .error error) :
    (Change.update text value).onRecord record = .error error := by
  simp [Change.onRecord, hkey, h, bind, Except.bind]

theorem onRecord_ok {record : Key → Value} {text : String} {key : Key} {value coerced : Value}
    (hkey : Key.ofText text = .ok key) (hcoerce : coerce (record key) value = .ok coerced) :
    (Change.update text value).onRecord record = .ok (Function.update record key coerced) := by
  simp [Change.onRecord, hkey, hcoerce, bind, Except.bind, pure, Except.pure]

theorem onRecord_of_put? {text : String} {key : Key} {value coerced : Value} {next : Settings}
    (hkey : Key.ofText text = .ok key) (hcoerce : key.coerce value = .ok coerced)
    (hnext : settings.put? key coerced = some next) :
    (Change.update text value).onRecord settings.get = .ok next.get := by
  rw [onRecord_ok hkey (coerce_get settings key value ▸ hcoerce), get_eq_update_of_put? hnext]

theorem Holds.attempt {record : Key → Value} (h : Holds format folder files record) {change : Change}
    (hadmissible : change.Admissible) (hkeeps : format.KeepsChange folder files change) :
    (attempt (Change.onFiles format folder) files change).1 =
        (attempt Change.onRecord record change).1.map .notChanged
      ∧ Holds format folder (attempt (Change.onFiles format folder) files change).2
        (attempt Change.onRecord record change).2 := by
  obtain ⟨settings, hload, rfl⟩ := h
  cases change with
  | save new =>
    exact ⟨rfl, new, load_save (hkeeps settings new hload rfl) folder files hadmissible, rfl⟩
  | update text value =>
    cases hkey : Key.ofText text with
    | error error =>
      rw [attempt_of_error (update_error_of_ofText hload hkey),
        attempt_of_error (onRecord_error_of_ofText _ hkey)]
      exact ⟨rfl, settings, hload, rfl⟩
    | ok key =>
      cases hcoerce : coerce (settings.get key) value with
      | error error =>
        rw [attempt_of_error (update_error_of_coerce hload hkey hcoerce),
          attempt_of_error (onRecord_error_of_coerce hkey hcoerce)]
        exact ⟨rfl, settings, hload, rfl⟩
      | ok coerced =>
        -- What was loaded is valid, and the key admits the new value, so the format keeps the result.
        have hcoerceKey := coerce_get settings key value ▸ hcoerce
        obtain ⟨next, hnext, hvalid⟩ := (hadmissible key coerced hkey hcoerceKey).put? (valid_of_load hload)
        have hrecord := onRecord_of_put? hkey hcoerceKey hnext
        have hnextKept := hkeeps settings next hload hrecord
        rw [attempt_of_ok (update_ok hload hkey hcoerce hnext hnextKept.1), attempt_of_ok hrecord]
        exact ⟨rfl, next, load_save hnextKept folder files hvalid, rfl⟩

theorem keepsChange_of_onRecord {change : Change} {next : Settings}
    (hload : load format folder files = .ok settings)
    (hrecord : change.onRecord settings.get = .ok next.get) (hkeeps : format.KeepsSettings next) :
    format.KeepsChange folder files change := by
  intro loaded written hloaded hwritten
  rw [hload, Except.ok.injEq] at hloaded
  rw [← hloaded, hrecord, Except.ok.injEq] at hwritten
  rw [← ext_get fun key => congrFun hwritten key]
  exact hkeeps

theorem keepsChange_of_onRecord_error {change : Change} {error : UpdateError}
    (hload : load format folder files = .ok settings)
    (hrecord : change.onRecord settings.get = .error error) : format.KeepsChange folder files change := by
  intro loaded written hloaded hwritten
  rw [hload, Except.ok.injEq] at hloaded
  rw [← hloaded, hrecord] at hwritten
  cases hwritten

theorem attempt_onRecord (settings : Settings) (change : Change) (key : Key) :
    (attempt Change.onRecord settings.get change).2 key =
      (change.written? key).getD (settings.get key) := by
  cases change with
  | save new => rfl
  | update text value =>
    cases hkey : Key.ofText text with
    | error error =>
      rw [attempt_of_error (onRecord_error_of_ofText _ hkey)]
      simp [Change.written?, hkey, Except.toOption]
    | ok named =>
      cases hcoerce : coerce (settings.get named) value with
      | error error =>
        rw [attempt_of_error (onRecord_error_of_coerce hkey hcoerce)]
        rw [coerce_get] at hcoerce
        by_cases h : named = key
        . simp [Change.written?, hkey, Except.toOption, ← h, hcoerce]
        . simp [Change.written?, hkey, Except.toOption, h]
      | ok coerced =>
        rw [attempt_of_ok (onRecord_ok hkey hcoerce)]
        rw [coerce_get] at hcoerce
        by_cases h : named = key
        . simp [Change.written?, hkey, Except.toOption, ← h, hcoerce]
        . simp [Change.written?, hkey, Except.toOption, h, Ne.symm h]

end

/-! ### Runs of changes -/

namespace Change

@[simp]
theorem lastWritten?_nil (key : Key) : lastWritten? key [] = none :=
  rfl

theorem getD_lastWritten?_cons (key : Key) (change : Change) (rest : List Change) (value : Value) :
    (lastWritten? key (change :: rest)).getD value =
      (lastWritten? key rest).getD ((change.written? key).getD value) := by
  unfold lastWritten?
  cases h : change.written? key with
  | none => rw [List.filterMap_cons_none h, Option.getD_none]
  | some => rw [List.filterMap_cons_some h, List.getLast?_cons, Option.getD_some, Option.getD_some]

theorem written?_update_eq_none_or {a b : String} (h : a ≠ b) (v w : Value) (key : Key) :
    (update a v).written? key = none ∨ (update b w).written? key = none := by
  by_cases ha : (Key.ofText a).toOption = some key
  . by_cases hb : (Key.ofText b).toOption = some key
    . -- A key is written in one way only.
      cases hofA : Key.ofText a <;> cases hofB : Key.ofText b <;>
        simp_all [Except.toOption]
      exact absurd (Key.ofText_inj hofA hofB) h
    . exact .inr (if_neg hb)
  . exact .inl (if_neg ha)

theorem lastWritten?_swap (before after : List Change) {a b : String} (h : a ≠ b) (v w : Value)
    (key : Key) :
    lastWritten? key (before ++ update a v :: update b w :: after) =
      lastWritten? key (before ++ update b w :: update a v :: after) := by
  unfold lastWritten?
  rcases written?_update_eq_none_or h v w key with hnone | hnone
  . simp only [List.filterMap_append, List.filterMap_cons, hnone]
  . simp only [List.filterMap_append, List.filterMap_cons, hnone]

theorem lastWritten?_repeat (before after : List Change) (change : Change) (key : Key) :
    lastWritten? key (before ++ change :: change :: after) =
      lastWritten? key (before ++ change :: after) := by
  unfold lastWritten?
  cases h : change.written? key with
  | none => simp only [List.filterMap_append, List.filterMap_cons, h]
  | some =>
    simp only [List.filterMap_append, List.filterMap_cons, h, List.getLast?_append, List.getLast?_cons,
      Option.getD_some]

end Change

section

variable {format : Format} {folder : Folder} {files : Files} {start : Settings}
  {changes others : List Change}

theorem getD_lastWritten?_of_load (hstart : load format folder files = .ok start)
    (hchanges : ∀ change ∈ changes, change.Admissible) (hkeeps : format.KeepsRun folder files changes)
    (key : Key) :
    (attempts Change.onRecord start.get changes).2 key =
      (Change.lastWritten? key changes).getD (start.get key) := by
  induction changes generalizing files start with
  | nil => rfl
  | cons change rest ih =>
    obtain ⟨hchange, hrest⟩ := List.forall_mem_cons.mp hchanges
    have hholds : Holds format folder files start.get := ⟨start, hstart, rfl⟩
    obtain ⟨-, next, hload, hnext⟩ := hholds.attempt hchange hkeeps.1
    calc (attempts Change.onRecord start.get (change :: rest)).2 key
      _ = (attempts Change.onRecord next.get rest).2 key := by rw [hnext]; rfl
      _ = (Change.lastWritten? key rest).getD (next.get key) := ih hload hrest hkeeps.2
      _ = (Change.lastWritten? key (change :: rest)).getD (start.get key) := by
        rw [hnext, attempt_onRecord, Change.getD_lastWritten?_cons]

theorem Format.KeepsRun.cons {change : Change} {next : Settings}
    (hload : load format folder files = .ok start) (hadmissible : change.Admissible)
    (hrecord : change.onRecord start.get = .ok next.get) (hkeeps : format.KeepsSettings next)
    (hrest : ∀ after, load format folder after = .ok next → format.KeepsRun folder after changes) :
    format.KeepsRun folder files (change :: changes) := by
  have hchange := keepsChange_of_onRecord hload hrecord hkeeps
  have hholds : Holds format folder files start.get := ⟨start, hload, rfl⟩
  obtain ⟨-, loaded, hloaded, hget⟩ := hholds.attempt hadmissible hchange
  rw [attempt_of_ok hrecord] at hget
  exact ⟨hchange, hrest _ (ext_get (fun key => congrFun hget key) ▸ hloaded)⟩

theorem Format.KeepsRun.cons_of_error {change : Change} {error : UpdateError}
    (hload : load format folder files = .ok start) (hadmissible : change.Admissible)
    (hrecord : change.onRecord start.get = .error error)
    (hrest : ∀ after, load format folder after = .ok start → format.KeepsRun folder after changes) :
    format.KeepsRun folder files (change :: changes) := by
  have hchange := keepsChange_of_onRecord_error hload hrecord
  have hholds : Holds format folder files start.get := ⟨start, hload, rfl⟩
  obtain ⟨-, loaded, hloaded, hget⟩ := hholds.attempt hadmissible hchange
  rw [attempt_of_error hrecord] at hget
  exact ⟨hchange, hrest _ (ext_get (fun key => congrFun hget key) ▸ hloaded)⟩

theorem load_attempts (hstart : load format folder files = .ok start)
    (hchanges : ∀ change ∈ changes, change.Admissible) (hkeeps : format.KeepsRun folder files changes) :
    ∃ final, loadAfter format folder files changes = .ok final
      ∧ final.get = (attempts Change.onRecord start.get changes).2
      ∧ (attempts (Change.onFiles format folder) files changes).1
          =
        (attempts Change.onRecord start.get changes).1.map (Option.map .notChanged) := by
  have hstep : ∀ change rest files record,
      (Holds format folder files record ∧ (∀ other ∈ change :: rest, other.Admissible)
          ∧ format.KeepsRun folder files (change :: rest)) →
        (attempt (Change.onFiles format folder) files change).1
            = (attempt Change.onRecord record change).1.map .notChanged
          ∧ Holds format folder (attempt (Change.onFiles format folder) files change).2
            (attempt Change.onRecord record change).2
          ∧ (∀ other ∈ rest, other.Admissible)
          ∧ format.KeepsRun folder (attempt (Change.onFiles format folder) files change).2 rest := by
    rintro change rest files record ⟨hholds, hadmissible, hkeeps⟩
    obtain ⟨hchange, hrest⟩ := List.forall_mem_cons.mp hadmissible
    obtain ⟨herror, hnext⟩ := hholds.attempt hchange hkeeps.1
    exact ⟨herror, hnext, hrest, hkeeps.2⟩
  obtain ⟨herrors, ⟨final, hload, hfinal⟩, -⟩ :=
    attempts_refine (R := fun changes files record => Holds format folder files record
      ∧ (∀ change ∈ changes, change.Admissible) ∧ format.KeepsRun folder files changes)
      hstep ⟨⟨start, hstart, rfl⟩, hchanges, hkeeps⟩
  exact ⟨final, hload, hfinal, herrors⟩

theorem load_attempts_congr (hstart : load format folder files = .ok start)
    (hchanges : ∀ change ∈ changes, change.Admissible)
    (hothers : ∀ change ∈ others, change.Admissible) (hkeeps : format.KeepsRun folder files changes)
    (hkeepsOthers : format.KeepsRun folder files others)
    (h : ∀ key, Change.lastWritten? key changes = Change.lastWritten? key others) :
    loadAfter format folder files changes = loadAfter format folder files others := by
  obtain ⟨final, hload, hfinal, -⟩ := load_attempts hstart hchanges hkeeps
  obtain ⟨final', hload', hfinal', -⟩ := load_attempts hstart hothers hkeepsOthers
  have heq : final = final' := by
    apply ext_get
    intro key
    rw [hfinal, hfinal', getD_lastWritten?_of_load hstart hchanges hkeeps,
      getD_lastWritten?_of_load hstart hothers hkeepsOthers, h key]
  rw [hload, hload', heq]

end

/--
The stored settings refine a record in memory. Also, the last value that is written under a key is the
one that is loaded, the order of updates under two keys does not matter, and neither does an update
that is made twice.
-/
theorem stored_refines_record {format : Format} {folder : Folder} {files : Files} {start : Settings}
    (hstart : load format folder files = .ok start) :
    (∀ changes : List Change, (∀ change ∈ changes, change.Admissible) →
      format.KeepsRun folder files changes →
      ∃ final, loadAfter format folder files changes = .ok final
        ∧ final.get = (attempts Change.onRecord start.get changes).2
        ∧ (attempts (Change.onFiles format folder) files changes).1
            =
          (attempts Change.onRecord start.get changes).1.map (Option.map .notChanged)
        ∧ ∀ key, final.get key = (Change.lastWritten? key changes).getD (start.get key))
      ∧ (∀ (before after : List Change) (a b : String) (v w : Value), a ≠ b →
        (∀ change ∈ before ++ .update a v :: .update b w :: after, change.Admissible) →
        format.KeepsRun folder files (before ++ .update a v :: .update b w :: after) →
        format.KeepsRun folder files (before ++ .update b w :: .update a v :: after) →
          loadAfter format folder files (before ++ .update a v :: .update b w :: after)
            =
          loadAfter format folder files (before ++ .update b w :: .update a v :: after))
      ∧ (∀ (before after : List Change) (key : String) (value : Value),
        (∀ change ∈ before ++ .update key value :: after, change.Admissible) →
        format.KeepsRun folder files (before ++ .update key value :: .update key value :: after) →
        format.KeepsRun folder files (before ++ .update key value :: after) →
          loadAfter format folder files (before ++ .update key value :: .update key value :: after)
            =
          loadAfter format folder files (before ++ .update key value :: after)) := by
  refine ⟨?_, ?_, ?_⟩
  . intro changes hchanges hkeeps
    obtain ⟨final, hload, hfinal, herrors⟩ := load_attempts hstart hchanges hkeeps
    refine ⟨final, hload, hfinal, herrors, ?_⟩
    intro key
    rw [hfinal, getD_lastWritten?_of_load hstart hchanges hkeeps]
  . intro before after a b v w hne hchanges hkeeps hkeepsOthers
    refine load_attempts_congr hstart hchanges ?_ hkeeps hkeepsOthers
      (Change.lastWritten?_swap _ _ hne v w)
    intro change hchange
    apply hchanges
    simp only [List.mem_append, List.mem_cons] at hchange ⊢
    rcases hchange with h | h | h | h
    . exact .inl h
    . exact .inr (.inr (.inl h))
    . exact .inr (.inl h)
    . exact .inr (.inr (.inr h))
  . intro before after key value hchanges hkeeps hkeepsOthers
    refine load_attempts_congr hstart ?_ hchanges hkeeps hkeepsOthers
      (Change.lastWritten?_repeat _ _ _)
    intro change hchange
    apply hchanges
    simp only [List.mem_append, List.mem_cons] at hchange ⊢
    rcases hchange with h | h | h | h
    . exact .inl h
    . exact .inr (.inl h)
    . exact .inr (.inl h)
    . exact .inr (.inr h)

def sampleChanges : List Change :=
  [.update "validation.max_line_length" (.str "80"), .update "fetch.retries" (.int 3),
    .save { entry.locale := "de", limits.longLineLimit := 0 },
    .update "contentful.publish" (.str "no"), .update "fetch.timeout" (.int 5)]

theorem stored_refines_record_sampleChanges :
    load yaml ⟨{}⟩ {} = .ok {} ∧ yaml.KeepsRun ⟨{}⟩ {} sampleChanges
      ∧ loadAfter yaml ⟨{}⟩ {} sampleChanges =
        .ok { entry := { locale := "de", publish := false }, limits.longLineLimit := 0,
              timeout := .ofInt 5 } := by
  have hstart : load yaml ⟨{}⟩ {} = .ok {} := rfl
  have hlength : Key.ofText "validation.max_line_length" = .ok .maxLineLength := Key.ofText_eq_ok_iff.mpr rfl
  have hretries : Key.ofText "fetch.retries" = .error (.unknownSetting "retries" "fetch") := rfl
  have hpublish : Key.ofText "contentful.publish" = .ok .publish := Key.ofText_eq_ok_iff.mpr rfl
  have htimeout : Key.ofText "fetch.timeout" = .ok .timeout := Key.ofText_eq_ok_iff.mpr rfl
  have hcoerceLength : Key.coerce .maxLineLength (.str "80") = .ok (.int 80) := rfl
  have hcoercePublish : Key.coerce .publish (.str "no") = .ok (.bool false) := rfl
  have hcoerceTimeout : Key.coerce .timeout (.int 5) = .ok (.real (.ofInt 5)) := rfl
  have hadmissible : ∀ change ∈ sampleChanges, change.Admissible := by
    simp only [sampleChanges, List.forall_mem_cons]
    refine ⟨?_, ?_, ?_, ?_, ?_, ?_⟩
    . exact Change.admissible_update_of_ok hlength hcoerceLength ⟨80, rfl, by decide⟩
    . exact Change.admissible_update_of_error _ hretries
    . exact ⟨by decide, by decide, by decide⟩
    . exact Change.admissible_update_of_ok hpublish hcoercePublish ⟨false, rfl⟩
    . exact Change.admissible_update_of_ok htimeout hcoerceTimeout ⟨.ofInt 5, rfl, by decide⟩
    . simp
  have hfirst := onRecord_of_put? hlength hcoerceLength
    (rfl : ({} : Settings).put? .maxLineLength (.int 80) = some { limits.maxLineLength := 80 })
  have hfourth := onRecord_of_put? hpublish hcoercePublish
    (rfl : ({ entry.locale := "de", limits.longLineLimit := 0 } : Settings).put? .publish (.bool false)
      = some { entry := { locale := "de", publish := false }, limits.longLineLimit := 0 })
  have hfifth := onRecord_of_put? htimeout hcoerceTimeout
    (rfl : ({ entry := { locale := "de", publish := false }, limits.longLineLimit := 0 } :
        Settings).put? .timeout (.real (.ofInt 5))
      = some { entry := { locale := "de", publish := false }, limits.longLineLimit := 0,
               timeout := .ofInt 5 })
  have hkeeps : yaml.KeepsRun ⟨{}⟩ {} sampleChanges := by
    -- Each record that is written is kept, and the next change starts from it.
    simp only [sampleChanges, List.forall_mem_cons] at hadmissible
    obtain ⟨hlengthAdmits, hretriesAdmits, hsaveAdmits, hpublishAdmits, htimeoutAdmits, -⟩ := hadmissible
    apply Format.KeepsRun.cons hstart hlengthAdmits hfirst (keepsSettings_of_isKept (by decide +kernel))
    intro _ hload
    apply Format.KeepsRun.cons_of_error hload hretriesAdmits (onRecord_error_of_ofText _ hretries)
    intro _ hload
    apply Format.KeepsRun.cons hload hsaveAdmits rfl (keepsSettings_of_isKept (by decide +kernel))
    intro _ hload
    apply Format.KeepsRun.cons hload hpublishAdmits hfourth
      (keepsSettings_of_isKept (by decide +kernel))
    intro _ hload
    exact Format.KeepsRun.cons hload htimeoutAdmits hfifth
      (keepsSettings_of_isKept (by decide +kernel)) fun _ _ => trivial
  obtain ⟨final, hload, -, -, hlast⟩ :=
    (stored_refines_record hstart).1 sampleChanges hadmissible hkeeps
  simp only [sampleChanges, Change.getD_lastWritten?_cons, Change.lastWritten?_nil, Change.written?,
    hlength, hretries, hpublish, htimeout, Except.toOption, Option.getD_none, Option.getD_some] at hlast
  refine ⟨hstart, hkeeps, ?_⟩
  rw [hload, Except.ok.injEq]
  apply ext_get
  intro key
  rw [hlast]
  cases key <;> simp [get, hcoercePublish, hcoerceTimeout]

end MarkdownIntake.Settings
