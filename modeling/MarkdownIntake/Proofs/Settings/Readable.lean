import MarkdownIntake.Proofs.Settings.Replay

/-!
This module contains what an update does to the rest of the stored settings. An update writes its value
without a look at the bounds, so the file is accepted again exactly if the value keeps the bound of its
key. If it does not, all settings are lost.
-/

namespace MarkdownIntake.Settings

open MarkdownIntake.Json MarkdownIntake.Number MarkdownIntake.Review MarkdownIntake.Storage

def Accepted (format : Format) (folder : Folder) (files : Files) : Prop :=
  ∃ text entries settings, files.read? folder.settingsFile = some text
    ∧ entriesOf format text = .ok (some entries) ∧ ofEntries entries = .ok settings

/-! ### Settings that are not valid -/

theorem read_of_checkKey {α : Type} {part : Section} {entries : List (Yaml.Value × Yaml.Value)}
    {key : Key} {read : Yaml.Value → Except Fault α} {present : α} {value : Yaml.Value}
    (hentry : Yaml.Value.entry? key.name entries = some value)
    (hfaults : (checkKey part entries key read present).1 = []) :
    read value = .ok (checkKey part entries key read present).2 := by
  unfold checkKey at *
  rw [hentry] at *
  cases hread : read value with
  | ok result => simp [hread]
  | error fault => simp [hread] at hfaults

theorem eq_of_readLeast {least n m : Int} (h : readLeast least (.ofJson (.int n)) = .ok m) : n = m := by
  by_cases hleast : least ≤ n
  . rw [readLeast_int hleast, Except.ok.injEq] at h
    exact h
  . simp [readLeast, readInt, textOf?, bind, Except.bind, hleast] at h

theorem eq_of_readPositive {x y : Binary64} (h : readPositive (.ofJson (.real x)) = .ok y) : x = y := by
  by_cases hpositive : x.isPositive
  . rw [readPositive_real hpositive, Except.ok.injEq] at h
    exact h
  . simp [readPositive, readReal, textOf?, bind, Except.bind, hpositive] at h

section

variable {settings : Settings} {members : List (Yaml.Value × Yaml.Value)}

theorem eq_of_checkLimits
    (h : ∀ key ∈ Section.review.keys,
      Yaml.Value.entry? key.name members = some (.ofJson (settings.get key)))
    (hfaults : (checkLimits members).1 = []) : settings.limits = (checkLimits members).2 := by
  simp only [Section.keys, List.forall_mem_cons] at h
  obtain ⟨hlength, hlimit, -⟩ := h
  simp only [checkLimits, List.append_eq_nil_iff] at hfaults ⊢
  have hlengthRead := eq_of_readLeast (read_of_checkKey hlength hfaults.1)
  have hlimitRead := eq_of_readLeast (read_of_checkKey hlimit hfaults.2)
  rw [← hlengthRead, ← hlimitRead]

theorem eq_of_checkTimeout
    (h : ∀ key ∈ Section.download.keys,
      Yaml.Value.entry? key.name members = some (.ofJson (settings.get key)))
    (hfaults : (checkTimeout members).1 = []) : settings.timeout = (checkTimeout members).2 :=
  eq_of_readPositive (read_of_checkKey (h .timeout (by decide)) hfaults)

end

theorem valid_of_ofEntries_record {settings read : Settings}
    {entries : List (Yaml.Value × Yaml.Value)}
    (h : ∀ part : Section, ∃ members, Yaml.Value.entry? part.name entries = some (.map members)
      ∧ ∀ key ∈ part.keys, Yaml.Value.entry? key.name members = some (.ofJson (settings.get key)))
    (hread : ofEntries entries = .ok read) : settings.Valid := by
  have hvalid := valid_of_ofEntries hread
  obtain ⟨limitMembers, hlimitPart, hlimits⟩ := h .review
  obtain ⟨timeoutMembers, htimeoutPart, htimeout⟩ := h .download
  simp only [ofEntries, checkPart_eq _ _ hlimitPart, checkPart_eq _ _ htimeoutPart] at hread
  split at hread
  . next hfaults =>
    simp only [List.append_eq_nil_iff] at hfaults
    obtain ⟨⟨⟨-, hlimitFaults⟩, htimeoutFaults⟩, -⟩ := hfaults
    rw [Except.ok.injEq] at hread
    subst hread
    obtain ⟨hlength, hlimit, hpositive⟩ := hvalid
    simp only [← eq_of_checkLimits hlimits hlimitFaults,
      ← eq_of_checkTimeout htimeout htimeoutFaults] at hlength hlimit hpositive
    exact ⟨hlength, hlimit, hpositive⟩
  . simp at hread

section

variable {format : Format} {settings : Settings} (hkeeps : format.KeepsSettings settings)
  (folder : Folder) (files : Files)
include hkeeps

theorem accepted_save_iff :
    Accepted format folder (save format folder files settings) ↔ settings.Valid := by
  obtain ⟨entries, hentries, hrecord⟩ := hkeeps.entriesOf
  refine ⟨?_, ?_⟩
  . rintro ⟨text, others, read, htext, hothers, hread⟩
    rw [read?_save hkeeps.1, Option.some.injEq] at htext
    rw [← htext, hentries, Except.ok.injEq, Option.some.injEq] at hothers
    exact valid_of_ofEntries_record hrecord (hothers ▸ hread)
  . intro hvalid
    exact ⟨_, entries, settings, read?_save hkeeps.1 folder files, hentries,
      ofEntries_record hvalid hrecord⟩

theorem load_save_of_not_valid (h : ¬ settings.Valid) :
    load format folder (save format folder files settings) = .ok {} := by
  obtain ⟨entries, hentries, hrecord⟩ := hkeeps.entriesOf
  have hfaults : (ofEntries entries).toOption = none := by
    cases hread : ofEntries entries with
    | error => rfl
    | ok => exact absurd (valid_of_ofEntries_record hrecord hread) h
  simp [load, read?_save hkeeps.1, ofText, hentries, hfaults, bind, Except.bind, pure, Except.pure]

theorem exists_load_save :
    ∃ loaded, load format folder (save format folder files settings) = .ok loaded := by
  by_cases hvalid : settings.Valid
  . exact ⟨settings, load_save hkeeps folder files hvalid⟩
  . exact ⟨{}, load_save_of_not_valid hkeeps folder files hvalid⟩

end

/-! ### One update -/

theorem Valid.admits {settings : Settings} (h : settings.Valid) (key : Key) :
    key.Admits (settings.get key) := by
  obtain ⟨hlength, hlimit, htimeout⟩ := h
  cases key
  case spaceId =>
    cases hspace : settings.entry.spaceId with
    | none => exact .inl (by simp [get, hspace, Value.ofOption])
    | some text => exact .inr ⟨text, by simp [get, hspace, Value.ofOption]⟩
  case maxLineLength => exact ⟨_, rfl, hlength⟩
  case longLineLimit => exact ⟨_, rfl, hlimit⟩
  case timeout => exact ⟨_, rfl, htimeout⟩
  all_goals exact ⟨_, rfl⟩

theorem valid_put?_iff {settings changed : Settings} {key : Key} {value : Value}
    (hvalid : settings.Valid) (h : settings.put? key value = some changed) :
    changed.Valid ↔ key.Admits value := by
  refine ⟨?_, ?_⟩
  . intro hchanged
    have hadmits := hchanged.admits key
    rw [get_of_put? h, if_pos rfl] at hadmits
    exact hadmits
  . intro hadmits
    obtain ⟨other, hother, hotherValid⟩ := hadmits.put? hvalid
    rw [h, Option.some.injEq] at hother
    exact hother ▸ hotherValid

theorem map_eq_ok {α β ε : Type} {f : α → β} {result : Except ε α} {b : β}
    (h : result.map f = .ok b) : ∃ a, result = .ok a ∧ f a = b := by
  cases result with
  | error => simp [Except.map] at h
  | ok a => exact ⟨a, rfl, by simpa [Except.map] using h⟩

theorem exists_put?_of_coerce {key : Key} {text : String} {coerced : Value}
    (h : key.coerce (.str text) = .ok coerced) (settings : Settings) :
    ∃ changed, settings.put? key coerced = some changed := by
  unfold Key.coerce at h
  cases key
  case publish | color | verbose | maxLineLength | longLineLimit | timeout =>
    simp only [Settings.coerce, get] at h
    obtain ⟨read, -, rfl⟩ := map_eq_ok h
    exact ⟨_, rfl⟩
  all_goals
    simp only [Settings.coerce, get, Value.ofOption, Except.ok.injEq] at h
    subst h
    exact ⟨_, rfl⟩

section

variable {format : Format} {folder : Folder} {files next : Files} {settings : Settings}

theorem save_of_update {text value : String} (hload : load format folder files = .ok settings)
    (h : update format folder files text (.str value) = .ok next) :
    ∃ key coerced changed, Key.ofText text = .ok key ∧ key.coerce (.str value) = .ok coerced
      ∧ settings.put? key coerced = some changed ∧ next = save format folder files changed := by
  cases hkey : Key.ofText text with
  | error error =>
    rw [update_error_of_ofText hload hkey] at h
    cases h
  | ok key =>
    cases hcoerce : coerce (settings.get key) (.str value) with
    | error error =>
      rw [update_error_of_coerce hload hkey hcoerce] at h
      cases h
    | ok coerced =>
      rw [coerce_get] at hcoerce
      obtain ⟨changed, hchanged⟩ := exists_put?_of_coerce hcoerce settings
      rw [update_of_coerce hload hkey (coerce_get settings key _ ▸ hcoerce),
        replaced_of_put? hchanged] at h
      split at h
      . exact ⟨key, coerced, changed, rfl, hcoerce, hchanged, (Except.ok.inj h).symm⟩
      . cases h

theorem admissible_iff_of_coerce {text value : String} {key : Key} {coerced : Value}
    (hkey : Key.ofText text = .ok key) (hcoerce : key.coerce (.str value) = .ok coerced) :
    (Change.update text (.str value)).Admissible ↔ key.Admits coerced :=
  ⟨fun h => h key coerced hkey hcoerce, Change.admissible_update_of_ok hkey hcoerce⟩

theorem exists_kept_of_update {text value : String}
    (hkeeps : format.KeepsChange folder files (.update text (.str value)))
    (hload : load format folder files = .ok settings)
    (h : update format folder files text (.str value) = .ok next) :
    ∃ changed, format.KeepsSettings changed ∧ next = save format folder files changed
      ∧ (changed.Valid ↔ (Change.update text (.str value)).Admissible)
      ∧ ∀ other : Key, Key.ofText text ≠ .ok other → changed.get other = settings.get other := by
  obtain ⟨key, coerced, changed, hkey, hcoerce, hchanged, hnext⟩ := save_of_update hload h
  refine ⟨changed, hkeeps settings changed hload (onRecord_of_put? hkey hcoerce hchanged), hnext, ?_, ?_⟩
  . rw [valid_put?_iff (valid_of_load hload) hchanged, admissible_iff_of_coerce hkey hcoerce]
  . intro other hother
    have hne : other ≠ key := fun heq => hother (heq ▸ hkey)
    rw [get_of_put? hchanged, if_neg hne]

end

/-! ### Runs of updates -/

def updates (run : List (String × String)) : List Change :=
  run.map fun (key, text) => .update key (.str text)

def filesAfter (format : Format) (folder : Folder) (files : Files) (run : List (String × String)) :
    Files :=
  (attempts (Change.onFiles format folder) files (updates run)).2

section

variable {format : Format} {folder : Folder} {files next : Files} {settings : Settings}
  {key text : String}

theorem exists_load_attempt (hload : load format folder files = .ok settings)
    (hkeeps : format.KeepsChange folder files (.update key (.str text))) :
    ∃ loaded, load format folder
      (attempt (Change.onFiles format folder) files (.update key (.str text))).2 = .ok loaded := by
  cases h : update format folder files key (.str text) with
  | error error =>
    rw [attempt_of_error h]
    exact ⟨settings, hload⟩
  | ok next =>
    rw [attempt_of_ok h]
    obtain ⟨changed, hchanged, rfl, -⟩ := exists_kept_of_update hkeeps hload h
    exact exists_load_save hchanged folder files

theorem exists_load_filesAfter {run : List (String × String)} {last : Change}
    (hload : load format folder files = .ok settings)
    (hkeeps : format.KeepsRun folder files (updates run ++ [last])) :
    ∃ loaded, load format folder (filesAfter format folder files run) = .ok loaded
      ∧ format.KeepsChange folder (filesAfter format folder files run) last := by
  induction run generalizing files settings with
  | nil => exact ⟨settings, hload, hkeeps.1⟩
  | cons item rest ih =>
    obtain ⟨loaded, hloaded⟩ := exists_load_attempt hload hkeeps.1
    exact ih hloaded hkeeps.2

theorem filesAfter_concat {run : List (String × String)}
    (h : update format folder (filesAfter format folder files run) key (.str text) = .ok next) :
    filesAfter format folder files (run ++ [(key, text)]) = next := by
  have hattempt :
      attempt (Change.onFiles format folder) (filesAfter format folder files run)
          (.update key (.str text))
        =
      (none, next) :=
    attempt_of_ok h
  rw [filesAfter, updates, List.map_append, attempts_append]
  exact congrArg Prod.snd hattempt

/--
After an update that is made the file is accepted exactly if the new value keeps the bound of its key.
If it does, then all other settings are loaded as before; if it does not, nothing but the default
settings is loaded. So if all updates up to then keep the bounds, then each setting is loaded as it was
written last.
-/
theorem accepted_after_update_iff {run : List (String × String)}
    (hmissing : files.read? folder.settingsFile = none)
    (hkeeps : format.KeepsRun folder files (updates (run ++ [(key, text)])))
    (hupdate : update format folder (filesAfter format folder files run) key (.str text) = .ok next) :
    ∃ settings, load format folder (filesAfter format folder files run) = .ok settings
      ∧ (Accepted format folder next ↔ (Change.update key (.str text)).Admissible)
      ∧ ((Change.update key (.str text)).Admissible →
        ∃ changed, load format folder next = .ok changed
          ∧ ∀ other : Key, Key.ofText key ≠ .ok other → changed.get other = settings.get other)
      ∧ (¬ (Change.update key (.str text)).Admissible → load format folder next = .ok {})
      ∧ ((∀ change ∈ updates (run ++ [(key, text)]), change.Admissible) →
        ∃ changed, load format folder next = .ok changed ∧ ∀ other : Key,
          changed.get other
            =
          (Change.lastWritten? other (updates (run ++ [(key, text)]))).getD
            (({} : Settings).get other)) := by
  have hstart : load format folder files = .ok {} := by simp [load, hmissing]
  have hlast : updates (run ++ [(key, text)]) = updates run ++ [.update key (.str text)] :=
    List.map_append
  obtain ⟨settings, hload, hkeepsLast⟩ := exists_load_filesAfter hstart (hlast ▸ hkeeps)
  obtain ⟨changed, hchanged, hnext, hvalid, hothers⟩ := exists_kept_of_update hkeepsLast hload hupdate
  refine ⟨settings, hload, ?_, ?_, ?_, ?_⟩
  . rw [hnext, accepted_save_iff hchanged, hvalid]
  . intro hadmissible
    exact ⟨changed, hnext ▸ load_save hchanged folder _ (hvalid.mpr hadmissible), hothers⟩
  . intro hadmissible
    exact hnext ▸ load_save_of_not_valid hchanged folder _ fun h => hadmissible (hvalid.mp h)
  . intro hadmissible
    obtain ⟨final, hfinal, hget, -⟩ := load_attempts hstart hadmissible hkeeps
    refine ⟨final, ?_, ?_⟩
    . rw [← filesAfter_concat hupdate]
      exact hfinal
    . intro other
      rw [hget, getD_lastWritten?_of_load hstart hadmissible hkeeps]

end

theorem keepsSettings_spaceId : yaml.KeepsSettings { entry.spaceId := "abc" } :=
  keepsSettings_of_isKept (by decide +kernel)

theorem keepsSettings_lengthZero :
    yaml.KeepsSettings { entry.spaceId := "abc", limits.maxLineLength := 0 } :=
  keepsSettings_of_isKept (by decide +kernel)

theorem accepted_after_update_iff_lengthZero :
    ∃ first next,
      yaml.KeepsRun ⟨{}⟩ {}
          (updates [("contentful.space_id", "abc"), ("validation.max_line_length", "0")])
        ∧ update yaml ⟨{}⟩ {} "contentful.space_id" (.str "abc") = .ok first
        ∧ filesAfter yaml ⟨{}⟩ {} [("contentful.space_id", "abc")] = first
        ∧ load yaml ⟨{}⟩ first = .ok { entry.spaceId := "abc" }
        ∧ update yaml ⟨{}⟩ first "validation.max_line_length" (.str "0") = .ok next
        ∧ ¬ Accepted yaml ⟨{}⟩ next ∧ load yaml ⟨{}⟩ next = .ok {} := by
  have hspaceKeeps := keepsSettings_spaceId
  have hzeroKeeps := keepsSettings_lengthZero
  -- Nothing but these two records is asked of the format.
  generalize yaml = format at hspaceKeeps hzeroKeeps ⊢
  have hspace : Key.ofText "contentful.space_id" = .ok .spaceId := Key.ofText_eq_ok_iff.mpr rfl
  have hlength : Key.ofText "validation.max_line_length" = .ok .maxLineLength := Key.ofText_eq_ok_iff.mpr rfl
  have hzero : Key.coerce .maxLineLength (.str "0") = .ok (.int 0) := rfl
  have hstart : load format ⟨{}⟩ {} = .ok {} := rfl
  have hfirst : update format ⟨{}⟩ {} "contentful.space_id" (.str "abc") = .ok _ :=
    update_ok hstart hspace rfl rfl hspaceKeeps.1
  have hafter : filesAfter format ⟨{}⟩ {} ([] ++ [("contentful.space_id", "abc")]) = _ :=
    filesAfter_concat hfirst
  have hload := load_save hspaceKeeps ⟨{}⟩ {} (by decide)
  have hnext := update_ok hload hlength hzero rfl hzeroKeeps.1
  have hbound : ¬ (Change.update "validation.max_line_length" (.str "0")).Admissible := by
    rw [admissible_iff_of_coerce hlength hzero]
    rintro ⟨n, hn, hleast⟩
    cases hn
    exact absurd hleast (by decide)
  have hmissing : ({} : Files).read? (Folder.settingsFile ⟨{}⟩) = none := rfl
  have hkeeps : format.KeepsRun ⟨{}⟩ {}
      (updates [("contentful.space_id", "abc"), ("validation.max_line_length", "0")]) := by
    refine ⟨keepsChange_of_onRecord hstart (onRecord_of_put? hspace rfl rfl) hspaceKeeps, ?_⟩
    rw [attempt_of_ok hfirst]
    exact ⟨keepsChange_of_onRecord hload (onRecord_of_put? hlength hzero rfl) hzeroKeeps,
      trivial⟩
  rw [← hafter] at hnext
  have hall := accepted_after_update_iff hmissing hkeeps hnext
  obtain ⟨_, _, haccepted, -, hlost, -⟩ := hall
  rw [hafter] at hnext haccepted hlost
  exact ⟨_, _, hkeeps, hfirst, hafter, hload, hnext, fun h => hbound (haccepted.mp h), hlost hbound⟩

/-- A length that no line can keep is written, and with it the space that was written before is lost. -/
theorem spaceId_lost_after_lengthZero :
    ∃ first next,
      update yaml ⟨{}⟩ {} "contentful.space_id" (.str "abc") = .ok first
        ∧ load yaml ⟨{}⟩ first = .ok { entry.spaceId := "abc" }
        ∧ update yaml ⟨{}⟩ first "validation.max_line_length" (.str "0") = .ok next
        ∧ ¬ Accepted yaml ⟨{}⟩ next ∧ load yaml ⟨{}⟩ next = .ok {} := by
  have hspace : Key.ofText "contentful.space_id" = .ok .spaceId := Key.ofText_eq_ok_iff.mpr rfl
  have hlength : Key.ofText "validation.max_line_length" = .ok .maxLineLength := Key.ofText_eq_ok_iff.mpr rfl
  have hzero : Key.coerce .maxLineLength (.str "0") = .ok (.int 0) := rfl
  have hstart : load yaml ⟨{}⟩ {} = .ok {} := rfl
  have hfirst : update yaml ⟨{}⟩ {} "contentful.space_id" (.str "abc") = .ok _ :=
    update_ok hstart hspace rfl rfl keepsSettings_spaceId.1
  have hload := load_save keepsSettings_spaceId ⟨{}⟩ {} (by decide)
  have hnext := update_ok hload hlength hzero rfl keepsSettings_lengthZero.1
  have hbound : ¬ Settings.Valid { entry.spaceId := "abc", limits.maxLineLength := 0 } := by decide
  refine ⟨_, _, hfirst, hload, hnext, ?_, load_save_of_not_valid keepsSettings_lengthZero ⟨{}⟩ _ hbound⟩
  exact fun h => hbound ((accepted_save_iff keepsSettings_lengthZero ⟨{}⟩ _).mp h)

end MarkdownIntake.Settings
