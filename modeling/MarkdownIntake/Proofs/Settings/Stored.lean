import MarkdownIntake.Proofs.Settings.Key
import MarkdownIntake.Proofs.Storage.Files
import MarkdownIntake.Settings.Store

/-!
This module contains the way of settings through a file. Provided that the format gives their record
back, valid settings are loaded as they were saved; and whatever a file holds, the settings that are
loaded from it are valid.
-/

namespace MarkdownIntake.Settings

open MarkdownIntake.Json MarkdownIntake.Number MarkdownIntake.Review MarkdownIntake.Storage

/-- A value that was read from a file holds a record: a map of parts with an entry for each setting. -/
def HoldsRecord (read : Yaml.Value) (valueOf : Key → Value) : Prop :=
  ∃ entries, read = .map entries ∧ Yaml.Value.hasTextKeys entries = true
    ∧ ∀ part : Section, ∃ members, Yaml.Value.entry? part.name entries = some (.map members)
      ∧ ∀ key ∈ part.keys, Yaml.Value.entry? key.name members = some (.ofJson (valueOf key))

/-- A format writes the record of these settings and reads it back from the text. -/
def Format.KeepsSettings (format : Format) (settings : Settings) : Prop :=
  format.writes settings.toJson ∧ ∃ read,
    format.parse (format.render settings.toJson) = .ok read ∧ HoldsRecord read settings.get

/-! ### Where the two files are -/

namespace Folder

theorem place_settingsFile (folder : Folder) :
    folder.settingsFile.place.parts = folder.path.place.parts ++ ["config.yaml"] := by
  have hname : Path.ofText "config.yaml" = { parts := ["config.yaml"] } := rfl
  simp [settingsFile, hname, Path.join, Path.place, Path.step]

theorem place_credentialsFile (folder : Folder) :
    folder.credentialsFile.place.parts = folder.path.place.parts ++ ["credentials.yaml"] := by
  have hname : Path.ofText "credentials.yaml" = { parts := ["credentials.yaml"] } := rfl
  simp [credentialsFile, hname, Path.join, Path.place, Path.step]

theorem place_ne (folder : Folder) : folder.settingsFile.place ≠ folder.credentialsFile.place := by
  intro h
  have hparts := congrArg Path.parts h
  rw [place_settingsFile, place_credentialsFile] at hparts
  simp at hparts

end Folder

/-! ### Checking a record -/

theorem checkKey_eq {α : Type} {part : Section} {entries : List (Yaml.Value × Yaml.Value)} {key : Key}
    {read : Yaml.Value → Except Fault α} {value : Yaml.Value} {result : α} (present : α)
    (hentry : Yaml.Value.entry? key.name entries = some value) (hread : read value = .ok result) :
    checkKey part entries key read present = ([], result) := by
  simp [checkKey, hentry, hread]

theorem checkPart_eq {α : Type} {part : Section} {entries members : List (Yaml.Value × Yaml.Value)}
    (check : List (Yaml.Value × Yaml.Value) → Checked α) (present : α)
    (hentry : Yaml.Value.entry? part.name entries = some (.map members)) :
    checkPart part entries check present = check members := by
  simp [checkPart, hentry]

theorem readOptionalText_ofOption (text? : Option String) :
    readOptionalText (.ofJson (.ofOption text?)) = .ok text? := by
  cases text? <;> simp [Value.ofOption, readOptionalText, readText, textOf?, Except.map]

theorem readText_str (text : String) : readText (.ofJson (.str text)) = .ok text := by
  simp [readText, textOf?]

theorem readFlag_bool (flag : Bool) : readFlag (.ofJson (.bool flag)) = .ok flag := by
  simp [readFlag, textOf?]

theorem readLeast_int {least n : Int} (h : least ≤ n) :
    readLeast least (.ofJson (.int n)) = .ok n := by
  simp [readLeast, readInt, textOf?, bind, Except.bind, h, pure, Except.pure]

theorem readPositive_real {x : Binary64} (h : x.isPositive) :
    readPositive (.ofJson (.real x)) = .ok x := by
  simp [readPositive, readReal, textOf?, bind, Except.bind, h, pure, Except.pure]

section

variable {settings : Settings} {members : List (Yaml.Value × Yaml.Value)}

theorem checkEntry_record
    (h : ∀ key ∈ Section.entry.keys,
      Yaml.Value.entry? key.name members = some (.ofJson (settings.get key))) :
    checkEntry members = ([], settings.entry) := by
  simp only [Section.keys, List.forall_mem_cons] at h
  obtain ⟨hspace, henvironment, htype, hlocale, hpublish, -⟩ := h
  simp only [checkEntry]
  rw [checkKey_eq _ hspace (readOptionalText_ofOption _),
    checkKey_eq _ henvironment (readText_str _), checkKey_eq _ htype (readText_str _),
    checkKey_eq _ hlocale (readText_str _), checkKey_eq _ hpublish (readFlag_bool _)]
  rfl

theorem checkLimits_record (hvalid : settings.Valid)
    (h : ∀ key ∈ Section.review.keys,
      Yaml.Value.entry? key.name members = some (.ofJson (settings.get key))) :
    checkLimits members = ([], settings.limits) := by
  simp only [Section.keys, List.forall_mem_cons] at h
  obtain ⟨hlength, hlimit, -⟩ := h
  simp only [checkLimits]
  rw [checkKey_eq _ hlength (readLeast_int hvalid.maxLineLength),
    checkKey_eq _ hlimit (readLeast_int hvalid.longLineLimit)]
  rfl

theorem checkTimeout_record (hvalid : settings.Valid)
    (h : ∀ key ∈ Section.download.keys,
      Yaml.Value.entry? key.name members = some (.ofJson (settings.get key))) :
    checkTimeout members = ([], settings.timeout) :=
  checkKey_eq _ (h .timeout (by decide)) (readPositive_real hvalid.timeout)

theorem checkOutput_record
    (h : ∀ key ∈ Section.output.keys,
      Yaml.Value.entry? key.name members = some (.ofJson (settings.get key))) :
    checkOutput members = ([], settings.output) := by
  simp only [Section.keys, List.forall_mem_cons] at h
  obtain ⟨hformat, hdirectory, himport, herrors, hcolor, hverbose, -⟩ := h
  simp only [checkOutput]
  rw [checkKey_eq _ hformat (readText_str _), checkKey_eq _ hdirectory (readText_str _),
    checkKey_eq _ himport (readText_str _), checkKey_eq _ herrors (readText_str _),
    checkKey_eq _ hcolor (readFlag_bool _), checkKey_eq _ hverbose (readFlag_bool _)]
  rfl

end

theorem ofEntries_record {settings : Settings} (hvalid : settings.Valid)
    {entries : List (Yaml.Value × Yaml.Value)}
    (h : ∀ part : Section, ∃ members, Yaml.Value.entry? part.name entries = some (.map members)
      ∧ ∀ key ∈ part.keys, Yaml.Value.entry? key.name members = some (.ofJson (settings.get key))) :
    ofEntries entries = .ok settings := by
  obtain ⟨entryMembers, hentryPart, hentry⟩ := h .entry
  obtain ⟨limitMembers, hlimitPart, hlimits⟩ := h .review
  obtain ⟨timeoutMembers, htimeoutPart, htimeout⟩ := h .download
  obtain ⟨outputMembers, houtputPart, houtput⟩ := h .output
  simp only [ofEntries]
  rw [checkPart_eq _ _ hentryPart, checkPart_eq _ _ hlimitPart, checkPart_eq _ _ htimeoutPart,
    checkPart_eq _ _ houtputPart, checkEntry_record hentry, checkLimits_record hvalid hlimits,
    checkTimeout_record hvalid htimeout, checkOutput_record houtput]
  rfl

/-! ### Loading what was saved -/

theorem isEmpty_of_entry? {name : String} {entries : List (Yaml.Value × Yaml.Value)}
    {value : Yaml.Value} (h : Yaml.Value.entry? name entries = some value) :
    (Yaml.Value.map entries).isEmpty = false := by
  cases entries with
  | nil => simp [Yaml.Value.entry?] at h
  | cons => rfl

theorem Format.KeepsSettings.entriesOf {format : Format} {settings : Settings}
    (hkeeps : format.KeepsSettings settings) :
    ∃ entries, Settings.entriesOf format (format.render settings.toJson) = .ok (some entries)
      ∧ ∀ part : Section, ∃ members, Yaml.Value.entry? part.name entries = some (.map members)
        ∧ ∀ key ∈ part.keys,
          Yaml.Value.entry? key.name members = some (.ofJson (settings.get key)) := by
  obtain ⟨-, read, hparse, entries, rfl, htexts, hparts⟩ := hkeeps
  have hempty : (Yaml.Value.map entries).isEmpty = false :=
    have ⟨_, hpart, _⟩ := hparts .entry
    isEmpty_of_entry? hpart
  exact ⟨entries, by simp [Settings.entriesOf, hparse, hempty, htexts], hparts⟩

theorem Format.KeepsSettings.ofText {format : Format} {settings : Settings}
    (hkeeps : format.KeepsSettings settings) (hvalid : settings.Valid) :
    ofText format (format.render settings.toJson) = .ok settings := by
  obtain ⟨entries, hentries, hparts⟩ := hkeeps.entriesOf
  simp [Settings.ofText, hentries, ofEntries_record hvalid hparts, bind, Except.bind, pure,
    Except.pure, Except.toOption]

theorem read?_save {format : Format} {settings : Settings} (hwrites : format.writes settings.toJson)
    (folder : Folder) (files : Files) :
    (save format folder files settings).read? folder.settingsFile
      =
    some (format.render settings.toJson) := by
  rw [save, store, Files.read?_write, if_pos hwrites]

theorem load_save {format : Format} {settings : Settings} (hkeeps : format.KeepsSettings settings)
    (folder : Folder) (files : Files) (hvalid : settings.Valid) :
    load format folder (save format folder files settings) = .ok settings := by
  simp [load, read?_save hkeeps.1, hkeeps.ofText hvalid]

/-! ### Loading whatever there is -/

theorem load_congr {format : Format} {folder : Folder} {files other : Files}
    (h : files.read? folder.settingsFile = other.read? folder.settingsFile) :
    load format folder files = load format folder other := by
  rw [load, load, h]

theorem update_of_load {format : Format} {folder : Folder} {files : Files} {settings : Settings}
    (h : load format folder files = .ok settings) (key : String) (value : Value) :
    update format folder files key value
      =
    (settings.changed key value).mapError .notChanged >>= fun record =>
      if format.writes record then pure (store format folder files record)
      else .error (.notChanged .unwritable) := by
  rw [update, h]
  rfl

theorem update_congr {format : Format} {folder : Folder} {files other : Files}
    (h : load format folder files = load format folder other) (key : String) (value : Value) :
    (∃ record, update format folder files key value = .ok (store format folder files record)
      ∧ update format folder other key value = .ok (store format folder other record))
      ∨ (∃ error, update format folder files key value = .error error
        ∧ update format folder other key value = .error error) := by
  cases hload : load format folder other with
  | error error =>
    refine .inr ⟨.notLoaded error, ?_, ?_⟩
    . rw [update, h, hload]
      rfl
    . rw [update, hload]
      rfl
  | ok settings =>
    rw [update_of_load (h.trans hload), update_of_load hload]
    cases settings.changed key value with
    | error error => exact .inr ⟨.notChanged error, rfl, rfl⟩
    | ok record =>
      by_cases hwrites : format.writes record
      . exact .inl ⟨record, if_pos hwrites, if_pos hwrites⟩
      . exact .inr ⟨.notChanged .unwritable, if_neg hwrites, if_neg hwrites⟩

theorem checkKey_satisfies {α : Type} {P : α → Prop} {read : Yaml.Value → Except Fault α} {present : α}
    (hread : ∀ value result, read value = .ok result → P result) (hpresent : P present)
    (part : Section) (entries : List (Yaml.Value × Yaml.Value)) (key : Key) :
    P (checkKey part entries key read present).2 := by
  unfold checkKey
  split
  . exact hpresent
  . split
    . next hresult => exact hread _ _ hresult
    . exact hpresent

theorem checkPart_satisfies {α : Type} {P : α → Prop}
    {check : List (Yaml.Value × Yaml.Value) → Checked α} {present : α}
    (hcheck : ∀ entries, P (check entries).2) (hpresent : P present) (part : Section)
    (entries : List (Yaml.Value × Yaml.Value)) : P (checkPart part entries check present).2 := by
  unfold checkPart
  split
  . exact hpresent
  . exact hcheck _
  . exact hpresent

theorem le_of_readLeast {least n : Int} {value : Yaml.Value} (h : readLeast least value = .ok n) :
    least ≤ n := by
  simp only [readLeast, bind, Except.bind, pure, Except.pure] at h
  split at h
  . simp at h
  . split at h
    . simp_all
    . simp at h

theorem isPositive_of_readPositive {x : Binary64} {value : Yaml.Value}
    (h : readPositive value = .ok x) : x.isPositive := by
  simp only [readPositive, bind, Except.bind, pure, Except.pure] at h
  split at h
  . simp at h
  . split at h
    . simp_all
    . simp at h

theorem valid_of_ofEntries {entries : List (Yaml.Value × Yaml.Value)} {settings : Settings}
    (h : ofEntries entries = .ok settings) : settings.Valid := by
  simp only [ofEntries] at h
  split at h
  . simp only [Except.ok.injEq] at h
    subst h
    exact {
      maxLineLength := checkPart_satisfies
        (P := fun limits : Limits => leastMaxLineLength ≤ limits.maxLineLength)
        (fun _ => checkKey_satisfies (fun _ _ => le_of_readLeast) (by decide) ..) (by decide) ..
      longLineLimit := checkPart_satisfies
        (P := fun limits : Limits => leastLongLineLimit ≤ limits.longLineLimit)
        (fun _ => checkKey_satisfies (fun _ _ => le_of_readLeast) (by decide) ..) (by decide) ..
      timeout := checkPart_satisfies (P := fun x : Binary64 => x.isPositive)
        (fun _ => checkKey_satisfies (fun _ _ => isPositive_of_readPositive) (by decide) ..)
        (by decide) .. }
  . simp at h

theorem valid_default : ({} : Settings).Valid := by
  decide

theorem valid_of_ofText {format : Format} {text : String} {settings : Settings}
    (h : ofText format text = .ok settings) : settings.Valid := by
  simp only [ofText, bind, Except.bind, pure, Except.pure] at h
  split at h
  . simp at h
  . split at h
    . next entries? _ =>
      simp only [Except.ok.injEq] at h
      exact h ▸ valid_default
    . next entries _ =>
      simp only [Except.ok.injEq] at h
      subst h
      cases hentries : ofEntries entries with
      | error => simpa [Except.toOption] using valid_default
      | ok read => simpa [Except.toOption] using valid_of_ofEntries hentries

theorem valid_of_load {format : Format} {folder : Folder} {files : Files} {settings : Settings}
    (h : load format folder files = .ok settings) : settings.Valid := by
  unfold load at h
  split at h
  . simp only [Except.ok.injEq] at h
    exact h ▸ valid_default
  . exact valid_of_ofText h

/-! ### Where a setting comes from -/

theorem checkKey_cases {α : Type} (part : Section) (entries : List (Yaml.Value × Yaml.Value)) (key : Key)
    (read : Yaml.Value → Except Fault α) (present : α) :
    (checkKey part entries key read present).2 = present
      ∨ ∃ value, Yaml.Value.entry? key.name entries = some value
        ∧ read value = .ok (checkKey part entries key read present).2 := by
  unfold checkKey
  split
  . exact .inl rfl
  . next value hentry =>
    cases hread : read value with
    | error fault => exact .inl rfl
    | ok result => exact .inr ⟨value, hentry, hread⟩

theorem checkPart_cases {α : Type} (part : Section) (entries : List (Yaml.Value × Yaml.Value))
    (check : List (Yaml.Value × Yaml.Value) → Checked α) (present : α) :
    (checkPart part entries check present).2 = present
      ∨ ∃ members, Yaml.Value.entry? part.name entries = some (.map members)
        ∧ (checkPart part entries check present).2 = (check members).2 := by
  unfold checkPart
  split
  . exact .inl rfl
  . next members hentry => exact .inr ⟨members, hentry, rfl⟩
  . exact .inl rfl

def StoredUnder (format : Format) (folder : Folder) (files : Files) (part : Section) (key : Key)
    (value : Yaml.Value) : Prop :=
  ∃ text entries members, files.read? folder.settingsFile = some text
    ∧ entriesOf format text = .ok (some entries)
    ∧ Yaml.Value.entry? part.name entries = some (.map members)
    ∧ Yaml.Value.entry? key.name members = some value

theorem environmentId_of_ofEntries {entries : List (Yaml.Value × Yaml.Value)} {settings : Settings}
    (h : ofEntries entries = .ok settings) :
    settings.entry.environmentId = ({} : EntrySettings).environmentId
      ∨ ∃ members value, Yaml.Value.entry? Section.entry.name entries = some (.map members)
        ∧ Yaml.Value.entry? Key.environmentId.name members = some value
        ∧ readText value = .ok settings.entry.environmentId := by
  simp only [ofEntries] at h
  split at h
  . simp only [Except.ok.injEq] at h
    subst h
    rcases checkPart_cases .entry entries checkEntry {} with hentry | ⟨members, hmembers, hentry⟩
    . exact .inl (congrArg EntrySettings.environmentId hentry)
    . rcases checkKey_cases .entry members .environmentId readText "master" with
        hkey | ⟨value, hvalue, hread⟩
      . exact .inl ((congrArg EntrySettings.environmentId hentry).trans hkey)
      . exact .inr ⟨members, value, hmembers, hvalue,
          hread.trans (congrArg Except.ok (congrArg EntrySettings.environmentId hentry).symm)⟩
  . simp at h

theorem environmentId_of_load {format : Format} {folder : Folder} {files : Files} {settings : Settings}
    (h : load format folder files = .ok settings) :
    settings.entry.environmentId = ({} : EntrySettings).environmentId
      ∨ ∃ value, StoredUnder format folder files .entry .environmentId value
        ∧ readText value = .ok settings.entry.environmentId := by
  unfold load at h
  split at h
  . cases h
    exact .inl rfl
  . next text htext =>
    cases hentries : entriesOf format text with
    | error error => simp [ofText, hentries, bind, Except.bind] at h
    | ok entries? =>
      simp only [ofText, hentries, bind, Except.bind, pure, Except.pure] at h
      cases entries? with
      | none =>
        cases h
        exact .inl rfl
      | some entries =>
        simp only [Except.ok.injEq] at h
        cases hread : ofEntries entries with
        | error faults =>
          rw [hread] at h
          exact .inl (congrArg (fun settings : Settings => settings.entry.environmentId) h.symm)
        | ok read =>
          rw [hread] at h
          subst h
          rcases environmentId_of_ofEntries hread with hdefault | ⟨members, value, hpart, hkey, hvalue⟩
          . exact .inl hdefault
          . exact .inr ⟨value, ⟨text, entries, members, htext, hentries, hpart, hkey⟩, hvalue⟩

end MarkdownIntake.Settings
