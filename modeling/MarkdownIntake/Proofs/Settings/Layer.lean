import MarkdownIntake.Proofs.Settings.Readable

/-!
This module contains what a file says about each setting. Settings that are loaded have, key by key, the
value of the entry that the file has for the key, and the default where there is no such entry.
-/

namespace MarkdownIntake.Settings

open MarkdownIntake.Json MarkdownIntake.Review MarkdownIntake.Storage

def Key.read : Key → Yaml.Value → Except Fault Value
  | .spaceId, entry => (readOptionalText entry).map .ofOption
  | .publish, entry | .color, entry | .verbose, entry => (readFlag entry).map .bool
  | .maxLineLength, entry => (readLeast leastMaxLineLength entry).map .int
  | .longLineLimit, entry => (readLeast leastLongLineLimit entry).map .int
  | .timeout, entry => (readPositive entry).map .real
  | _, entry => (readText entry).map .str

def entryOf? (entries : List (Yaml.Value × Yaml.Value)) (key : Key) : Option Yaml.Value :=
  match Yaml.Value.entry? key.part.name entries with
  | some (.map members) => Yaml.Value.entry? key.name members
  | _ => none

/-- A setting has the value of its entry, and without an entry its default. -/
def Follows (key : Key) (found? : Option Yaml.Value) (value : Value) : Prop :=
  match found? with
  | none => value = ({} : Settings).get key
  | some entry => key.read entry = .ok value

/-! ### The checks -/

section

variable {α : Type} {part : Section} {key : Key} {present : α}

theorem follows_checkKey {members : List (Yaml.Value × Yaml.Value)} {read : Yaml.Value → Except Fault α}
    {f : α → Value} (hread : ∀ entry, key.read entry = (read entry).map f)
    (hpresent : f present = ({} : Settings).get key)
    (hfaults : (checkKey part members key read present).1 = []) :
    Follows key (Yaml.Value.entry? key.name members)
      (f (checkKey part members key read present).2) := by
  cases hentry : Yaml.Value.entry? key.name members with
  | none => simpa [Follows, checkKey, hentry] using hpresent
  | some entry =>
    rw [Follows, hread, read_of_checkKey hentry hfaults]
    rfl

theorem follows_checkPart {entries : List (Yaml.Value × Yaml.Value)}
    {check : List (Yaml.Value × Yaml.Value) → Checked α} {f : α → Value}
    (hcheck : ∀ members, (check members).1 = [] →
      Follows key (Yaml.Value.entry? key.name members) (f (check members).2))
    (hpart : key.part = part) (hpresent : f present = ({} : Settings).get key)
    (hfaults : (checkPart part entries check present).1 = []) :
    Follows key (entryOf? entries key) (f (checkPart part entries check present).2) := by
  subst hpart
  unfold checkPart entryOf? at *
  split at hfaults
  . next hentry =>
    simp only [hentry]
    exact hpresent
  . next members hentry =>
    simp only [hentry]
    exact hcheck members hfaults
  . simp at hfaults

end

section

variable {members : List (Yaml.Value × Yaml.Value)}

theorem follows_checkEntry (hfaults : (checkEntry members).1 = []) :
    ∀ key ∈ Section.entry.keys,
      Follows key (Yaml.Value.entry? key.name members)
        (({ entry := (checkEntry members).2 } : Settings).get key) := by
  simp only [checkEntry, List.append_eq_nil_iff] at hfaults ⊢
  obtain ⟨⟨⟨⟨hspace, henvironment⟩, htype⟩, hlocale⟩, hpublish⟩ := hfaults
  simp only [Section.keys, List.forall_mem_cons]
  exact ⟨follows_checkKey (f := .ofOption) (fun _ => rfl) rfl hspace,
    follows_checkKey (f := .str) (fun _ => rfl) rfl henvironment,
    follows_checkKey (f := .str) (fun _ => rfl) rfl htype,
    follows_checkKey (f := .str) (fun _ => rfl) rfl hlocale,
    follows_checkKey (f := .bool) (fun _ => rfl) rfl hpublish, List.forall_mem_nil _⟩

theorem follows_checkLimits (hfaults : (checkLimits members).1 = []) :
    ∀ key ∈ Section.review.keys,
      Follows key (Yaml.Value.entry? key.name members)
        (({ limits := (checkLimits members).2 } : Settings).get key) := by
  simp only [checkLimits, List.append_eq_nil_iff] at hfaults ⊢
  obtain ⟨hlength, hlimit⟩ := hfaults
  simp only [Section.keys, List.forall_mem_cons]
  exact ⟨follows_checkKey (f := .int) (fun _ => rfl) rfl hlength,
    follows_checkKey (f := .int) (fun _ => rfl) rfl hlimit, List.forall_mem_nil _⟩

theorem follows_checkTimeout (hfaults : (checkTimeout members).1 = []) :
    ∀ key ∈ Section.download.keys,
      Follows key (Yaml.Value.entry? key.name members)
        (({ timeout := (checkTimeout members).2 } : Settings).get key) := by
  simp only [Section.keys, List.forall_mem_cons]
  exact ⟨follows_checkKey (f := .real) (fun _ => rfl) rfl hfaults, List.forall_mem_nil _⟩

theorem follows_checkOutput (hfaults : (checkOutput members).1 = []) :
    ∀ key ∈ Section.output.keys,
      Follows key (Yaml.Value.entry? key.name members)
        (({ output := (checkOutput members).2 } : Settings).get key) := by
  simp only [checkOutput, List.append_eq_nil_iff] at hfaults ⊢
  obtain ⟨⟨⟨⟨⟨hformat, hdirectory⟩, himport⟩, herrors⟩, hcolor⟩, hverbose⟩ := hfaults
  simp only [Section.keys, List.forall_mem_cons]
  exact ⟨follows_checkKey (f := .str) (fun _ => rfl) rfl hformat,
    follows_checkKey (f := .str) (fun _ => rfl) rfl hdirectory,
    follows_checkKey (f := .str) (fun _ => rfl) rfl himport,
    follows_checkKey (f := .str) (fun _ => rfl) rfl herrors,
    follows_checkKey (f := .bool) (fun _ => rfl) rfl hcolor,
    follows_checkKey (f := .bool) (fun _ => rfl) rfl hverbose, List.forall_mem_nil _⟩

end

theorem follows_of_ofEntries {entries : List (Yaml.Value × Yaml.Value)} {settings : Settings}
    (h : ofEntries entries = .ok settings) (key : Key) :
    Follows key (entryOf? entries key) (settings.get key) := by
  simp only [ofEntries] at h
  split at h
  . next hfaults =>
    simp only [List.append_eq_nil_iff] at hfaults
    obtain ⟨⟨⟨hentry, hlimits⟩, htimeout⟩, houtput⟩ := hfaults
    rw [Except.ok.injEq] at h
    subst h
    have hkey := key.mem_keys
    -- A key is looked up in its own part alone, whose default is that of the whole record.
    cases hpart : key.part <;> rw [hpart] at hkey
    case entry =>
      have hfollows := follows_checkPart (f := fun entry => ({ entry } : Settings).get key)
        (fun _ hmembers => follows_checkEntry hmembers key hkey) hpart rfl hentry
      cases key <;> first | exact hfollows | cases hpart
    case review =>
      have hfollows := follows_checkPart (f := fun limits => ({ limits } : Settings).get key)
        (fun _ hmembers => follows_checkLimits hmembers key hkey) hpart rfl hlimits
      cases key <;> first | exact hfollows | cases hpart
    case download =>
      have hfollows := follows_checkPart (f := fun timeout => ({ timeout } : Settings).get key)
        (fun _ hmembers => follows_checkTimeout hmembers key hkey) hpart rfl htimeout
      cases key <;> first | exact hfollows | cases hpart
    case output =>
      have hfollows := follows_checkPart (f := fun output => ({ output } : Settings).get key)
        (fun _ hmembers => follows_checkOutput hmembers key hkey) hpart rfl houtput
      cases key <;> first | exact hfollows | cases hpart
  . cases h

/-! ### Loading -/

section

variable (format : Format) (folder : Folder) (files : Files)

/-- The entries of the file of the settings; they count only if they pass all checks. -/
def acceptedEntries? : Option (List (Yaml.Value × Yaml.Value)) :=
  match (files.read? folder.settingsFile).map (entriesOf format) with
  | some (.ok (some entries)) => if (ofEntries entries).isOk then some entries else none
  | _ => none

def storedValue? (key : Key) : Option Value := do
  let entry ← entryOf? (← acceptedEntries? format folder files) key
  (key.read entry).toOption

end

section

variable {format : Format} {folder : Folder} {files : Files} {settings : Settings}

theorem load_cases (h : load format folder files = .ok settings) :
    acceptedEntries? format folder files = none ∧ settings = {}
      ∨ ∃ entries, acceptedEntries? format folder files = some entries
        ∧ ofEntries entries = .ok settings := by
  unfold load at h
  unfold acceptedEntries?
  cases hread : files.read? folder.settingsFile with
  | none =>
    rw [hread, Except.ok.injEq] at h
    exact .inl ⟨rfl, h.symm⟩
  | some text =>
    rw [hread] at h
    simp only [Option.map_some]
    cases hentries : entriesOf format text with
    | error error =>
      simp [ofText, hentries, bind, Except.bind] at h
    | ok entries? =>
      simp only [ofText, hentries, bind, Except.bind, pure, Except.pure] at h
      cases entries? with
      | none =>
        rw [Except.ok.injEq] at h
        exact .inl ⟨rfl, h.symm⟩
      | some entries =>
        simp only [Except.ok.injEq] at h
        cases hsettings : ofEntries entries with
        | error faults =>
          rw [hsettings] at h
          exact .inl ⟨by simp [hsettings, Except.isOk, Except.toBool], h.symm⟩
        | ok read =>
          rw [hsettings] at h
          exact .inr ⟨entries, by simp [hsettings, Except.isOk, Except.toBool], by rw [← h]; exact hsettings⟩

theorem get_of_load (h : load format folder files = .ok settings) (key : Key) :
    settings.get key = (storedValue? format folder files key).getD (({} : Settings).get key) := by
  unfold storedValue?
  rcases load_cases h with ⟨hnone, rfl⟩ | ⟨entries, hentries, hsettings⟩
  . rw [hnone]
    rfl
  . have hfollows := follows_of_ofEntries hsettings key
    rw [hentries]
    cases hentry : entryOf? entries key with
    | none =>
      rw [hentry] at hfollows
      have hdefault : settings.get key = ({} : Settings).get key := hfollows
      simpa [hentry] using hdefault
    | some entry =>
      rw [hentry] at hfollows
      have hvalue : key.read entry = .ok (settings.get key) := hfollows
      simp [hentry, hvalue, Except.toOption]

end

end MarkdownIntake.Settings
