import MarkdownIntake.Proofs.Text.Lines
import MarkdownIntake.Settings.Update

/-!
This module contains the settings as a record that is read and written by keys. Each key has a kind of
values that it admits, and a value that a setting is changed to is brought to that kind whatever the
present value is.
-/

namespace MarkdownIntake.Settings

open MarkdownIntake.Json MarkdownIntake.Number MarkdownIntake.Text

def put? (settings : Settings) : Key → Value → Option Settings
  | .spaceId, .null => some { settings with entry.spaceId := none }
  | .spaceId, .str text => some { settings with entry.spaceId := some text }
  | .environmentId, .str text => some { settings with entry.environmentId := text }
  | .contentType, .str text => some { settings with entry.contentType := text }
  | .locale, .str text => some { settings with entry.locale := text }
  | .publish, .bool flag => some { settings with entry.publish := flag }
  | .maxLineLength, .int n => some { settings with limits.maxLineLength := n }
  | .longLineLimit, .int n => some { settings with limits.longLineLimit := n }
  | .timeout, .real x => some { settings with timeout := x }
  | .format, .str text => some { settings with output.format := text }
  | .directory, .str text => some { settings with output.directory := text }
  | .importFile, .str text => some { settings with output.importFile := text }
  | .errorsFile, .str text => some { settings with output.errorsFile := text }
  | .color, .bool flag => some { settings with output.color := flag }
  | .verbose, .bool flag => some { settings with output.verbose := flag }
  | _, _ => none

theorem get_of_put? {settings changed : Settings} {key : Key} {value : Value}
    (h : settings.put? key value = some changed) (other : Key) :
    changed.get other = if other = key then value else settings.get other := by
  unfold put? at h
  split at h <;> simp only [Option.some.injEq, reduceCtorEq] at h <;> subst h <;> cases other <;> rfl

theorem ofOption_injective {a b : Option String} (h : Value.ofOption a = Value.ofOption b) :
    a = b := by
  cases a <;> cases b <;> simp_all [Value.ofOption]

theorem ext_get {a b : Settings} (h : ∀ key, a.get key = b.get key) : a = b := by
  rcases a with ⟨⟨_, _, _, _, _⟩, ⟨_, _⟩, _, ⟨_, _, _, _, _, _⟩⟩
  rcases b with ⟨⟨_, _, _, _, _⟩, ⟨_, _⟩, _, ⟨_, _, _, _, _, _⟩⟩
  have hspace := ofOption_injective (h .spaceId)
  have hentry := And.intro (h .environmentId) <| And.intro (h .contentType) <|
    And.intro (h .locale) (h .publish)
  have hlimits := And.intro (h .maxLineLength) (h .longLineLimit)
  have htimeout := h .timeout
  have houtput := And.intro (h .format) <| And.intro (h .directory) <|
    And.intro (h .importFile) <| And.intro (h .errorsFile) <|
    And.intro (h .color) (h .verbose)
  simp_all [get]

theorem replaced_of_put? {settings changed : Settings} {key : Key} {value : Value}
    (h : settings.put? key value = some changed) :
    settings.replaced key value = changed.toJson := by
  unfold replaced toJson
  congr
  funext other
  exact (get_of_put? h other).symm

/-! ### Kinds of values -/

def Key.coerce (key : Key) (value : Value) : Except UpdateError Value :=
  Settings.coerce (({} : Settings).get key) value

theorem coerce_get (settings : Settings) (key : Key) (value : Value) :
    Settings.coerce (settings.get key) value = key.coerce value := by
  cases key
  -- Only the space may be missing; neither nothing nor a text has a kind that is asked for.
  case spaceId =>
    unfold Key.coerce get
    cases settings.entry.spaceId <;> rfl
  all_goals rfl

/-- A value that is of the kind of a key and keeps its bound. -/
def Key.Admits : Key → Value → Prop
  | .spaceId, value => value = .null ∨ ∃ text, value = .str text
  | .publish, value | .color, value | .verbose, value => ∃ flag, value = .bool flag
  | .maxLineLength, value => ∃ n, value = .int n ∧ leastMaxLineLength ≤ n
  | .longLineLimit, value => ∃ n, value = .int n ∧ leastLongLineLimit ≤ n
  | .timeout, value => ∃ x, value = .real x ∧ x.isPositive
  | _, value => ∃ text, value = .str text

theorem Key.Admits.put? {key : Key} {value : Value} (h : key.Admits value) {settings : Settings}
    (hvalid : settings.Valid) :
    ∃ changed, settings.put? key value = some changed ∧ changed.Valid := by
  obtain ⟨hlength, hlimit, htimeout⟩ := hvalid
  cases key
  case spaceId =>
    rcases h with rfl | ⟨text, rfl⟩
    . exact ⟨_, rfl, hlength, hlimit, htimeout⟩
    . exact ⟨_, rfl, hlength, hlimit, htimeout⟩
  case maxLineLength =>
    obtain ⟨n, rfl, hn⟩ := h
    exact ⟨_, rfl, hn, hlimit, htimeout⟩
  case longLineLimit =>
    obtain ⟨n, rfl, hn⟩ := h
    exact ⟨_, rfl, hlength, hn, htimeout⟩
  case timeout =>
    obtain ⟨x, rfl, hx⟩ := h
    exact ⟨_, rfl, hlength, hlimit, hx⟩
  all_goals
    obtain ⟨content, rfl⟩ := h
    exact ⟨_, rfl, hlength, hlimit, htimeout⟩

/-! ### Names of keys -/

def Key.part : Key → Section
  | .spaceId | .environmentId | .contentType | .locale | .publish => .entry
  | .maxLineLength | .longLineLimit => .review
  | .timeout => .download
  | .format | .directory | .importFile | .errorsFile | .color | .verbose => .output

theorem Key.part_of_mem {key : Key} {part : Section} (h : key ∈ part.keys) : key.part = part := by
  cases part <;> simp only [Section.keys, List.mem_cons, List.not_mem_nil, or_false] at h <;>
    rcases h with rfl | rfl | rfl | rfl | rfl | rfl <;> rfl

theorem Section.name_of_ofName? {text : String} {part : Section} (h : Section.ofName? text = some part) :
    part.name = text := by
  simpa using List.find?_some h

theorem Key.of_ofName? {part : Section} {text : String} {key : Key}
    (h : Key.ofName? part text = some key) : key.part = part ∧ key.name = text :=
  ⟨part_of_mem (List.mem_of_find?_eq_some h), by simpa using List.find?_some h⟩

theorem Key.toList_of_ofText {text : String} {key : Key} (h : Key.ofText text = .ok key) :
    text.toList = key.part.name.toList ++ '.' :: key.name.toList := by
  have hjoin := joinWith_splitAt '.' text.toList
  unfold Key.ofText at h
  split at h
  . simp at h
  . simp at h
  . next part name hsplit =>
    simp only at h
    split at h
    . simp at h
    . next foundPart hpart =>
      split at h
      . simp at h
      . next foundKey hkey =>
        obtain ⟨hkeyPart, hkeyName⟩ := Key.of_ofName? hkey
        simp only [Except.ok.injEq] at h
        rw [← h, hkeyPart, Section.name_of_ofName? hpart, hkeyName]
        simpa [joinWith, hsplit] using hjoin.symm
  . simp at h

theorem Key.ofText_inj {a b : String} {key : Key} (ha : Key.ofText a = .ok key)
    (hb : Key.ofText b = .ok key) : a = b := by
  rw [← String.toList_inj, toList_of_ofText ha, toList_of_ofText hb]

theorem Key.ofText_eq_ok_iff {text : String} {key : Key} :
    Key.ofText text = .ok key ↔ text = key.part.name ++ "." ++ key.name := by
  have hname : Key.ofText (key.part.name ++ "." ++ key.name) = .ok key := by
    cases key <;> rfl
  exact ⟨fun h => Key.ofText_inj h hname, fun h => h ▸ hname⟩

theorem Key.mem_keys (key : Key) : key ∈ key.part.keys := by
  cases key <;> decide

end MarkdownIntake.Settings
