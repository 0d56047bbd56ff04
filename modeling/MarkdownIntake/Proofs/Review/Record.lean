import MarkdownIntake.Proofs.Json.Ascii
import MarkdownIntake.Proofs.Json.Reader
import MarkdownIntake.Proofs.Review.Level

/-!
This module contains what a reader gets out of a report in JSON: the record of the review, but for pairs
of surrogates in its strings, and from the record every part of the review, with severities and places
spelled out in words.
-/

namespace MarkdownIntake.Json

open MarkdownIntake.Text

/-! ### Reading the parts of a value -/

namespace Value

variable {σ α β : Type}

def text? : Value σ → Option σ
  | .str text => some text
  | _ => none

/-- A string without surrogates. -/
def word? [Spelled σ] (v : Value σ) : Option String :=
  v.text?.bind fun text => Spelled.ofPoints? (Spelled.points text)

def flag? : Value σ → Option Bool
  | .bool flag => some flag
  | _ => none

def natural? : Value σ → Option Nat
  | .int (.ofNat n) => some n
  | _ => none

def list? (read : Value σ → Option α) : Value σ → Option (List α)
  | .arr items => items.mapM read
  | _ => none

def option? (read : Value σ → Option α) : Value σ → Option (Option α)
  | .null => some none
  | v => (read v).map some

def member? (name : String) (read : Value σ → Option α) (v : Value σ) : Option α :=
  (v.get? name).bind read

theorem word?_ofString [Spelled σ] (word : String) :
    (Value.str (Spelled.ofString word) : Value σ).word? = some word := by
  rw [word?, text?, Option.bind_some, Spelled.points_ofString]
  exact Spelled.ofPoints?_points word

theorem mapM_map_eq_some {γ : Type} {write : β → γ} {read : γ → Option α} {result : β → α}
    (h : ∀ x, read (write x) = some (result x)) (xs : List β) :
    (xs.map write).mapM read = some (xs.map result) := by
  induction xs with
  | nil => rfl
  | cons x xs ih => simp [h, ih]

theorem mapM_map_eq_self {γ : Type} {write : α → γ} {read : γ → Option α}
    (h : ∀ x, read (write x) = some x) (xs : List α) : (xs.map write).mapM read = some xs := by
  rw [mapM_map_eq_some h, List.map_id']

theorem list?_strings (texts : List σ) : (Value.strings texts).list? text? = some texts := by
  have h (text : σ) : text? (.str text) = some text := rfl
  exact mapM_map_eq_self h texts

theorem option?_ofOption (text : Option σ) : (Value.ofOption text).option? text? = some text := by
  cases text <;> rfl

theorem option?_getD {write : α → Value σ} {read : Value σ → Option α} (h : ∀ x, read (write x) = some x)
    (hnull : ∀ x, write x ≠ .null) (x? : Option α) :
    ((x?.map write).getD .null).option? read = some x? := by
  cases x? with
  | none => rfl
  | some x =>
    rw [Option.map_some, Option.getD_some, option?, h]
    . rfl
    . exact hnull x

end Value

variable {σ : Type}

/-- In every object inside a value, no two members have one name. -/
inductive Value.NamesOnce : Value σ → Prop
  | null : NamesOnce .null
  | bool (b : Bool) : NamesOnce (.bool b)
  | int (n : Int) : NamesOnce (.int n)
  | real (x : Number.Binary64) : NamesOnce (.real x)
  | str (s : σ) : NamesOnce (.str s)
  | arr {items : List (Value σ)} (h : ∀ v ∈ items, v.NamesOnce) : NamesOnce (.arr items)
  | obj {members : List (String × Value σ)} (hnames : (members.map (·.1)).Nodup)
    (h : ∀ member ∈ members, member.2.NamesOnce) : NamesOnce (.obj members)

attribute [simp] Value.NamesOnce.null Value.NamesOnce.bool Value.NamesOnce.int Value.NamesOnce.str

@[simp]
theorem Value.namesOnce_arr_iff {items : List (Value σ)} :
    (Value.arr items).NamesOnce ↔ ∀ v ∈ items, v.NamesOnce :=
  ⟨fun h => by cases h with | arr h => exact h, .arr⟩

@[simp]
theorem Value.namesOnce_obj_iff {members : List (String × Value σ)} :
    (Value.obj members).NamesOnce
      ↔
    (members.map (·.1)).Nodup ∧ ∀ member ∈ members, member.2.NamesOnce :=
  ⟨fun h => by cases h with | obj hnames h => exact ⟨hnames, h⟩, fun h => .obj h.1 h.2⟩

end MarkdownIntake.Json

namespace MarkdownIntake.Review

open MarkdownIntake.Document MarkdownIntake.Json MarkdownIntake.Number MarkdownIntake.Text

variable {σ : Type}

/-! ### Findings and checks -/

section

variable [Spelled σ]

def placeOf? : Value σ → Option (Place σ)
  | .int number => some (.line number)
  | .str label => some (.labelled label)
  | _ => none

def findingOf? (v : Value σ) : Option (Finding σ) := do
  return {
    severity := .labelled (← v.member? "severity" Value.text?)
    category := ← v.member? "category" Value.text?
    place := ← v.member? "line" placeOf?
    element := ← v.member? "element" Value.text?
    description := ← v.member? "description" Value.text?
    additionalInfo := ← v.member? "additional_info" Value.text? }

def spelledPlace : Place σ → Place σ
  | .line number => .line number
  | place => .labelled place.text

def Finding.spelled (finding : Finding σ) : Finding σ :=
  { finding with
    severity := .labelled finding.severity.label
    place := spelledPlace finding.place }

theorem findingOf?_json (finding : Finding σ) : findingOf? finding.json = some finding.spelled := by
  obtain ⟨severity, category, place, element, description, additionalInfo⟩ := finding
  cases place <;> rfl

def statusOf? (label : String) : Option Status :=
  [Status.pass, .fail, .warn, .info].find? (·.label = label)

def checkOf? (v : Value σ) : Option (Check σ) := do
  let label ← v.member? "status" Value.word?
  return { status := ← statusOf? label, message := ← v.member? "message" Value.text? }

theorem checkOf?_json (check : Check σ) : checkOf? check.json = some check := by
  obtain ⟨status, message⟩ := check
  have hlabel : (Check.json ⟨status, message⟩).member? "status" Value.word? = some status.label :=
    Value.word?_ofString status.label
  have hstatus : statusOf? status.label = some status := by cases status <;> rfl
  rw [checkOf?, hlabel, Option.bind_eq_bind, Option.bind_some, hstatus]
  rfl

theorem namesOnce_findingJson (finding : Finding σ) : finding.json.NamesOnce := by
  obtain ⟨severity, category, place, element, description, additionalInfo⟩ := finding
  cases place <;> simp [Finding.json]

theorem namesOnce_checkJson (check : Check σ) : check.json.NamesOnce := by
  simp [Check.json]

theorem isWhole_findingJson (finding : Finding σ) : finding.json.IsWhole := by
  obtain ⟨severity, category, place, element, description, additionalInfo⟩ := finding
  cases place <;> simp [Finding.json]

end

/-! ### Metrics and census -/

def metricsOf? (v : Value σ) : Option Metrics := do
  return {
    characters := ← v.member? "characters" Value.natural?
    lines := ← v.member? "lines" Value.natural?
    words := ← v.member? "words" Value.natural? }

theorem metricsOf?_json (metrics : Metrics) :
    metricsOf? (metricsJson metrics : Value σ) = some metrics :=
  rfl

def levelOf? (name : String) : Option (Option Int) :=
  match (numberOf? name.toList : Option Value) with
  | some (.int level) => some (some level)
  | _ => if name = "null" then some none else none

theorem levelOf?_levelName (level : Option Int) : levelOf? (levelName level) = some level := by
  cases level with
  | none => decide +kernel
  | some level =>
    cases level with
    | ofNat n =>
      have htext : (toString (Int.ofNat n)).toList = Nat.toDigits 10 n := toList_toString n
      rw [levelName, levelOf?, htext, numberOf?_toDigits]
      rfl
    | negSucc n =>
      rw [levelName, levelOf?, toList_toString_negSucc, toList_toString, numberOf?_negative]
      rfl

theorem levelName_injective : Function.Injective levelName := by
  intro level other h
  have hlevel := levelOf?_levelName level
  rw [h, levelOf?_levelName] at hlevel
  exact (Option.some.inj hlevel).symm

def levelCountOf? (member : String × Value σ) : Option (Option Int × Nat) := do
  return (← levelOf? member.1, ← member.2.natural?)

def levelCountsOf? : Value σ → Option (List (Option Int × Nat))
  | .obj members => members.mapM levelCountOf?
  | _ => none

def censusOf? (v : Value σ) : Option (Census σ) := do
  return {
    headings := ← v.member? "headings" Value.natural?
    headingLevels := ← v.member? "heading_levels" levelCountsOf?
    codeBlocks := ← v.member? "code_blocks" Value.natural?
    languages := ← v.member? "languages" (Value.list? Value.text?)
    images := ← v.member? "images" Value.natural?
    tables := ← v.member? "tables" Value.natural?
    blockquotes := ← v.member? "blockquotes" Value.natural?
    lists := ← v.member? "lists" Value.natural?
    links := ← v.member? "links" Value.natural? }

theorem levelCountsOf?_json (levels : List (Option Int × Nat)) :
    levelCountsOf? (.obj (levels.map fun (level, count) => (levelName level, number count)) : Value σ)
      =
    some levels := by
  have h (entry : Option Int × Nat) :
      levelCountOf? (levelName entry.1, (number entry.2 : Value σ)) = some entry := by
    rw [levelCountOf?, levelOf?_levelName]
    rfl
  exact Value.mapM_map_eq_self h levels

theorem censusOf?_json (census : Census σ) : censusOf? census.json = some census := by
  have hlevels : census.json.member? "heading_levels" levelCountsOf? = some census.headingLevels :=
    levelCountsOf?_json census.headingLevels
  have hlanguages : census.json.member? "languages" (Value.list? Value.text?) = some census.languages :=
    Value.list?_strings census.languages
  rw [censusOf?, hlevels, hlanguages]
  rfl

theorem namesOnce_metricsJson (metrics : Metrics) : (metricsJson metrics : Value σ).NamesOnce := by
  simp [metricsJson, number]

theorem namesOnce_strings (texts : List σ) : (Value.strings texts).NamesOnce := by
  simp [Value.strings]

theorem namesOnce_ofOption (text : Option σ) : (Value.ofOption text).NamesOnce := by
  cases text <;> simp [Value.ofOption]

theorem namesOnce_levels_iff {levels : List (Option Int × Nat)} :
    (Value.obj (levels.map fun (level, count) => (levelName level, number count)) : Value σ).NamesOnce
      ↔
    (levels.map (·.1)).Nodup := by
  have hcounts : ∀ member ∈ levels.map fun (level, count) => (levelName level, (number count : Value σ)),
      member.2.NamesOnce :=
    List.forall_mem_map.mpr fun entry _ => .int entry.2
  rw [Value.namesOnce_obj_iff, and_iff_left hcounts, List.map_map,
    ← List.nodup_map_iff levelName_injective, List.map_map]
  rfl

theorem namesOnce_censusJson_iff {census : Census σ} :
    census.json.NamesOnce ↔ (census.headingLevels.map (·.1)).Nodup := by
  rw [← namesOnce_levels_iff, Census.json]
  generalize Value.obj (census.headingLevels.map _) = levels
  simp [number, namesOnce_strings]

theorem isWhole_censusJson (census : Census σ) : census.json.IsWhole := by
  have hlevels : (Value.obj (census.headingLevels.map fun (level, count) =>
      (levelName level, number count)) : Value σ).IsWhole :=
    .obj (List.forall_mem_map.mpr fun entry _ => .int entry.2)
  rw [Census.json]
  generalize Value.obj (census.headingLevels.map _) = levels at hlevels
  simp [hlevels, Value.strings, number]

/-! ### Reviews -/

variable [Spelled σ]

def reviewOf? (v : Value σ) : Option (Assessment σ) := do
  return {
    success := ← v.member? "success" Value.flag?
    title := ← v.member? "title" Value.text?
    metrics := ← v.member? "metrics" (Value.option? metricsOf?)
    parsed := ← v.member? "parsed" Value.flag?
    parseError := ← v.member? "parse_error" (Value.option? Value.text?)
    census := ← v.member? "census" (Value.option? censusOf?)
    remarks := {
      issues := ← v.member? "issues" (Value.list? Value.text?)
      warnings := ← v.member? "warnings" (Value.list? Value.text?)
      findings := ← v.member? "detailed_errors" (Value.list? findingOf?)
      checks := ← v.member? "checks" (Value.list? checkOf?) } }

def Assessment.spelled (assessment : Assessment σ) : Assessment σ :=
  { assessment with remarks := { assessment.remarks with findings := assessment.findings.map Finding.spelled } }

theorem reviewOf?_json (assessment : Assessment σ) : reviewOf? assessment.json = some assessment.spelled := by
  have hmetrics : assessment.json.member? "metrics" (Value.option? metricsOf?) = some assessment.metrics :=
    Value.option?_getD metricsOf?_json nofun assessment.metrics
  have hcensus : assessment.json.member? "census" (Value.option? censusOf?) = some assessment.census :=
    Value.option?_getD censusOf?_json nofun assessment.census
  have hreason : assessment.json.member? "parse_error" (Value.option? Value.text?)
      = some assessment.parseError :=
    Value.option?_ofOption assessment.parseError
  have hissues : assessment.json.member? "issues" (Value.list? Value.text?) = some assessment.issues :=
    Value.list?_strings assessment.issues
  have hwarnings : assessment.json.member? "warnings" (Value.list? Value.text?) = some assessment.warnings :=
    Value.list?_strings assessment.warnings
  have hfindings : assessment.json.member? "detailed_errors" (Value.list? findingOf?)
      = some (assessment.findings.map Finding.spelled) :=
    Value.mapM_map_eq_some findingOf?_json assessment.findings
  have hchecks : assessment.json.member? "checks" (Value.list? checkOf?) = some assessment.checks :=
    Value.mapM_map_eq_self checkOf?_json assessment.checks
  rw [reviewOf?, hmetrics, hcensus, hreason, hissues, hwarnings, hfindings, hchecks]
  rfl

theorem namesOnce_reviewJson_iff {assessment : Assessment σ} :
    assessment.json.NamesOnce
      ↔
    ∀ census, assessment.census = some census → (census.headingLevels.map (·.1)).Nodup := by
  have hmetrics : ((assessment.metrics.map metricsJson).getD .null : Value σ).NamesOnce := by
    cases assessment.metrics with
    | none => exact .null
    | some metrics => exact namesOnce_metricsJson metrics
  have hcensus : ((assessment.census.map Census.json).getD .null).NamesOnce
      ↔ ∀ census, assessment.census = some census → (census.headingLevels.map (·.1)).Nodup := by
    cases assessment.census with
    | none => simp
    | some census => simp [namesOnce_censusJson_iff]
  rw [← hcensus, Assessment.json]
  simp [namesOnce_ofOption, namesOnce_strings, hmetrics, namesOnce_findingJson, namesOnce_checkJson]

theorem nodup_levels_of_review {markdown title : String} {limits : Limits}
    {reading : Except String (List Node)} {assessment : Assessment}
    (h : review markdown title limits reading = .ok assessment) :
    ∀ census, assessment.census = some census → (census.headingLevels.map (·.1)).Nodup := by
  intro counted hcensus
  cases reading with
  | error reason =>
    cases h
    cases hcensus
  | ok forest =>
    rw [← assessment_of_review h, assessmentOf, Option.some.injEq] at hcensus
    rw [← hcensus]
    exact (tallies_headingLevels (topHeadings forest)).nodup

theorem isWhole_reviewJson (assessment : Assessment σ) : assessment.json.IsWhole := by
  have hreason : (Value.ofOption assessment.parseError).IsWhole := by
    cases assessment.parseError <;> simp [Value.ofOption]
  have hmetrics : ((assessment.metrics.map metricsJson).getD .null : Value σ).IsWhole := by
    cases assessment.metrics <;> simp [metricsJson, number]
  have hcensus : ((assessment.census.map Census.json).getD .null).IsWhole := by
    cases assessment.census <;> simp [isWhole_censusJson]
  simp [Assessment.json, Value.strings, hreason, hmetrics, hcensus, isWhole_findingJson, Check.json]

/-! ### The report -/

section

variable {assessment : Assessment σ} {text : String} (h : jsonReport assessment = .ok text)

include h

theorem toList_of_jsonReport :
    text.toList = (assessment.json.render Style.report).toList ++ ['\n'] := by
  unfold jsonReport Assessment.told at h
  split at h
  . rw [← Except.ok.inj h, String.toList_append]
    rfl
  . cases h

theorem allPlain_of_jsonReport : AllPlain text.toList := by
  rw [toList_of_jsonReport h, allPlain_append_iff]
  exact ⟨allPlain_render rfl (isWhole_reviewJson assessment), by decide⟩

theorem textDenotes_of_jsonReport : TextDenotes text.toList (assessment.json.map Spelled.joined) := by
  have hfeed : IsSpace ['\n'] := List.forall_mem_singleton.mpr (.inr (.inr (.inl rfl)))
  rw [toList_of_jsonReport h]
  exact (textDenotes_render (isWhole_reviewJson assessment) Style.report).append hfeed

end

/--
There is a report in JSON unless a level of headings has more than 4300 digits. It has only printable
ASCII characters and line feeds, whatever the texts in it hold. It is in the notation of JSON and denotes
the record of the review, with every pair of surrogates in a string joined, and nothing else. This is the
record itself exactly if no string in it has a high surrogate right before a low one. Every part of the
review is read off the record, which is a dictionary if no level comes twice.
-/
theorem report_readBack (assessment : Assessment σ) :
    ((∃ text, jsonReport assessment = .ok text)
        ↔ ∀ census, assessment.census = some census →
          ∀ level count, (some level, count) ∈ census.headingLevels → isTellable level = true)
      ∧ (∀ text, jsonReport assessment = .ok text →
        (∀ c ∈ text.toList, c = '\n' ∨ 32 ≤ c.toNat ∧ c.toNat ≤ 126)
          ∧ TextDenotes text.toList (assessment.json.map Spelled.joined)
          ∧ (∀ v : Value σ, TextDenotes text.toList v → v = assessment.json.map Spelled.joined)
          ∧ Value.parse? text = some (assessment.json.map Spelled.joined))
      ∧ (assessment.json.map Spelled.joined = assessment.json
        ↔ ∀ text ∈ assessment.json.texts, ¬ HasPair (Spelled.points text))
      ∧ reviewOf? assessment.json = some assessment.spelled
      ∧ (assessment.json.NamesOnce
        ↔ ∀ census, assessment.census = some census → (census.headingLevels.map (·.1)).Nodup) := by
  refine ⟨?_, fun text htext => ?_, ?_, reviewOf?_json assessment, namesOnce_reviewJson_iff⟩
  . simp only [jsonReport, exists_told_iff, Census.hasTellableLevels_iff]
  . have hdenotes := textDenotes_of_jsonReport htext
    exact ⟨allPlain_of_jsonReport htext, hdenotes, fun v hv => hv.unique hdenotes,
      parse?_of_textDenotes hdenotes⟩
  . rw [Value.map_eq_self_iff]
    exact forall₂_congr fun text _ => Spelled.joined_eq_self_iff

theorem report_readBack_missingLevel :
    ∃ assessment text, review "" "😀\x7f\"" {} (.ok [ { kind := "heading" } ]) = .ok assessment
      ∧ (assessment.census.map (·.headingLevels)) = some [(none, 1)]
      ∧ report assessment .json false = .ok text ∧ Value.parse? text = some assessment.json
      ∧ assessment.json.get? "title" = some (.str "😀\x7f\"")
      ∧ reviewOf? assessment.json = some assessment.spelled
      ∧ assessment.json.NamesOnce := by
  have h := review_of_levelsComparable "" "😀\x7f\"" {} [ { kind := "heading" } ] (by decide) (by decide +kernel)
  generalize hassessment : assessmentOf _ _ _ _ = assessment at h
  have hcensus : assessment.census.map (·.headingLevels) = some [(none, 1)] := by
    rw [← hassessment]
    decide +kernel
  obtain ⟨hexists, hreport, hjoined, hread, hnames⟩ := report_readBack assessment
  obtain ⟨text, htext⟩ := hexists.mpr <| by
    intro census hsome level count hlevel
    rw [hsome, Option.map_some, Option.some.injEq] at hcensus
    rw [hcensus] at hlevel
    simp at hlevel
  obtain ⟨-, -, -, hparse⟩ := hreport text htext
  rw [hjoined.mpr fun s _ => Spelled.joined_eq_self_iff.mp (Spelled.joined_string s)] at hparse
  exact ⟨assessment, text, h, hcensus, htext, hparse, by rw [← hassessment]; rfl, hread,
    hnames.mpr (nodup_levels_of_review h)⟩

def highHalf : CodePoint := ⟨0xD83D, by decide⟩

def lowHalf : CodePoint := ⟨0xDE00, by decide⟩

def reviewOfHalves : Assessment (List CodePoint) where
  success := false
  title := [highHalf, lowHalf]
  metrics := none
  parsed := false
  parseError := some []
  remarks := {}

/-- The two surrogates of the title are read back as one character. -/
theorem halves_read_as_one :
    ∃ text v, jsonReport reviewOfHalves = .ok text ∧ Value.parse? text = some v
      ∧ reviewOfHalves.json.get? "title" = some (.str [highHalf, lowHalf])
      ∧ v.get? "title" = some (.str [.ofChar '😀']) ∧ v ≠ reviewOfHalves.json := by
  have htext : jsonReport reviewOfHalves
      = .ok (reviewOfHalves.json.render Style.report ++ "\n") := rfl
  have htitle : reviewOfHalves.json.get? "title" = some (.str [highHalf, lowHalf]) := rfl
  have hread : (reviewOfHalves.json.map Spelled.joined).get? "title"
      = some (.str [.ofChar '😀']) := rfl
  refine ⟨_, _, htext, parse?_of_textDenotes (textDenotes_of_jsonReport htext), htitle, hread, ?_⟩
  intro heq
  rw [heq, htitle] at hread
  simp [highHalf, CodePoint.ofChar] at hread

end MarkdownIntake.Review
