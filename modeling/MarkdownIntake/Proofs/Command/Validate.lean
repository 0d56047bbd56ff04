import MarkdownIntake.Proofs.Command.Generate

/-!
This module contains how runs that review a document end. What a run is told about its report decides
nothing, and a run that reviews the document before it generates an import document comes to the same
verdict and exports the same findings.
-/

namespace MarkdownIntake.Command

open MarkdownIntake.Document MarkdownIntake.Review MarkdownIntake.Storage

/-! ### What decides the verdict -/

theorem fetched_congr (outside : Outside) (url : String) {settings other : Settings}
    (h : settings.timeout = other.timeout) : fetched outside url settings = fetched outside url other := by
  rw [fetched, fetched, h]

theorem fetched_eq_ok_iff {outside : Outside} {url markdown : String} {settings : Settings} :
    fetched outside url settings = .ok markdown
      ↔
    (Web.download outside.replies url settings.timeout).2 = .ok markdown := by
  unfold fetched
  cases (Web.download outside.replies url settings.timeout).2 with
  | error error => exact iff_of_false nofun nofun
  | ok other =>
    change Except.ok other = Except.ok markdown ↔ _
    rw [Except.ok.injEq, Except.ok.injEq]

theorem judged_congr (exports : Bool) (path : Path) {settings other : Settings}
    (h : settings.limits = other.limits) (markdown : String) (files : Files) :
    judged exports path settings markdown files = judged exports path other markdown files := by
  rw [judged, judged, assessed, assessed, h]

theorem Generate.knowsFormat_overrides (options : Generate) : options.overrides.KnowsFormat :=
  nofun

def findingsOf? (outside : Outside) (url : String) (settings : Settings) : Option String :=
  match fetched outside url settings with
  | .error _ => none
  | .ok markdown =>
    match assessed markdown settings with
    | .error _ => none
    | .ok review => if review.findings.isEmpty then none else some (findingsText review.findings)

theorem findingsOf?_eq_some_iff {outside : Outside} {url text : String} {settings : Settings} :
    findingsOf? outside url settings = some text
      ↔
    ∃ markdown review, (Web.download outside.replies url settings.timeout).2 = .ok markdown
      ∧ assessed markdown settings = .ok review ∧ review.findings ≠ []
      ∧ findingsText review.findings = text := by
  simp only [← fetched_eq_ok_iff]
  unfold findingsOf?
  cases fetched outside url settings with
  | error stop => simp
  | ok markdown =>
    cases hassessed : assessed markdown settings with
    | error error => simp [hassessed]
    | ok review => simp [hassessed]

namespace Validate

def overrides (options : Validate) : Settings.Overrides where
  format := options.format
  timeout := options.timeout

def findingsPath (options : Validate) (settings : Settings) : Path :=
  options.findingsFile.getD settings.errorsPath

def ended (outside : Outside) (options : Validate) (settings : Settings) (files : Files) :
    Except Stop Unit × Files :=
  match fetched outside options.url settings with
  | .error stop => (.error stop, files)
  | .ok markdown => judged options.exports (options.findingsPath settings) settings markdown files

def timed (options : Validate) (stored : Settings) : Settings :=
  { stored with timeout := options.timeout.getD stored.timeout }

section

variable {outside : Outside} {options : Validate} {settings stored : Settings} {files final : Files}
variable {environment : Environment} {overrides : Settings.Overrides} {result : Except Stop Unit}

theorem ended_of_effective (htimeout : overrides.timeout = options.timeout)
    (h : stored.effective environment overrides = .ok settings) (files : Files) :
    options.ended outside settings files = options.ended outside (options.timed stored) files := by
  obtain ⟨hlimits, hsettings, -⟩ := Settings.of_effective h
  have htimed : settings.timeout = (options.timed stored).timeout := by rw [hsettings, htimeout]; rfl
  have hpath : options.findingsPath settings = options.findingsPath (options.timed stored) := by
    rw [findingsPath, Settings.errorsPath_of_effective h]
    rfl
  unfold ended
  rw [fetched_congr outside options.url htimed, hpath]
  split
  . rfl
  . exact judged_congr _ _ hlimits _ _

theorem ended_files (hexports : options.exports)
    (h : options.ended outside settings files = (result, final))
    (hwrites : ∀ error, result ≠ .error (.crash (.notWritten error))) :
    final
      =
    (findingsOf? outside options.url settings).elim files
      (files.write (options.findingsPath settings)) := by
  unfold ended at h
  unfold findingsOf?
  cases hfetched : fetched outside options.url settings with
  | error stop =>
    rw [hfetched] at h
    cases h
    rfl
  | ok markdown =>
    simp only [hfetched, judged, if_pos hexports] at h ⊢
    cases hassessed : assessed markdown settings with
    | error error =>
      rw [hassessed] at h
      cases h
      rfl
    | ok review =>
      simp only [hassessed] at h ⊢
      cases hexported : exported review (options.findingsPath settings) files with
      | error error =>
        simp only [hexported, Prod.mk.injEq] at h
        exact absurd h.1.symm (hwrites error)
      | ok written =>
        simp only [hexported, Prod.mk.injEq] at h
        rw [← h.2, eq_of_exported hexported]
        split
        . rfl
        . rfl

theorem ended_eq_ok_iff (h : options.ended outside settings files = (result, final))
    (hwrites : ∀ error, result ≠ .error (.crash (.notWritten error))) :
    result = .ok ()
      ↔
    ∃ markdown review, (Web.download outside.replies options.url settings.timeout).2 = .ok markdown
      ∧ assessed markdown settings = .ok review ∧ review.success := by
  simp only [← fetched_eq_ok_iff]
  unfold ended at h
  cases hfetched : fetched outside options.url settings with
  | error stop =>
    rw [hfetched] at h
    cases h
    simp
  | ok markdown =>
    simp only [hfetched] at h
    cases result with
    | ok =>
      obtain ⟨review, hassessed, hsuccess⟩ := success_of_judged h
      simp [hassessed, hsuccess]
    | error stop =>
      rcases stop_of_judged h with ⟨_, hassessed, -⟩ | ⟨_, hassessed, ⟨hsuccess, -⟩ | ⟨error, -, -, hstop⟩⟩
      . simp [hassessed]
      . simp [hassessed, hsuccess]
      . exact absurd (congrArg Except.error hstop) (hwrites error)

theorem fails_of_ended {stop : Stop}
    (h : options.ended outside settings files = (.error stop, final)) : stop.Fails := by
  unfold ended at h
  split at h
  . next hfetched =>
    cases h
    exact Stop.fails_of_fetched hfetched
  . rcases stop_of_judged h with ⟨error, -, rfl⟩ | ⟨_, -, ⟨-, rfl⟩ | ⟨error, -, -, rfl⟩⟩
    . exact .inr ⟨_, rfl⟩
    . exact .inl rfl
    . exact .inr ⟨_, rfl⟩

end

/-- A run that generates an import document and first reviews and exports what this run does. -/
structure Matches (options : Validate) (generate : Generate) (input : List String) : Prop where
  exports : options.exports
  validates : generate.validates
  exportsFindings : generate.exportsFindings
  findingsFile : generate.findingsFile = options.findingsFile
  timeout : generate.timeout = options.timeout
  address : generate.address? input = some options.url

section

variable {outside : Outside} {options : Validate} {generate : Generate} {world : World}
variable {input : List String} {stored : Settings} {result : Except Stop Unit} {final : Files}

theorem Matches.ended_of_finds {settings : Settings} {url markdown : String} {files : Files}
    (hmatches : options.Matches generate input)
    (hload : Settings.load outside.format outside.folder world.files = .ok stored)
    (hfinds : generate.Finds outside world input settings url markdown)
    (hchecked : generate.checked settings markdown world.files = (result, files)) :
    options.ended outside (options.timed stored) world.files = (result, files) := by
  obtain ⟨settings', hsettled, heffective⟩ := exists_settled hload generate.knowsFormat_overrides
  obtain rfl := hfinds.settings_eq hsettled
  obtain rfl := Option.some.inj (hfinds.address.symm.trans hmatches.address)
  rw [← ended_of_effective hmatches.timeout heffective, ended, hfinds.fetched]
  have hpath : generate.findingsPath settings' = options.findingsPath settings' := by
    rw [Generate.findingsPath, hmatches.findingsFile]
    rfl
  rw [Generate.checked, if_pos hmatches.validates, hpath, hmatches.exportsFindings] at hchecked
  rw [hmatches.exports]
  exact hchecked

theorem Matches.ended_of_ending (hmatches : options.Matches generate input)
    (hload : Settings.load outside.format outside.folder world.files = .ok stored)
    (hending : generate.Ending outside world input result final)
    (hwrites : ∀ error, result ≠ .error (.crash (.notWritten error))) :
    ∃ files, options.ended outside (options.timed stored) world.files = (result, files)
      ∧ (result = .ok () → ∃ text, final = files.write (generate.importPath stored) text)
      ∧ (result ≠ .ok () → final = files) := by
  obtain ⟨settings', hsettled', heffective⟩ := exists_settled hload generate.knowsFormat_overrides
  cases hending with
  | notSettled hsettled => simp [hsettled'] at hsettled
  | noAddress _ haddress => simp [hmatches.address] at haddress
  | notFetched hsettled haddress hfetched =>
    obtain rfl := Except.ok.inj (hsettled.symm.trans hsettled')
    obtain rfl := Option.some.inj (haddress.symm.trans hmatches.address)
    refine ⟨world.files, ?_, nofun, fun _ => rfl⟩
    rw [← ended_of_effective hmatches.timeout heffective, ended, hfetched]
  | notPassed hfinds hchecked =>
    exact ⟨_, hmatches.ended_of_finds hload hfinds hchecked, nofun, fun _ => rfl⟩
  | notWritten => exact absurd rfl (hwrites _)
  | written hfinds hchecked hwrite =>
    obtain rfl := hfinds.settings_eq hsettled'
    have hpath : generate.importPath settings' = generate.importPath stored := by
      rw [Generate.importPath, Settings.importPath_of_effective heffective]
      rfl
    rw [hpath] at hwrite
    exact ⟨_, hmatches.ended_of_finds hload hfinds hchecked,
      fun _ => ⟨_, Files.eq_write_of_write? hwrite⟩, fun h => absurd rfl h⟩

end

end Validate

namespace Run

theorem ends_validate (outside : Outside) (start : Standing) (options : Validate) {settings : Settings}
    (h : settled outside start.world options.overrides = .ok settings) :
    Ends (validate outside options) start
      (options.ended outside settings start.world.files).1
      (start.withFiles (options.ended outside settings start.world.files).2) := by
  have hsettings := ends_settings outside start options.overrides
  rw [h] at hsettings
  apply hsettings.bind
  apply (ends_applyOutput start settings options.verbose).bind
  have hdownload := ends_download outside start options.url settings (settings.output.format = "json")
    (options.verbose || settings.output.verbose)
  unfold Validate.ended
  cases hfetched : fetched outside options.url settings with
  | error stop =>
    rw [hfetched] at hdownload
    exact hdownload.stopped
  | ok markdown =>
    rw [hfetched] at hdownload
    apply hdownload.bind
    exact ends_judged start options.exports _ _ (options.findingsPath settings) settings markdown _
      (Ends.throw _)

end Run

/-! ### Outcomes -/

namespace Validate

def outcome (outside : Outside) (world : World) (input : String) (options : Validate) : Outcome :=
  (Run.validate outside options).outcome world input

def reporting (options : Validate) (format : Option String) (verbose : Bool) : Validate :=
  { options with format, verbose }

def exportedFiles (outside : Outside) (options : Validate) (stored : Settings) (files : Files) : Files :=
  (findingsOf? outside options.url (options.timed stored)).elim files
    (files.write (options.findingsPath stored))

/-- What a run that reviews a document and one that then generates an import document have in common. -/
structure SameExport (outside : Outside) (options : Validate) (importPath : Path) (stored : Settings)
    (files : Files) (reviewing generating : Outcome) : Prop where
  exitCode : generating.exitCode = reviewing.exitCode
  reviewed : reviewing.progress.world.files = options.exportedFiles outside stored files
  refused : generating.exitCode ≠ 0 →
    generating.progress.world.files = options.exportedFiles outside stored files
  generated : generating.exitCode = 0 → ∃ text,
    generating.progress.world.files
      =
    (options.exportedFiles outside stored files).write importPath text
  findings : generating.progress.world.files.read? (options.findingsPath stored)
    =
    reviewing.progress.world.files.read? (options.findingsPath stored)

section

variable {outside : Outside} {options : Validate} {world : World} {stored : Settings}
variable (hload : Settings.load outside.format outside.folder world.files = .ok stored)
include hload

theorem exists_ended (hformat : options.overrides.KnowsFormat) (input : String) :
    ∃ result files, options.ended outside (options.timed stored) world.files = (result, files)
      ∧ (options.outcome outside world input).stop? = stopOf result
      ∧ (options.outcome outside world input).progress.world = { world with files } := by
  obtain ⟨settings, hsettled, heffective⟩ := exists_settled hload hformat
  let start : Standing := { world, input := typedLines input }
  obtain ⟨hstop, hfinal⟩ := outcome_of_ends (Run.ends_validate outside start options hsettled)
  refine ⟨_, _, (ended_of_effective rfl heffective world.files).symm, hstop, ?_⟩
  exact congrArg (fun standing : Standing => standing.world) hfinal

theorem outcome_reporting {format : Option String} {verbose : Bool}
    (hformat : options.overrides.KnowsFormat)
    (hother : (options.reporting format verbose).overrides.KnowsFormat) (input otherInput : String) :
    ((options.reporting format verbose).outcome outside world otherInput).exitCode
        = (options.outcome outside world input).exitCode
      ∧ ((options.reporting format verbose).outcome outside world otherInput).progress.world
        = (options.outcome outside world input).progress.world := by
  obtain ⟨result, files, hended, hstop, hworld⟩ := exists_ended hload hformat input
  obtain ⟨result', files', hended', hstop', hworld'⟩ := exists_ended hload hother otherInput
  obtain ⟨rfl, rfl⟩ := Prod.mk.inj (hended.symm.trans hended')
  rw [Outcome.exitCode, Outcome.exitCode, hstop, hstop', hworld, hworld']
  exact ⟨rfl, rfl⟩

theorem exitCode_eq_zero_iff (hformat : options.overrides.KnowsFormat) (input : String)
    (hwrites : ∀ error,
      (options.outcome outside world input).stop? ≠ some (.crash (.notWritten error))) :
    (options.outcome outside world input).exitCode = 0 ↔ ∃ markdown review,
      (Web.download outside.replies options.url (options.timed stored).timeout).2 = .ok markdown
        ∧ assessed markdown stored = .ok review ∧ review.success := by
  obtain ⟨result, files, hended, hstop, -⟩ := exists_ended hload hformat input
  have hwritten (error : Files.WriteError) : result ≠ .error (.crash (.notWritten error)) := by
    rintro rfl
    exact hwrites error hstop
  refine Iff.trans ?_ (ended_eq_ok_iff hended hwritten)
  cases result with
  | ok => simp [Outcome.exitCode, hstop, stopOf]
  | error stop => simp [Outcome.exitCode_of_fails hstop (fails_of_ended hended)]

theorem Matches.sameExport {generate : Generate} {input otherInput : String}
    (hmatches : options.Matches generate (typedLines otherInput))
    (hformat : options.overrides.KnowsFormat)
    (hwrites : ∀ error, ((Run.generate outside generate).outcome world otherInput).stop?
      ≠ some (.crash (.notWritten error)))
    (hpaths : (options.findingsPath stored).place ≠ (generate.importPath stored).place) :
    options.SameExport outside (generate.importPath stored) stored world.files
      (options.outcome outside world input) ((Run.generate outside generate).outcome world otherInput) := by
  obtain ⟨result, hending, hstop⟩ := Generate.exists_ending outside generate world otherInput
  have hwritten (error : Files.WriteError) : result ≠ .error (.crash (.notWritten error)) := by
    rintro rfl
    exact hwrites error hstop
  obtain ⟨files, hended, hok, herror⟩ := hmatches.ended_of_ending hload hending hwritten
  obtain ⟨result', files', hended', hstop', hworld'⟩ := exists_ended hload hformat input
  obtain ⟨rfl, rfl⟩ := Prod.mk.inj (hended.symm.trans hended')
  have hexported : files = options.exportedFiles outside stored world.files :=
    ended_files hmatches.exports hended hwritten
  have hzero : ((Run.generate outside generate).outcome world otherInput).exitCode = 0
      ↔ result = .ok () := by
    cases result with
    | ok => simp [Outcome.exitCode, hstop, stopOf]
    | error stop => simp [Outcome.exitCode_of_fails hstop (fails_of_ended hended)]
  have hread : ((Run.generate outside generate).outcome world otherInput).progress.world.files.read?
      (options.findingsPath stored) = files.read? (options.findingsPath stored) := by
    by_cases hresult : result = .ok ()
    . obtain ⟨text, hwritten⟩ := hok hresult
      rw [hwritten, Files.read?_write_of_ne hpaths]
    . rw [herror hresult]
  exact {
    exitCode := by rw [Outcome.exitCode, Outcome.exitCode, hstop, hstop']
    reviewed := by rw [hworld', ← hexported]
    refused := fun hcode => by rw [herror (mt hzero.mpr hcode), ← hexported]
    generated := fun hcode => hexported ▸ hok (hzero.mp hcode)
    findings := by rw [hread, hworld'] }

end

end Validate

/--
What a run is told about its report changes neither its verdict nor the files. It goes through exactly
if the document is downloaded and passes its review. A run that first reviews the same document and then
generates an import document gives the same verdict, and it exports the same findings.
-/
theorem verdict_and_export_agree {outside : Outside} {world : World} {stored : Settings}
    (hload : Settings.load outside.format outside.folder world.files = .ok stored)
    {options : Validate} (hformat : options.overrides.KnowsFormat) (input : String) :
    (∀ (format : Option String) (verbose : Bool) (otherInput : String),
      (options.reporting format verbose).overrides.KnowsFormat →
        ((options.reporting format verbose).outcome outside world otherInput).exitCode
            = (options.outcome outside world input).exitCode
          ∧ ((options.reporting format verbose).outcome outside world otherInput).progress.world
            = (options.outcome outside world input).progress.world)
      ∧ ((∀ error, (options.outcome outside world input).stop? ≠ some (.crash (.notWritten error))) →
        ((options.outcome outside world input).exitCode = 0 ↔ ∃ markdown review,
          (Web.download outside.replies options.url (options.timed stored).timeout).2 = .ok markdown
            ∧ assessed markdown stored = .ok review ∧ review.success))
      ∧ ∀ (generate : Generate) (otherInput : String),
        options.Matches generate (typedLines otherInput) →
        (∀ error, ((Run.generate outside generate).outcome world otherInput).stop?
          ≠ some (.crash (.notWritten error))) →
        (options.findingsPath stored).place ≠ (generate.importPath stored).place →
          options.SameExport outside (generate.importPath stored) stored world.files
            (options.outcome outside world input)
            ((Run.generate outside generate).outcome world otherInput) := by
  refine ⟨?_, Validate.exitCode_eq_zero_iff hload hformat input, ?_⟩
  . intro format verbose otherInput hother
    exact Validate.outcome_reporting hload hformat hother input otherInput
  . intro generate otherInput hmatches hwrites hpaths
    exact hmatches.sameExport hload hformat hwrites hpaths

def linkServer : Outside where
  folder := ⟨{}⟩
  replies _ := .response { text := .ok "[b]()" }

def linkReview : Validate where
  url := "http://a.de/x.md"

def linkRun : Generate where
  url := some "http://a.de/x.md"
  validates := true
  exportsFindings := true

theorem fetched_linkReview : fetched linkServer linkReview.url {} = .ok "[b]()" := by
  have hfetched : (fetched linkServer linkReview.url {}).toOption = some "[b]()" := by decide +kernel
  cases h : fetched linkServer linkReview.url {} with
  | error stop => simp [h, Except.toOption] at hfetched
  | ok markdown => simpa [h, Except.toOption] using hfetched

theorem exists_assessed_linkReview :
    ∃ review, assessed "[b]()" {} = .ok review ∧ review.success = false ∧ review.findings ≠ [] := by
  have hassessed : (assessed "[b]()" {}).toOption.map (fun review => (review.success, review.findings.length))
      = some (false, 1) := by
    decide +kernel
  cases h : assessed "[b]()" {} with
  | error error => simp [h, Except.toOption] at hassessed
  | ok review =>
    simp only [h, Except.toOption, Option.map_some, Option.some.injEq, Prod.mk.injEq] at hassessed
    exact ⟨review, rfl, hassessed.1, List.ne_nil_of_length_eq_add_one hassessed.2⟩

theorem stop_linkRun : ((Run.generate linkServer linkRun).outcome {} "").stop? = some (.exit 1) := by
  obtain ⟨review, hassessed, hfailure, -⟩ := exists_assessed_linkReview
  have hfinds : linkRun.Finds linkServer {} (typedLines "") {} linkReview.url "[b]()" :=
    ⟨rfl, by decide, fetched_linkReview⟩
  have hobstacle : ({} : Files).obstacle? (linkRun.findingsPath {}) = none := by decide
  obtain ⟨result, hending, hresult⟩ := Generate.exists_ending linkServer linkRun {} ""
  rw [hresult, hending.refused hfinds rfl hassessed hfailure hobstacle]
  rfl

theorem verdict_and_export_agree_linkReview :
    ∃ text,
      (linkReview.outcome linkServer {} "").exitCode = 1
        ∧ ((linkReview.reporting (some "json") true).outcome linkServer {} "").exitCode = 1
        ∧ ((Run.generate linkServer linkRun).outcome {} "").exitCode = 1
        ∧ (linkReview.outcome linkServer {} "").progress.world.files
          = Files.write {} (Path.ofText "validation-errors.csv") text
        ∧ ((linkReview.reporting (some "json") true).outcome linkServer {} "").progress.world.files
          = Files.write {} (Path.ofText "validation-errors.csv") text
        ∧ ((Run.generate linkServer linkRun).outcome {} "").progress.world.files
          = Files.write {} (Path.ofText "validation-errors.csv") text := by
  have hload : Settings.load linkServer.format linkServer.folder (World.files {}) = .ok {} := rfl
  have hformat : linkReview.overrides.KnowsFormat := nofun
  have hjson : (linkReview.reporting (some "json") true).overrides.KnowsFormat := by
    rintro format ⟨⟩
    exact .inr (by decide)
  have hmatches : linkReview.Matches linkRun (typedLines "") :=
    ⟨rfl, rfl, rfl, rfl, rfl, by decide⟩
  have hwrites (error : Files.WriteError) :
      ((Run.generate linkServer linkRun).outcome {} "").stop? ≠ some (.crash (.notWritten error)) := by
    rw [stop_linkRun]
    simp
  have hpaths : (linkReview.findingsPath {}).place ≠ (linkRun.importPath {}).place := by decide
  obtain ⟨hreport, -, hgenerate⟩ := verdict_and_export_agree hload hformat ""
  obtain ⟨hcode, hworld⟩ := hreport (some "json") true "" hjson
  have hsame := hgenerate linkRun "" hmatches hwrites hpaths
  have hexit : ((Run.generate linkServer linkRun).outcome {} "").exitCode = 1 := by
    rw [Outcome.exitCode, stop_linkRun]
  obtain ⟨review, hassessed, -, hfindings⟩ := exists_assessed_linkReview
  have hsome : findingsOf? linkServer linkReview.url (linkReview.timed {})
      = some (findingsText review.findings) :=
    findingsOf?_eq_some_iff.mpr
      ⟨_, review, fetched_eq_ok_iff.mp fetched_linkReview, hassessed, hfindings, rfl⟩
  have hfiles : linkReview.exportedFiles linkServer {} {}
      = Files.write {} (linkReview.findingsPath {}) (findingsText review.findings) := by
    rw [Validate.exportedFiles, hsome, Option.elim_some]
  refine ⟨findingsText review.findings, hsame.exitCode ▸ hexit, hcode.trans (hsame.exitCode ▸ hexit),
    hexit, ?_, ?_, ?_⟩
  . rw [hsame.reviewed]
    exact hfiles
  . rw [hworld, hsame.reviewed]
    exact hfiles
  . rw [hsame.refused (by rw [hexit]; decide)]
    exact hfiles

end MarkdownIntake.Command
