import MarkdownIntake.Proofs.Command.Documents
import MarkdownIntake.Proofs.Import.Document
import MarkdownIntake.Proofs.Text.Blank

/-!
This module contains what a run that generates an import document does to the files. The findings may be
written before the review decides whether the document is refused; the import document is written last.
-/

namespace MarkdownIntake.Command

open MarkdownIntake.Document MarkdownIntake.Import MarkdownIntake.Json MarkdownIntake.Review
open MarkdownIntake.Storage MarkdownIntake.Text

namespace Generate

def overrides (options : Generate) : Settings.Overrides where
  contentType := options.contentType
  locale := options.locale
  publish := options.publish
  timeout := options.timeout

def address? (options : Generate) (input : List String) : Option String :=
  match options.url.filter (!·.isEmpty) with
  | some url => some url
  | none => (input.head?.map trimmed).filter (!·.isEmpty)

def unread (options : Generate) (input : List String) : List String :=
  match options.url.filter (!·.isEmpty) with
  | some _ => input
  | none => input.tail

def findingsPath (options : Generate) (settings : Settings) : Path :=
  options.findingsFile.getD settings.errorsPath

def importPath (options : Generate) (settings : Settings) : Path :=
  options.importFile.getD settings.importPath

def entry (options : Generate) (settings : Settings) (markdown : String) : Entry where
  title := title markdown defaultTitle
  markdown
  contentType := settings.entry.contentType
  locale := settings.entry.locale
  publish := settings.entry.publish
  withContentType := options.withContentType

def checked (options : Generate) (settings : Settings) (markdown : String) (files : Files) :
    Except Stop Unit × Files :=
  if options.validates then
    judged options.exportsFindings (options.findingsPath settings) settings markdown files
  else
    (.ok (), files)

structure Finds (outside : Outside) (options : Generate) (world : World) (input : List String)
    (settings : Settings) (url markdown : String) : Prop where
  settled : settled outside world options.overrides = .ok settings
  address : options.address? input = some url
  fetched : fetched outside url settings = .ok markdown

inductive Ending (outside : Outside) (options : Generate) (world : World) (input : List String) :
    Except Stop Unit → Files → Prop where
  | notSettled {stop : Stop} (hsettled : settled outside world options.overrides = .error stop) :
    Ending outside options world input (.error stop) world.files
  | noAddress {settings : Settings} (hsettled : settled outside world options.overrides = .ok settings)
    (haddress : options.address? input = none) :
    Ending outside options world input (.error (.exit 1)) world.files
  | notFetched {settings : Settings} {url : String} {stop : Stop}
    (hsettled : settled outside world options.overrides = .ok settings)
    (haddress : options.address? input = some url)
    (hfetched : fetched outside url settings = .error stop) :
    Ending outside options world input (.error stop) world.files
  | notPassed {settings : Settings} {url markdown : String} {stop : Stop} {files : Files}
    (hfinds : Finds outside options world input settings url markdown)
    (hchecked : options.checked settings markdown world.files = (.error stop, files)) :
    Ending outside options world input (.error stop) files
  | notWritten {settings : Settings} {url markdown : String} {files : Files} {error : Files.WriteError}
    (hfinds : Finds outside options world input settings url markdown)
    (hchecked : options.checked settings markdown world.files = (.ok (), files))
    (hwrite : files.write? (options.importPath settings) (options.entry settings markdown).documentText
      = .error error) :
    Ending outside options world input (.error (.crash (.notWritten error))) files
  | written {settings : Settings} {url markdown : String} {files final : Files}
    (hfinds : Finds outside options world input settings url markdown)
    (hchecked : options.checked settings markdown world.files = (.ok (), files))
    (hwrite : files.write? (options.importPath settings) (options.entry settings markdown).documentText
      = .ok final) :
    Ending outside options world input (.ok ()) final

end Generate

namespace Run

variable (outside : Outside) (options : Generate) (start : Standing)

theorem ends_address {url : String} (h : options.address? start.input = some url) :
    Ends (address options) start (.ok url) (start.withInput (options.unread start.input)) := by
  unfold Generate.address? at h
  unfold address Generate.unread
  cases hurl : options.url.filter (!·.isEmpty) with
  | some given =>
    rw [hurl] at h
    cases h
    exact Ends.pure _ start
  | none =>
    rw [hurl] at h
    cases hinput : start.input with
    | nil => simp [hinput] at h
    | cons line rest =>
      simp only [hinput, List.head?_cons, Option.map_some, Option.filter_eq_some_iff,
        Option.some.injEq] at h
      obtain ⟨rfl, hempty⟩ := h
      apply (ends_say start _).bind
      apply (ends_ask_cons start _ hinput).bind
      dsimp only
      split
      . next hempty' => simp [hempty'] at hempty
      . exact Ends.pure _ _

theorem ends_address_none (h : options.address? start.input = none) :
    Ends (address options) start (.error (.exit 1)) (start.withInput start.input.tail) := by
  unfold Generate.address? at h
  unfold address
  cases hurl : options.url.filter (!·.isEmpty) with
  | some given => simp [hurl] at h
  | none =>
    rw [hurl] at h
    apply (ends_say start _).bind
    cases hinput : start.input with
    | nil =>
      rw [List.tail_nil, ← hinput]
      exact (ends_ask_nil start _ hinput).stopped
    | cons line rest =>
      apply (ends_ask_cons start _ hinput).bind
      dsimp only
      split
      . exact ends_fail _ _ _
      . next hempty =>
        have hblank : trimmed line = "" := by simpa [hinput] using h
        exact absurd (by simp [hblank]) hempty

theorem ends_checkFirst (settings : Settings) (markdown : String) (verbose : Bool) :
    Ends (checkFirst options markdown (title markdown defaultTitle) settings verbose) start
      (options.checked settings markdown start.world.files).1
      (start.withFiles (options.checked settings markdown start.world.files).2) := by
  unfold checkFirst
  split
  . next hvalidates =>
    rw [Generate.checked, if_pos hvalidates]
    exact ends_judged start options.exportsFindings false verbose (options.findingsPath settings)
      settings markdown .text fun after => ends_fail after _ _
  . next hvalidates =>
    rw [Generate.checked, if_neg hvalidates]
    split
    . exact ends_complain start _
    . exact Ends.pure () start

theorem ends_generate_of_finds {settings : Settings} {url markdown : String}
    (h : options.Finds outside start.world start.input settings url markdown) :
    ∃ result files, options.Ending outside start.world start.input result files
      ∧ Ends (generate outside options) start result
          ((start.withInput (options.unread start.input)).withFiles files) := by
  -- The steps up to the review are the same in all cases; the cases are the ways to stop after it.
  have hsettings := ends_settings outside start options.overrides
  have houtput := ends_applyOutput start settings options.verbose
  have haddress := ends_address options start h.address
  have hdownload := ends_download outside (start.withInput (options.unread start.input)) url settings
    false (options.verbose || settings.output.verbose)
  have hcheck := ends_checkFirst options (start.withInput (options.unread start.input)) settings markdown
    (options.verbose || settings.output.verbose)
  rw [h.settled] at hsettings
  rw [h.fetched] at hdownload
  cases hchecked : options.checked settings markdown start.world.files with
  | mk result files =>
    have hrest : (start.withInput (options.unread start.input)).world.files = start.world.files := rfl
    rw [hrest, hchecked] at hcheck
    cases result with
    | error stop =>
      refine ⟨_, files, .notPassed h hchecked, ?_⟩
      exact hsettings.bind (houtput.bind (haddress.bind (hdownload.bind hcheck.stopped)))
    | ok =>
      let after := (start.withInput (options.unread start.input)).withFiles files
      have hfiles := ends_files after
      cases hwrite : files.write? (options.importPath settings)
          (options.entry settings markdown).documentText with
      | error error =>
        have hwritten := ends_orCrash_error after .notWritten hwrite
        refine ⟨_, files, .notWritten h hchecked hwrite, ?_⟩
        exact hsettings.bind (houtput.bind (haddress.bind (hdownload.bind (hcheck.bind
          (hfiles.bind hwritten.stopped)))))
      | ok final =>
        have hwritten := ends_orCrash_ok after .notWritten hwrite
        refine ⟨_, final, .written h hchecked hwrite, ?_⟩
        exact hsettings.bind (houtput.bind (haddress.bind (hdownload.bind (hcheck.bind
          (hfiles.bind (hwritten.bind ((ends_setFiles after final).bind
            ((ends_log _ _ _ _).bind (ends_say _ _)))))))))

theorem ends_generate : ∃ result files input,
    options.Ending outside start.world start.input result files
      ∧ Ends (generate outside options) start result ((start.withInput input).withFiles files) := by
  have hsettings := ends_settings outside start options.overrides
  cases hsettled : settled outside start.world options.overrides with
  | error stop =>
    rw [hsettled] at hsettings
    exact ⟨_, _, start.input, .notSettled hsettled, hsettings.stopped⟩
  | ok settings =>
    rw [hsettled] at hsettings
    have houtput := ends_applyOutput start settings options.verbose
    cases haddress : options.address? start.input with
    | none =>
      refine ⟨_, _, start.input.tail, .noAddress hsettled haddress, ?_⟩
      exact hsettings.bind (houtput.bind (ends_address_none options start haddress).stopped)
    | some url =>
      cases hfetched : fetched outside url settings with
      | error stop =>
        have hdownload := ends_download outside (start.withInput (options.unread start.input)) url
          settings false (options.verbose || settings.output.verbose)
        rw [hfetched] at hdownload
        refine ⟨_, _, options.unread start.input, .notFetched hsettled haddress hfetched, ?_⟩
        exact hsettings.bind (houtput.bind ((ends_address options start haddress).bind hdownload.stopped))
      | ok markdown =>
        obtain ⟨result, files, hending, hends⟩ :=
          ends_generate_of_finds outside options start ⟨hsettled, haddress, hfetched⟩
        exact ⟨result, files, _, hending, hends⟩

end Run

/-! ### What an ending says -/

namespace Generate

variable {outside : Outside} {options : Generate} {world : World} {input : List String}
variable {settings : Settings} {url markdown : String} {files : Files}

theorem address?_eq_none_iff :
    options.address? input = none
      ↔
    (∀ url ∈ options.url, url = "") ∧ ∀ line ∈ input.head?, isBlankText line := by
  have hgiven : options.url.filter (!·.isEmpty) = none ↔ ∀ url ∈ options.url, url = "" := by
    simp [Option.filter_eq_none_iff]
  have htyped : (input.head?.map trimmed).filter (!·.isEmpty) = none
      ↔ ∀ line ∈ input.head?, isBlankText line := by
    simp [Option.filter_eq_none_iff, trimmed_eq_empty_iff]
  rw [← hgiven, ← htyped]
  unfold address?
  cases options.url.filter (!·.isEmpty) with
  | none => simp
  | some url => simp

theorem Finds.unique {settings' : Settings} {url' markdown' : String}
    (h : Finds outside options world input settings url markdown)
    (h' : Finds outside options world input settings' url' markdown') :
    settings = settings' ∧ url = url' ∧ markdown = markdown' := by
  obtain rfl := Except.ok.inj (h.settled.symm.trans h'.settled)
  obtain rfl := Option.some.inj (h.address.symm.trans h'.address)
  exact ⟨rfl, rfl, Except.ok.inj (h.fetched.symm.trans h'.fetched)⟩

theorem Finds.settings_eq {settings' : Settings}
    (h : Finds outside options world input settings url markdown)
    (hsettled : Command.settled outside world options.overrides = .ok settings') :
    settings' = settings :=
  Except.ok.inj (hsettled.symm.trans h.settled)

def Passes (options : Generate) (settings : Settings) (markdown : String) : Prop :=
  options.validates → ∃ review, assessed markdown settings = .ok review ∧ review.success

theorem passes_of_checked {final : Files}
    (h : options.checked settings markdown files = (.ok (), final)) :
    options.Passes settings markdown := by
  intro hvalidates
  rw [checked, if_pos hvalidates] at h
  exact success_of_judged h

theorem checked_files (options : Generate) (settings : Settings) (markdown : String) (files : Files) :
    (options.checked settings markdown files).2 = files
      ∨ options.validates ∧ options.exportsFindings
        ∧ ∃ review, assessed markdown settings = .ok review ∧ review.findings ≠ []
          ∧ (options.checked settings markdown files).2
              =
            files.write (options.findingsPath settings) (findingsText review.findings) := by
  unfold checked
  split
  . next hvalidates => exact (files_of_judged ..).imp_right fun h => ⟨hvalidates, h⟩
  . exact .inl rfl

/-- The only file that is changed before the import document is written is that of the findings. -/
theorem checked_read? {result : Except Stop Unit} {final : Files} {path : Path}
    (hchecked : options.checked settings markdown files = (result, final))
    (h : final.read? path ≠ files.read? path) :
    path.place = (options.findingsPath settings).place ∧ options.validates ∧ options.exportsFindings
      ∧ ∃ review, assessed markdown settings = .ok review ∧ review.findings ≠ []
        ∧ final.read? path = some (findingsText review.findings) := by
  have hfiles := checked_files options settings markdown files
  rw [hchecked] at hfiles
  rcases hfiles with rfl | ⟨hvalidates, hexports, review, hassessed, hfindings, rfl⟩
  . exact absurd rfl h
  . have hplace : path.place = (options.findingsPath settings).place := by
      by_contra hne
      exact h (Files.read?_write_of_ne hne files _)
    refine ⟨hplace, hvalidates, hexports, review, hassessed, hfindings, ?_⟩
    rw [Files.read?_congr hplace, Files.read?_write]

theorem stop_of_checked {stop : Stop} {final : Files}
    (h : options.checked settings markdown files = (.error stop, final)) :
    options.validates
      ∧ ((∃ error, assessed markdown settings = .error error ∧ stop = .crash (.notReviewed error))
        ∨ ∃ review, assessed markdown settings = .ok review
          ∧ (review.success = false ∧ stop = .exit 1
            ∨ ∃ error, review.findings ≠ []
              ∧ files.obstacle? (options.findingsPath settings) = some error
              ∧ stop = .crash (.notWritten error))) := by
  unfold checked at h
  split at h
  . next hvalidates => exact ⟨hvalidates, stop_of_judged h⟩
  . cases h

namespace Ending

variable {stop : Stop} {result : Except Stop Unit}

theorem fails (h : options.Ending outside world input (.error stop) files) : stop.Fails := by
  cases h with
  | notSettled hsettled => exact (stop_of_settled hsettled).imp_right fun ⟨error, h⟩ => ⟨_, h⟩
  | noAddress => exact .inl rfl
  | notFetched _ _ hfetched => exact Stop.fails_of_fetched hfetched
  | notPassed _ hchecked =>
    rcases stop_of_checked hchecked with
      ⟨-, ⟨error, -, h⟩ | ⟨review, -, ⟨-, h⟩ | ⟨error, -, -, h⟩⟩⟩
    . exact .inr ⟨_, h⟩
    . exact .inl h
    . exact .inr ⟨_, h⟩
  | notWritten => exact .inr ⟨_, rfl⟩

theorem exists_obstacle {error : Files.WriteError}
    (h : options.Ending outside world input (.error (.crash (.notWritten error))) files) :
    ∃ settings url markdown, options.Finds outside world input settings url markdown
      ∧ ((∃ review, assessed markdown settings = .ok review ∧ review.findings ≠ []
          ∧ world.files.obstacle? (options.findingsPath settings) = some error)
        ∨ options.checked settings markdown world.files = (.ok (), files)
          ∧ files.obstacle? (options.importPath settings) = some error) := by
  cases h with
  | notSettled hsettled =>
    rcases stop_of_settled hsettled with h | ⟨_, h⟩ <;> cases h
  | notFetched _ _ hfetched =>
    rcases stop_of_fetched hfetched with h | ⟨_, h⟩ | ⟨_, h⟩ <;> cases h
  | notPassed hfinds hchecked =>
    rcases stop_of_checked hchecked with
      ⟨-, ⟨_, -, h⟩ | ⟨review, hassessed, ⟨-, h⟩ | ⟨_, hfindings, hobstacle, h⟩⟩⟩
    . cases h
    . cases h
    . cases h
      exact ⟨_, _, _, hfinds, .inl ⟨review, hassessed, hfindings, hobstacle⟩⟩
  | notWritten hfinds hchecked hwrite =>
    exact ⟨_, _, _, hfinds, .inr ⟨hchecked, Files.write?_eq_error_iff.mp hwrite⟩⟩

theorem unchanged (h : options.Ending outside world input result files)
    (hnone : ∀ settings url markdown, ¬ options.Finds outside world input settings url markdown) :
    (∃ stop, result = .error stop) ∧ files = world.files := by
  cases h with
  | notSettled | noAddress | notFetched => exact ⟨⟨_, rfl⟩, rfl⟩
  | notPassed hfinds | notWritten hfinds | written hfinds => exact absurd hfinds (hnone _ _ _)

theorem exists_written (h : options.Ending outside world input (.ok ()) files) :
    ∃ settings url markdown, options.Finds outside world input settings url markdown
      ∧ options.Passes settings markdown
      ∧ files.read? (options.importPath settings)
          =
        some (options.entry settings markdown).documentText := by
  cases h with
  | written hfinds hchecked hwrite =>
    refine ⟨_, _, _, hfinds, passes_of_checked hchecked, ?_⟩
    rw [Files.eq_write_of_write? hwrite, Files.read?_write]

theorem stop_of_passes (h : options.Ending outside world input (.error stop) files)
    (hfinds : options.Finds outside world input settings url markdown)
    (hpasses : options.Passes settings markdown) : ∃ error, stop = .crash (.notWritten error) := by
  cases h with
  | notSettled hsettled => simp [hfinds.settled] at hsettled
  | noAddress _ haddress => simp [hfinds.address] at haddress
  | notFetched hsettled haddress hfetched =>
    obtain rfl := hfinds.settings_eq hsettled
    obtain rfl := Option.some.inj (hfinds.address.symm.trans haddress)
    simp [hfinds.fetched] at hfetched
  | notPassed hfinds' hchecked =>
    obtain ⟨rfl, rfl, rfl⟩ := hfinds.unique hfinds'
    obtain ⟨hvalidates, hstop⟩ := stop_of_checked hchecked
    obtain ⟨review, hassessed, hsuccess⟩ := hpasses hvalidates
    rcases hstop with ⟨error, herror, -⟩ | ⟨review', hassessed', ⟨hfailure, -⟩ | ⟨error, -, -, rfl⟩⟩
    . simp [hassessed] at herror
    . obtain rfl := Except.ok.inj (hassessed.symm.trans hassessed')
      simp [hsuccess] at hfailure
    . exact ⟨error, rfl⟩
  | notWritten => exact ⟨_, rfl⟩

theorem refused {review : Assessment} (h : options.Ending outside world input result files)
    (hfinds : options.Finds outside world input settings url markdown) (hvalidates : options.validates)
    (hassessed : assessed markdown settings = .ok review) (hfailure : review.success = false)
    (hobstacle : world.files.obstacle? (options.findingsPath settings) = none) :
    result = .error (.exit 1) := by
  have hpasses : ¬ options.Passes settings markdown := by
    intro hpasses
    obtain ⟨review', hassessed', hsuccess⟩ := hpasses hvalidates
    obtain rfl := Except.ok.inj (hassessed.symm.trans hassessed')
    simp [hfailure] at hsuccess
  cases h with
  | notSettled hsettled => simp [hfinds.settled] at hsettled
  | noAddress _ haddress => simp [hfinds.address] at haddress
  | notFetched hsettled haddress hfetched =>
    obtain rfl := hfinds.settings_eq hsettled
    obtain rfl := Option.some.inj (hfinds.address.symm.trans haddress)
    simp [hfinds.fetched] at hfetched
  | notPassed hfinds' hchecked =>
    obtain ⟨rfl, -, rfl⟩ := hfinds.unique hfinds'
    obtain ⟨-, ⟨error, herror, -⟩ | ⟨review', -, ⟨-, rfl⟩ | ⟨error, -, hsome, -⟩⟩⟩ :=
      stop_of_checked hchecked
    . simp [hassessed] at herror
    . rfl
    . simp [hobstacle] at hsome
  | notWritten hfinds' hchecked | written hfinds' hchecked =>
    obtain ⟨rfl, -, rfl⟩ := hfinds.unique hfinds'
    exact absurd (passes_of_checked hchecked) hpasses

theorem kept (h : options.Ending outside world input (.error stop) files)
    (hsettled : settled outside world options.overrides = .ok settings)
    (hpaths : (options.findingsPath settings).place ≠ (options.importPath settings).place) :
    files.read? (options.importPath settings) = world.files.read? (options.importPath settings) := by
  cases h with
  | notSettled | noAddress | notFetched => rfl
  | notPassed hfinds hchecked | notWritten hfinds hchecked =>
    obtain rfl := hfinds.settings_eq hsettled
    by_contra hchanged
    exact hpaths (checked_read? hchecked hchanged).1.symm

theorem changed (h : options.Ending outside world input result files)
    (hsettled : settled outside world options.overrides = .ok settings) {path : Path}
    (hplace : path.place ≠ (options.importPath settings).place)
    (hchanged : files.read? path ≠ world.files.read? path) :
    path.place = (options.findingsPath settings).place ∧ options.validates ∧ options.exportsFindings
      ∧ ∃ url markdown review, options.Finds outside world input settings url markdown
        ∧ assessed markdown settings = .ok review ∧ review.findings ≠ []
        ∧ files.read? path = some (findingsText review.findings) := by
  cases h with
  | notSettled | noAddress | notFetched => exact absurd rfl hchanged
  | notPassed hfinds hchecked | notWritten hfinds hchecked =>
    obtain rfl := hfinds.settings_eq hsettled
    obtain ⟨hfindings, hvalidates, hexports, review, hreview⟩ := checked_read? hchecked hchanged
    exact ⟨hfindings, hvalidates, hexports, _, _, review, hfinds, hreview⟩
  | written hfinds hchecked hwrite =>
    obtain rfl := hfinds.settings_eq hsettled
    rw [Files.eq_write_of_write? hwrite, Files.read?_write_of_ne hplace] at hchanged ⊢
    obtain ⟨hfindings, hvalidates, hexports, review, hreview⟩ := checked_read? hchecked hchanged
    exact ⟨hfindings, hvalidates, hexports, _, _, review, hfinds, hreview⟩

end Ending

/-! ### The effect of a run -/

/-- What the outcome of a run with these settings is, if no file fails to be written. -/
structure Effect (outside : Outside) (options : Generate) (world : World) (input : List String)
    (settings : Settings) (outcome : Outcome) : Prop where
  exitCode : outcome.exitCode = 0 ∨ outcome.exitCode = 1
  exitCode_eq_zero_iff : outcome.exitCode = 0 ↔ ∃ url markdown,
    options.Finds outside world input settings url markdown ∧ options.Passes settings markdown
  written : outcome.exitCode = 0 → ∃ url markdown document,
    options.Finds outside world input settings url markdown
      ∧ outcome.progress.world.files.read? (options.importPath settings)
          =
        some (document.render Style.document)
      ∧ CarriesEntry document (title markdown defaultTitle) markdown settings.entry.locale
          settings.entry.publish
  kept : outcome.exitCode ≠ 0 →
    outcome.progress.world.files.read? (options.importPath settings)
      =
    world.files.read? (options.importPath settings)
  refused : ∀ url markdown review, options.Finds outside world input settings url markdown →
    options.validates → assessed markdown settings = .ok review → review.success = false →
    outcome.exitCode = 1
  noAddress : (∀ url ∈ options.url, url = "") → (∀ line ∈ input.head?, isBlankText line) →
    outcome.exitCode = 1 ∧ outcome.progress.world.files = world.files
  notDownloaded : ∀ url error, options.address? input = some url →
    (Web.download outside.replies url settings.timeout).2 = .error error →
    outcome.exitCode = 1 ∧ outcome.progress.world.files = world.files
  others : ∀ path : Path, path.place ≠ (options.importPath settings).place →
    outcome.progress.world.files.read? path ≠ world.files.read? path →
    path.place = (options.findingsPath settings).place ∧ options.validates ∧ options.exportsFindings
      ∧ ∃ url markdown review, options.Finds outside world input settings url markdown
        ∧ assessed markdown settings = .ok review ∧ review.findings ≠ []
        ∧ outcome.progress.world.files.read? path = some (findingsText review.findings)

theorem exists_ending (outside : Outside) (options : Generate) (world : World) (input : String) :
    ∃ result, options.Ending outside world (typedLines input) result
        ((Run.generate outside options).outcome world input).progress.world.files
      ∧ ((Run.generate outside options).outcome world input).stop? = stopOf result := by
  obtain ⟨result, files, rest, hending, hends⟩ :=
    Run.ends_generate outside options { world, input := typedLines input }
  obtain ⟨hstop, hfinal⟩ := outcome_of_ends hends
  refine ⟨result, ?_, hstop⟩
  have hfiles := congrArg (fun standing : Standing => standing.world.files) hfinal
  exact (hfiles : _ = files) ▸ hending

namespace Ending

variable {outcome : Outcome} {result : Except Stop Unit}

theorem fails_unchanged
    (h : options.Ending outside world input result outcome.progress.world.files)
    (hstop : outcome.stop? = stopOf result)
    (hnone : ∀ settings url markdown, ¬ options.Finds outside world input settings url markdown) :
    outcome.exitCode = 1 ∧ outcome.progress.world.files = world.files := by
  obtain ⟨⟨stop, rfl⟩, hfiles⟩ := h.unchanged hnone
  exact ⟨outcome.exitCode_of_fails hstop h.fails, hfiles⟩

theorem exitCode_eq_zero_iff
    (h : options.Ending outside world input result outcome.progress.world.files)
    (hstop : outcome.stop? = stopOf result)
    (hwrites : ∀ error, outcome.stop? ≠ some (.crash (.notWritten error)))
    (hsettled : settled outside world options.overrides = .ok settings) :
    outcome.exitCode = 0 ↔ ∃ url markdown,
      options.Finds outside world input settings url markdown ∧ options.Passes settings markdown := by
  cases result with
  | ok =>
    obtain ⟨settings', url, markdown, hfinds, hpasses, -⟩ := h.exists_written
    obtain rfl := hfinds.settings_eq hsettled
    exact ⟨fun _ => ⟨url, markdown, hfinds, hpasses⟩, fun _ => by rw [Outcome.exitCode, hstop]; rfl⟩
  | error stop =>
    refine ⟨?_, ?_⟩
    . intro hzero
      rw [outcome.exitCode_of_fails hstop h.fails] at hzero
      cases hzero
    . rintro ⟨url, markdown, hfinds, hpasses⟩
      obtain ⟨error, rfl⟩ := h.stop_of_passes hfinds hpasses
      exact absurd hstop (hwrites error)

theorem exitCode_eq (h : options.Ending outside world input result outcome.progress.world.files)
    (hstop : outcome.stop? = stopOf result) : outcome.exitCode = 0 ∨ outcome.exitCode = 1 := by
  cases result with
  | ok => exact .inl (by rw [Outcome.exitCode, hstop]; rfl)
  | error stop => exact .inr (outcome.exitCode_of_fails hstop h.fails)

theorem effect (h : options.Ending outside world input result outcome.progress.world.files)
    (hstop : outcome.stop? = stopOf result)
    (hwrites : ∀ error, outcome.stop? ≠ some (.crash (.notWritten error)))
    (hsettled : settled outside world options.overrides = .ok settings)
    (hpaths : (options.findingsPath settings).place ≠ (options.importPath settings).place) :
    options.Effect outside world input settings outcome where
  exitCode := h.exitCode_eq hstop
  exitCode_eq_zero_iff := h.exitCode_eq_zero_iff hstop hwrites hsettled
  written := by
    intro hzero
    cases result with
    | ok =>
      obtain ⟨settings', url, markdown, hfinds, -, hread⟩ := h.exists_written
      obtain rfl := hfinds.settings_eq hsettled
      exact ⟨url, markdown, _, hfinds, hread, (options.entry settings markdown).carriesEntry⟩
    | error stop => simp [outcome.exitCode_of_fails hstop h.fails] at hzero
  kept := by
    intro hcode
    cases result with
    | ok => simp [Outcome.exitCode, hstop, stopOf] at hcode
    | error stop => exact h.kept hsettled hpaths
  refused := by
    intro url markdown review hfinds hvalidates hassessed hsuccess
    refine (h.exitCode_eq hstop).resolve_left fun hzero => ?_
    obtain ⟨url', markdown', hfinds', hpasses⟩ :=
      (h.exitCode_eq_zero_iff hstop hwrites hsettled).mp hzero
    obtain ⟨-, -, rfl⟩ := hfinds.unique hfinds'
    obtain ⟨review', hassessed', hsuccess'⟩ := hpasses hvalidates
    obtain rfl := Except.ok.inj (hassessed.symm.trans hassessed')
    simp [hsuccess] at hsuccess'
  noAddress := by
    intro hurl hinput
    apply h.fails_unchanged hstop
    intro settings url markdown hfinds
    have hnone := address?_eq_none_iff.mpr ⟨hurl, hinput⟩
    simp [hfinds.address] at hnone
  notDownloaded := by
    intro url error haddress hdownload
    apply h.fails_unchanged hstop
    intro settings' url' markdown hfinds
    obtain rfl := hfinds.settings_eq hsettled
    obtain rfl := Option.some.inj (haddress.symm.trans hfinds.address)
    have hfetched := hfinds.fetched
    rw [fetched, hdownload] at hfetched
    cases hfetched
  others := fun path hplace hchanged => h.changed hsettled hplace hchanged

end Ending

end Generate

/--
What a run that generates an import document does to the files. Settings that cannot be found stop it
before anything is written.
-/
theorem generate_effect (outside : Outside) (options : Generate) (world : World) (input : String)
    (hwrites : ∀ error, ((Run.generate outside options).outcome world input).stop?
      ≠ some (.crash (.notWritten error)))
    (hpaths : ∀ settings, settled outside world options.overrides = .ok settings →
      (options.findingsPath settings).place ≠ (options.importPath settings).place) :
    (∀ stop, settled outside world options.overrides = .error stop →
      ((Run.generate outside options).outcome world input).exitCode = 1
        ∧ ((Run.generate outside options).outcome world input).progress.world.files = world.files)
      ∧ ∀ settings, settled outside world options.overrides = .ok settings →
        options.Effect outside world (typedLines input) settings
          ((Run.generate outside options).outcome world input) := by
  obtain ⟨result, hending, hstop⟩ := Generate.exists_ending outside options world input
  refine ⟨?_, fun settings hsettled => hending.effect hstop hwrites hsettled (hpaths settings hsettled)⟩
  intro stop hsettled
  apply hending.fails_unchanged hstop
  intro settings url markdown hfinds
  simp [hfinds.settled] at hsettled

def headingServer : Outside where
  folder := ⟨{}⟩
  replies _ := .response { text := .ok "# A" }

def headingRun : Generate where
  url := some "http://a.de/x.md"
  validates := true
  exportsFindings := true

theorem finds_headingRun :
    headingRun.Finds headingServer {} (typedLines "") {} "http://a.de/x.md" "# A" where
  settled := rfl
  address := by decide
  fetched := by
    have hfetched : (fetched headingServer "http://a.de/x.md" {}).toOption = some "# A" := by
      decide +kernel
    cases h : fetched headingServer "http://a.de/x.md" {} with
    | error stop => simp [h, Except.toOption] at hfetched
    | ok markdown => simpa [h, Except.toOption] using hfetched

theorem exists_assessed_headingRun :
    ∃ review, assessed "# A" {} = .ok review ∧ review.success ∧ review.findings = [] := by
  have hassessed : (assessed "# A" {}).toOption.map (fun review => (review.success, review.findings))
      = some (true, []) := by
    decide +kernel
  cases h : assessed "# A" {} with
  | error error => simp [h, Except.toOption] at hassessed
  | ok review => exact ⟨review, rfl, by simpa [h, Except.toOption] using hassessed⟩

theorem stop_headingRun (error : Files.WriteError) :
    ((Run.generate headingServer headingRun).outcome {} "").stop?
      ≠ some (.crash (.notWritten error)) := by
  intro hstop
  obtain ⟨review, hassessed, -, hfindings⟩ := exists_assessed_headingRun
  obtain ⟨result, hending, hresult⟩ := Generate.exists_ending headingServer headingRun {} ""
  rw [hresult] at hstop
  cases result with
  | ok => cases hstop
  | error stop =>
    obtain rfl := Option.some.inj hstop
    obtain ⟨settings, url, markdown, hfinds, hobstacle⟩ := hending.exists_obstacle
    obtain ⟨rfl, -, rfl⟩ := finds_headingRun.unique hfinds
    rcases hobstacle with ⟨review', hassessed', hsome, -⟩ | ⟨hchecked, hobstacle⟩
    . obtain rfl := Except.ok.inj (hassessed.symm.trans hassessed')
      exact hsome hfindings
    . rcases Generate.checked_files headingRun {} "# A" {} with hfiles
        | ⟨-, -, review', hassessed', hsome, -⟩
      . have hnone : ({} : Files).obstacle? (headingRun.importPath {}) = none := by decide
        rw [hchecked] at hfiles
        dsimp only at hfiles
        rw [hfiles] at hobstacle
        cases hobstacle.symm.trans hnone
      . obtain rfl := Except.ok.inj (hassessed.symm.trans hassessed')
        exact hsome hfindings

theorem generate_effect_headingRun :
    ((Run.generate headingServer headingRun).outcome {} "").exitCode = 0
      ∧ (∃ document,
        ((Run.generate headingServer headingRun).outcome {} "").progress.world.files.read?
            (Path.ofText "outputs/import.json")
          =
        some (document.render Style.document)
        ∧ CarriesEntry document "A" "# A" "en-US" true)
      ∧ ((Run.generate headingServer headingRun).outcome {} "").progress.world.files.read?
          (Path.ofText "validation-errors.csv")
        =
      none := by
  have hfinds := finds_headingRun
  obtain ⟨review, hassessed, hsuccess, hfindings⟩ := exists_assessed_headingRun
  have hpasses : headingRun.Passes {} "# A" := fun _ => ⟨review, hassessed, hsuccess⟩
  have hpaths : (headingRun.findingsPath {}).place ≠ (headingRun.importPath {}).place := by
    decide
  have hwrites := stop_headingRun
  have hall (settings : Settings) (hsettled : settled headingServer {} headingRun.overrides = .ok settings) :
      (headingRun.findingsPath settings).place ≠ (headingRun.importPath settings).place := by
    obtain rfl := hfinds.settings_eq hsettled
    exact hpaths
  have heffect := (generate_effect headingServer headingRun {} "" hwrites hall).2 {} hfinds.settled
  have hzero := heffect.exitCode_eq_zero_iff.mpr ⟨_, _, hfinds, hpasses⟩
  refine ⟨hzero, ?_, ?_⟩
  . obtain ⟨url, markdown, document, hfinds', hread, hcarries⟩ := heffect.written hzero
    obtain ⟨-, -, rfl⟩ := hfinds.unique hfinds'
    have htitle : title "# A" defaultTitle = "A" := by decide
    rw [htitle] at hcarries
    exact ⟨document, hread, hcarries⟩
  . by_contra hchanged
    obtain ⟨-, -, -, url, markdown, review', hfinds', hassessed', hsome, -⟩ :=
      heffect.others (Path.ofText "validation-errors.csv") hpaths hchanged
    obtain ⟨-, -, rfl⟩ := hfinds.unique hfinds'
    obtain rfl := Except.ok.inj (hassessed.symm.trans hassessed')
    exact hsome hfindings

end MarkdownIntake.Command
