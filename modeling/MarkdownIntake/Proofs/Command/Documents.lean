import MarkdownIntake.Proofs.Command.Run
import MarkdownIntake.Proofs.Review.Level
import MarkdownIntake.Proofs.Settings.Override
import MarkdownIntake.Proofs.Storage.Files

/-!
This module contains what becomes of the steps that work with a document: each of them gives a result or
stops the run, and only the export of findings changes a file.
-/

namespace MarkdownIntake.Command

open MarkdownIntake.Document MarkdownIntake.Review MarkdownIntake.Storage

def settled (outside : Outside) (world : World) (overrides : Settings.Overrides) :
    Except Stop Settings :=
  match Settings.load outside.format outside.folder world.files with
  | .error error => .error (.crash (.notLoaded error))
  | .ok stored => (stored.effective world.environment overrides).mapError fun _ => .exit 1

theorem exists_settled {outside : Outside} {world : World} {stored : Settings}
    {overrides : Settings.Overrides}
    (hload : Settings.load outside.format outside.folder world.files = .ok stored)
    (h : overrides.KnowsFormat) :
    ∃ settings, settled outside world overrides = .ok settings
      ∧ stored.effective world.environment overrides = .ok settings := by
  obtain ⟨settings, heffective⟩ := Settings.exists_effective stored world.environment h
  refine ⟨settings, ?_, heffective⟩
  rw [settled, hload]
  dsimp only
  rw [heffective]
  rfl

def fetched (outside : Outside) (url : String) (settings : Settings) : Except Stop String :=
  (Web.download outside.replies url settings.timeout).2.mapError fun
    | .badAddress error => .crash (.badAddress error)
    | .unreadable code => .crash (.unreadable code)
    | _ => .exit 1

def assessed (markdown : String) (settings : Settings) : Except ReviewError Assessment :=
  review markdown (title markdown defaultTitle) settings.limits (.ok (Markdown.readDocument markdown))

theorem exists_report_of_assessed {markdown : String} {settings : Settings} {review : Assessment}
    (h : assessed markdown settings = .ok review) (format : ReportFormat) (verbose : Bool) :
    ∃ text, report review format verbose = .ok text :=
  have ⟨_, hforest⟩ := exists_assemble_eq_readDocument markdown
  exists_report_of_assemble hforest h format verbose

def exported (review : Assessment) (path : Path) (files : Files) : Except Files.WriteError Files :=
  (exportFindings review.findings path files).map (·.getD files)

theorem eq_of_exported {review : Assessment} {path : Path} {files final : Files}
    (h : exported review path files = .ok final) :
    final
      =
    if review.findings.isEmpty then files else files.write path (findingsText review.findings) := by
  unfold exported exportFindings at h
  split at h
  . next hfindings =>
    rw [if_pos hfindings]
    exact (Except.ok.inj h).symm
  . next hfindings =>
    rw [if_neg hfindings]
    cases hwrite : files.write? path (findingsText review.findings) with
    | error error => simp [hwrite, Except.map] at h
    | ok written =>
      simp only [hwrite, Except.map, Option.getD_some, Except.ok.injEq] at h
      exact h ▸ Files.eq_write_of_write? hwrite

theorem exported_files {review : Assessment} {path : Path} {files final : Files}
    (h : exported review path files = .ok final) :
    final = files
      ∨ review.findings ≠ [] ∧ final = files.write path (findingsText review.findings) := by
  rw [eq_of_exported h]
  split
  . exact .inl rfl
  . next hfindings => exact .inr ⟨by simpa using hfindings, rfl⟩

def judged (exports : Bool) (path : Path) (settings : Settings) (markdown : String) (files : Files) :
    Except Stop Unit × Files :=
  match assessed markdown settings with
  | .error error => (.error (.crash (.notReviewed error)), files)
  | .ok review =>
    match if exports then exported review path files else .ok files with
    | .error error => (.error (.crash (.notWritten error)), files)
    | .ok files => (if review.success then .ok () else .error (.exit 1), files)

section

variable {exports : Bool} {path : Path} {settings : Settings} {markdown : String} {files final : Files}

theorem success_of_judged (h : judged exports path settings markdown files = (.ok (), final)) :
    ∃ review, assessed markdown settings = .ok review ∧ review.success := by
  unfold judged at h
  cases hassessed : assessed markdown settings with
  | error error => simp [hassessed] at h
  | ok review =>
    simp only [hassessed] at h
    split at h
    . simp at h
    . refine ⟨review, rfl, ?_⟩
      by_contra hsuccess
      simp [hsuccess] at h

theorem files_of_judged (exports : Bool) (path : Path) (settings : Settings) (markdown : String)
    (files : Files) :
    (judged exports path settings markdown files).2 = files
      ∨ exports ∧ ∃ review, assessed markdown settings = .ok review ∧ review.findings ≠ []
          ∧ (judged exports path settings markdown files).2
              =
            files.write path (findingsText review.findings) := by
  unfold judged
  cases assessed markdown settings with
  | error error => exact .inl rfl
  | ok review =>
    dsimp only
    split
    . exact .inl rfl
    . next final hfinal =>
      split at hfinal
      . next hexports =>
        rcases exported_files hfinal with rfl | ⟨hfindings, rfl⟩
        . exact .inl rfl
        . exact .inr ⟨hexports, review, rfl, hfindings, rfl⟩
      . exact .inl (Except.ok.inj hfinal).symm

end

theorem obstacle_of_exported {review : Assessment} {path : Path} {files : Files}
    {error : Files.WriteError} (h : exported review path files = .error error) :
    review.findings ≠ [] ∧ files.obstacle? path = some error := by
  unfold exported exportFindings at h
  split at h
  . cases h
  . next hfindings =>
    cases hwrite : files.write? path (findingsText review.findings) with
    | error other =>
      simp only [hwrite, Except.map, Except.error.injEq] at h
      subst h
      exact ⟨by simpa using hfindings, Files.write?_eq_error_iff.mp hwrite⟩
    | ok written => simp [hwrite, Except.map] at h

theorem stop_of_judged {exports : Bool} {path : Path} {settings : Settings} {markdown : String}
    {files final : Files} {stop : Stop}
    (h : judged exports path settings markdown files = (.error stop, final)) :
    (∃ error, assessed markdown settings = .error error ∧ stop = .crash (.notReviewed error))
      ∨ ∃ review, assessed markdown settings = .ok review
        ∧ (review.success = false ∧ stop = .exit 1
          ∨ ∃ error, review.findings ≠ [] ∧ files.obstacle? path = some error
            ∧ stop = .crash (.notWritten error)) := by
  unfold judged at h
  split at h
  . next error hassessed =>
    cases h
    exact .inl ⟨error, hassessed, rfl⟩
  . next review hassessed =>
    refine .inr ⟨review, hassessed, ?_⟩
    split at h
    . next error hexported =>
      cases h
      split at hexported
      . obtain ⟨hfindings, hobstacle⟩ := obstacle_of_exported hexported
        exact .inr ⟨error, hfindings, hobstacle, rfl⟩
      . cases hexported
    . simp only [Prod.mk.injEq] at h
      obtain ⟨hstop, -⟩ := h
      split at hstop
      . cases hstop
      . next hsuccess =>
        cases hstop
        exact .inl ⟨by simpa using hsuccess, rfl⟩

def Stop.Fails (stop : Stop) : Prop :=
  stop = .exit 1 ∨ ∃ error, stop = .crash error

theorem stop_of_settled {outside : Outside} {world : World} {overrides : Settings.Overrides}
    {stop : Stop} (h : settled outside world overrides = .error stop) :
    stop = .exit 1 ∨ ∃ error, stop = .crash (.notLoaded error) := by
  unfold settled at h
  split at h
  . cases h
    exact .inr ⟨_, rfl⟩
  . next stored _ =>
    cases heffective : stored.effective world.environment overrides with
    | error error =>
      rw [heffective] at h
      cases h
      exact .inl rfl
    | ok settings =>
      rw [heffective] at h
      cases h

theorem stop_of_fetched {outside : Outside} {url : String} {settings : Settings} {stop : Stop}
    (h : fetched outside url settings = .error stop) :
    stop = .exit 1 ∨ (∃ error, stop = .crash (.badAddress error))
      ∨ ∃ code, stop = .crash (.unreadable code) := by
  unfold fetched at h
  cases hdownload : (Web.download outside.replies url settings.timeout).2 with
  | ok markdown =>
    rw [hdownload] at h
    cases h
  | error error =>
    rw [hdownload] at h
    cases error with
    | badAddress error =>
      cases h
      exact .inr (.inl ⟨error, rfl⟩)
    | unreadable code =>
      cases h
      exact .inr (.inr ⟨code, rfl⟩)
    | _ =>
      cases h
      exact .inl rfl

theorem Stop.fails_of_fetched {outside : Outside} {url : String} {settings : Settings} {stop : Stop}
    (h : fetched outside url settings = .error stop) : stop.Fails := by
  rcases stop_of_fetched h with h | ⟨_, h⟩ | ⟨_, h⟩
  . exact .inl h
  . exact .inr ⟨_, h⟩
  . exact .inr ⟨_, h⟩

theorem Outcome.exitCode_of_fails {outcome : Outcome} {stop : Stop} (hstop : outcome.stop? = some stop)
    (h : stop.Fails) : outcome.exitCode = 1 := by
  rcases h with rfl | ⟨error, rfl⟩
  . rw [exitCode, hstop]
  . rw [exitCode, hstop]

namespace Run

variable (outside : Outside) (start : Standing)

theorem ends_settings (overrides : Settings.Overrides) :
    Ends (settings outside overrides) start (settled outside start.world overrides) start := by
  unfold settled
  apply (ends_files start).bind
  cases hload : Settings.load outside.format outside.folder start.world.files with
  | error error => exact (ends_orCrash_error start .notLoaded rfl).stopped
  | ok stored =>
    apply (ends_orCrash_ok start .notLoaded rfl).bind
    apply (ends_environment start).bind
    dsimp only
    cases stored.effective start.world.environment overrides with
    | error error => exact ends_fail start _ _
    | ok settings => exact Ends.pure settings start

theorem ends_download (url : String) (settings : Settings) (quiet verbose : Bool) :
    Ends (download outside url settings quiet verbose) start (fetched outside url settings) start := by
  unfold fetched download
  obtain ⟨requests, result⟩ := Web.download outside.replies url settings.timeout
  apply Ends.optional fun _ => ends_say start _
  refine (ends_modify start fun _ => ?_).bind ?_
  . rfl
  . cases result with
    | ok markdown =>
      dsimp only
      apply (ends_log start verbose .debug _).bind
      apply Ends.optional fun _ => ends_say start _
      exact Ends.pure markdown start
    | error error =>
      cases error with
      | badAddress error => exact Ends.throw _ start
      | unreadable code => exact Ends.throw _ start
      | _ => exact (ends_logAll start verbose .warning _).bind (ends_fail start _ _)

theorem ends_reviewed (markdown : String) (settings : Settings) (verbose : Bool) :
    Ends (reviewed markdown (title markdown defaultTitle) settings verbose) start
      ((assessed markdown settings).mapError fun error => .crash (.notReviewed error)) start := by
  apply (ends_logAll start verbose .debug _).bind
  cases hassessed : assessed markdown settings with
  | error error => exact ends_orCrash_error start .notReviewed hassessed
  | ok review => exact ends_orCrash_ok start .notReviewed hassessed

theorem ends_exportReview {review : Assessment} {path : Path} {files : Files}
    (h : exported review path start.world.files = .ok files) (quiet verbose : Bool) :
    Ends (exportReview review path quiet verbose) start (.ok ()) (start.withFiles files) := by
  unfold exported at h
  unfold exportReview
  apply (ends_files start).bind
  cases hexport : exportFindings review.findings path start.world.files with
  | error error => simp [hexport, Except.map] at h
  | ok files? =>
    apply (ends_orCrash_ok start .notWritten rfl).bind
    simp only [hexport, Except.map, Except.ok.injEq] at h
    subst h
    cases files? with
    | none =>
      apply (ends_log start verbose .info _).bind
      exact Ends.optional (fun _ => ends_say start _) (Ends.pure () start)
    | some files =>
      apply (ends_setFiles start files).bind
      apply (ends_log _ verbose .info _).bind
      exact Ends.optional (fun _ => ends_say _ _) (Ends.pure () _)

theorem ends_exportReview_error {review : Assessment} {path : Path} {error : Files.WriteError}
    (h : exported review path start.world.files = .error error) (quiet verbose : Bool) :
    Ends (exportReview review path quiet verbose) start (.error (.crash (.notWritten error))) start := by
  unfold exported at h
  apply (ends_files start).bind
  cases hexport : exportFindings review.findings path start.world.files with
  | error other =>
    simp only [hexport, Except.map, Except.error.injEq] at h
    exact h ▸ (ends_orCrash_error start .notWritten rfl).stopped
  | ok files? => simp [hexport, Except.map] at h

theorem ends_judged (exports quiet verbose : Bool) (path : Path) (settings : Settings)
    (markdown : String) (format : ReportFormat) {refuse : Run Unit}
    (hrefuse : ∀ after, Ends refuse after (.error (.exit 1)) after) :
    Ends
      (do
        let review ← reviewed markdown (title markdown defaultTitle) settings verbose
        say (← orCrash .notReported (report review format verbose))
        if exports then
          exportReview review path quiet verbose
        unless review.success do refuse)
      start (judged exports path settings markdown start.world.files).1
      (start.withFiles (judged exports path settings markdown start.world.files).2) := by
  have hverdict (review : Assessment) (after : Standing) :
      Ends (unless review.success do refuse) after
        (if review.success then .ok () else .error (.exit 1)) after := by
    split
    . exact Ends.pure () after
    . exact hrefuse after
  have hreviewed := ends_reviewed start markdown settings verbose
  unfold judged
  cases hassessed : assessed markdown settings with
  | error error =>
    rw [hassessed] at hreviewed
    exact hreviewed.stopped
  | ok review =>
    rw [hassessed] at hreviewed
    apply hreviewed.bind
    obtain ⟨text, htext⟩ := exists_report_of_assessed hassessed format verbose
    apply (ends_orCrash_ok start .notReported htext).bind
    apply (ends_say start text).bind
    dsimp only
    split
    . next hexports =>
      cases hexported : exported review path start.world.files with
      | error error => exact (ends_exportReview_error start hexported quiet verbose).stopped
      | ok files =>
        apply (ends_exportReview start hexported quiet verbose).bind
        exact hverdict review _
    . exact hverdict review start

end Run

end MarkdownIntake.Command
