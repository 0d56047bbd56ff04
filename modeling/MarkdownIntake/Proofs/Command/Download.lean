import MarkdownIntake.Proofs.Command.Run
import MarkdownIntake.Proofs.Web.Download

/-!
This module contains which failures of a download a run reports, and which of them break it off.
-/

namespace MarkdownIntake.Command

open MarkdownIntake.Console MarkdownIntake.Web

variable {outside : Outside} {url : String} {settings : Settings}

namespace Run

theorem run_download_of_isReported {error : DownloadError} (quiet verbose : Bool) (start : Progress)
    (h : (Web.download outside.replies url settings.timeout).2 = .error error)
    (hreported : error.IsReported) :
    ∃ later, (ExceptT.run (download outside url settings quiet verbose)).run start
        = (.error (.exit 1), later)
      ∧ later.err = start.err ++ errorNotice error.message error.detail? := by
  unfold download
  generalize Web.download outside.replies url settings.timeout = exchange at h ⊢
  obtain ⟨requests, result⟩ := exchange
  subst h
  cases quiet <;> cases verbose
  all_goals
    cases error with
    | timedOut url seconds => exact ⟨_, rfl, rfl⟩
    | broken reason => exact ⟨_, rfl, rfl⟩
    | refused status reason => exact ⟨_, rfl, rfl⟩
    | badAddress error => cases hreported
    | unreadable code => cases hreported

end Run

end MarkdownIntake.Command
