import MarkdownIntake.Proofs.Command.Lookalike
import MarkdownIntake.Proofs.Command.Pairing

/-!
This module contains what it means that two runs show the same: the relation between runs on files that
differ at most in the token, and the steps that keep it although other relations would not let them.
-/

namespace MarkdownIntake.Command

open MarkdownIntake.Storage

/-! ### Runs that show the same -/

section

variable {first second : Progress} (h : first.open = second.open)
include h

theorem Progress.input_of_open : first.input = second.input := by
  have hinput : first.open.input = second.open.input := by rw [h]
  exact hinput

theorem Progress.environment_of_open : first.world.environment = second.world.environment := by
  have henvironment : first.open.world.environment = second.open.world.environment := by rw [h]
  exact henvironment

theorem Progress.out_of_open : first.out = second.out := by
  have hout : first.open.out = second.open.out := by rw [h]
  exact hout

theorem Progress.err_of_open : first.err = second.err := by
  have herr : first.open.err = second.open.err := by rw [h]
  exact herr

theorem Progress.logged_of_open : first.logged = second.logged := by
  have hlogged : first.open.logged = second.open.logged := by rw [h]
  exact hlogged

theorem Progress.open_withInput (input : List String) :
    ({ first with input } : Progress).open = ({ second with input } : Progress).open :=
  congrArg (fun progress : Progress => { progress with input }) h

end

/-- The files differ at most in the token, and nothing of what the runs do tells them apart. -/
def unseen (format : Settings.Format) (folder : Settings.Folder) : Pairing format folder where
  ofFiles := SameButToken format folder
  ofProgress first second :=
    first.open = second.open ∧ SameButToken format folder first.world.files second.world.files
  ofStops := Eq
  stop_self _ := rfl
  places h := h.places
  load h := h.load
  write h := h.write
  remove h := h.remove
  input_eq h := Progress.input_of_open h.1
  files_of h := h.2
  aside := by
    rintro first second change haside ⟨hopen, hfiles⟩
    rw [haside.files, haside.files, haside.open_eq, haside.open_eq second, hopen]
    exact ⟨rfl, hfiles⟩
  withInput h input := ⟨Progress.open_withInput h.1 input, h.2⟩
  withFiles h hfiles := ⟨h.1, hfiles⟩

/--
Two runs show the same: started alike and with files that differ at most in the token, they come to
related results, or stop in the same way, and whoever sees what they show cannot tell them apart.
-/
abbrev ShowSame {α : Type} (format : Settings.Format) (folder : Settings.Folder) (part other : Run α)
    (related : α → α → Prop) : Prop :=
  Paired (unseen format folder) part other related

theorem SameEnd.eq {α : Type} {result other : Except Stop α} (h : SameEnd Eq Eq result other) :
    result = other := by
  cases h with
  | ok h | error h => rw [h]

namespace Run

variable {format : Settings.Format} {folder : Settings.Folder}

theorem showSame_environment : ShowSame format folder environment environment Eq :=
  fun _ _ hpair => ⟨.ok (Progress.environment_of_open hpair.1), hpair⟩

theorem showSame_setEnvironment (environment : Environment) :
    ShowSame format folder (setEnvironment environment) (setEnvironment environment) Eq :=
  Paired.aside ⟨fun _ => rfl, fun _ => rfl, fun _ => rfl⟩

theorem showSame_addCall (call other : Import.Call) :
    ShowSame format folder (modify fun progress => { progress with calls := progress.calls ++ [call] })
      (modify fun progress => { progress with calls := progress.calls ++ [other] }) Eq :=
  fun _ _ hpair => ⟨.ok rfl, hpair⟩

end Run

end MarkdownIntake.Command
