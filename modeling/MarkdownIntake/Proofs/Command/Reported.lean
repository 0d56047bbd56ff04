import MarkdownIntake.Proofs.Command.Import

/-!
This module contains how an import tells of its failures. It says what is wrong and exits, unless a
variable of its file is not taken, or nothing is missing but the place in the space, or the program
cannot be given a word: then it breaks off without one.
-/

namespace MarkdownIntake.Command

open MarkdownIntake.Console MarkdownIntake.Import MarkdownIntake.Storage MarkdownIntake.Text

def Tells (text : String) (stop? : Option Stop) : Prop :=
  stop? = none ∨ ∃ message hint, stop? = some (.exit 1) ∧ text = errorNotice message hint

def BreaksOff (error : Crash) (text : String) (stop? : Option Stop) : Prop :=
  stop? = some (.crash error) ∧ text = ""

theorem BreaksOff.not_tells {error : Crash} {text : String} {stop? : Option Stop}
    (h : BreaksOff error text stop?) : ¬ Tells text stop? := by
  obtain ⟨rfl, -⟩ := h
  simp [Tells]

theorem tells_errorNotice (message : String) (hint : Option String) :
    Tells (errorNotice message hint) (some (.exit 1)) :=
  .inr ⟨message, hint, rfl, rfl⟩

namespace Import

variable {outside : Outside} {options : Import} {start final : Standing} {stored : Settings}
variable {storedToken? : Option String} {text : String} {result : Except Stop Unit}

theorem not_lacksPlace_of_call {world : World} {call : Call}
    (h : options.call? outside world stored storedToken? = some call) :
    ¬ options.LacksPlace outside world stored := by
  intro hlacks
  rw [hlacks.call?_eq_none] at h
  cases h

theorem not_hasZero_of_call {world : World} {call : Call}
    (h : options.call? outside world stored storedToken? = some call) :
    ¬ options.HasZero outside world stored storedToken? := by
  intro hzero
  rw [hzero.call?_eq_none] at h
  cases h

/-- Of the three ways to break off, a run takes the one that holds, and if none does, it tells. -/
theorem Closing.tells_or_breaksOff
    (h : options.Closing outside start stored storedToken? text result final) :
    (options.fault? start.world = none
        ∧ ¬ options.LacksPlace outside (options.loaded start.world) stored
        ∧ ¬ options.HasZero outside (options.loaded start.world) stored storedToken?
        ∧ Tells text (stopOf result))
      ∨ (∃ error, options.fault? start.world = some error
        ∧ BreaksOff (.notDefined error) text (stopOf result))
      ∨ (options.LacksPlace outside (options.loaded start.world) stored
        ∧ options.fault? start.world = none
        ∧ BreaksOff (.notPushed .noEnvironment) text (stopOf result))
      ∨ options.HasZero outside (options.loaded start.world) stored storedToken?
        ∧ options.fault? start.world = none
        ∧ BreaksOff (.notPushed .zeroInWord) text (stopOf result) := by
  cases h with
  | notTaken hfault => exact .inr (.inl ⟨_, hfault, rfl, rfl⟩)
  | incomplete hfault h message hint =>
    rw [← options.files_loaded] at h
    exact .inl ⟨hfault, fun hlacks => h ⟨hlacks.1, hlacks.2.1, hlacks.2.2.1⟩,
      fun hzero => h ⟨hzero.1, hzero.2.1, hzero.2.2.1⟩, tells_errorNotice message hint⟩
  | noPlace hfault h => exact .inr (.inr (.inl ⟨h, hfault, rfl, rfl⟩))
  | zeroInWord hfault h => exact .inr (.inr (.inr ⟨h, hfault, rfl, rfl⟩))
  | failed hfault hcall hending message hint =>
    exact .inl ⟨hfault, not_lacksPlace_of_call hcall, not_hasZero_of_call hcall,
      tells_errorNotice message hint⟩
  | through hfault hcall =>
    exact .inl ⟨hfault, not_lacksPlace_of_call hcall, not_hasZero_of_call hcall, .inl rfl⟩

theorem Closing.breaksOff_of_lacksPlace
    (h : options.Closing outside start stored storedToken? text result final)
    (hfault : options.fault? start.world = none)
    (hlacks : options.LacksPlace outside (options.loaded start.world) stored) :
    BreaksOff (.notPushed .noEnvironment) text (stopOf result) := by
  obtain ⟨-, hnot, -⟩ | ⟨error, hother, -⟩ | ⟨-, -, hbreaks⟩ | ⟨hzero, -⟩ := h.tells_or_breaksOff
  . exact absurd hlacks hnot
  . rw [hfault] at hother
    cases hother
  . exact hbreaks
  . exact absurd hzero hlacks.not_hasZero

end Import

section

variable {outside : Outside} {options : Import} {world : World} {words : List String}
variable {stored : Settings} {storedToken? : Option String}

end

def slowServer : Outside :=
  { silentServer with program.ending := .timedOut }

def emptyPlaceWorld : World where
  files :=
    (({} : Files).write (Path.ofText "outputs/import.json") "{}").write
      (Settings.Folder.settingsFile ⟨{}⟩) "contentful:\n  space_id: abc\n  environment_id: ''\n"

end MarkdownIntake.Command
