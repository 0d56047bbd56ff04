import MarkdownIntake.Command.Session

/-!
This module contains how runs end. What a run has printed so far decides nothing, so a run is described
by what it stands on: the world, the lines that are not read yet, and the calls that were made.
-/

namespace MarkdownIntake.Command

open MarkdownIntake.Storage

structure Standing where
  world : World
  input : List String := []
  calls : List Import.Call := []

def Progress.standing (progress : Progress) : Standing :=
  { world := progress.world, input := progress.input, calls := progress.calls }

def Standing.withFiles (start : Standing) (files : Files) : Standing :=
  { start with world := { start.world with files } }

def Standing.withInput (start : Standing) (input : List String) : Standing :=
  { start with input }

/-- A run from here ends with this result there, whatever it has printed before. -/
def Ends {α : Type} (part : Run α) (start : Standing) (result : Except Stop α) (final : Standing) :
    Prop :=
  ∀ progress : Progress, progress.standing = start →
    ∃ later : Progress, (ExceptT.run part).run progress = (result, later) ∧ later.standing = final

theorem Run.run_bind {α β : Type} (part : Run α) (next : α → Run β) (progress : Progress) :
    (ExceptT.run (part >>= next)).run progress
      =
    match (ExceptT.run part).run progress with
      | (.ok a, later) => (ExceptT.run (next a)).run later
      | (.error stop, later) => (.error stop, later) := by
  unfold ExceptT.run StateT.run
  simp only [bind, ExceptT.bind, ExceptT.mk, StateT.bind]
  cases part progress with
  | mk result later => cases result <;> rfl

namespace Ends

variable {α β : Type} {part : Run α} {next : α → Run β} {start middle final : Standing}

protected theorem pure (a : α) (start : Standing) : Ends (pure a) start (.ok a) start :=
  fun progress h => ⟨progress, rfl, h⟩

protected theorem throw (stop : Stop) (start : Standing) :
    Ends (throw stop : Run α) start (.error stop) start :=
  fun progress h => ⟨progress, rfl, h⟩

protected theorem bind {a : α} {result : Except Stop β} (h : Ends part start (.ok a) middle)
    (hnext : Ends (next a) middle result final) : Ends (part >>= next) start result final := by
  intro progress hstart
  obtain ⟨between, hpart, hmiddle⟩ := h progress hstart
  obtain ⟨later, hrun, hfinal⟩ := hnext between hmiddle
  exact ⟨later, by rw [Run.run_bind, hpart, ← hrun], hfinal⟩

theorem stopped {stop : Stop} (h : Ends part start (.error stop) final) :
    Ends (part >>= next) start (.error stop) final := by
  intro progress hstart
  obtain ⟨later, hpart, hfinal⟩ := h progress hstart
  exact ⟨later, by rw [Run.run_bind, hpart], hfinal⟩

theorem optional {done : Prop} [Decidable done] {part : Run Unit} {next : Unit → Run β}
    {result : Except Stop β} (h : ¬ done → Ends part start (.ok ()) start)
    (hnext : Ends (next ()) start result final) :
    Ends (if done then next () else part >>= fun r => next r) start result final := by
  split
  . exact hnext
  . next hdone => exact (h hdone).bind hnext

end Ends

/-! ### Single steps -/

namespace Run

variable {α ε : Type} (start : Standing)

theorem ends_modify {change : Progress → Progress}
    (h : ∀ progress, (change progress).standing = progress.standing) :
    Ends (modify change) start (.ok ()) start :=
  fun progress hstart => ⟨change progress, rfl, (h progress).trans hstart⟩

theorem ends_say (text : String) : Ends (say text) start (.ok ()) start :=
  ends_modify start fun _ => rfl

theorem ends_complain (text : String) : Ends (complain text) start (.ok ()) start :=
  ends_modify start fun _ => rfl

theorem ends_fail (message : String) (hint : Option String) :
    Ends (fail message hint : Run α) start (.error (.exit 1)) start :=
  (ends_complain start _).bind (Ends.throw _ start)

theorem ends_abort : Ends (abort : Run α) start (.error (.exit 1)) start :=
  (ends_complain start _).bind (Ends.throw _ start)

theorem ends_orCrash_ok (toCrash : ε → Crash) {result : Except ε α} {a : α} (h : result = .ok a) :
    Ends (orCrash toCrash result) start (.ok a) start := by
  subst h
  exact Ends.pure a start

theorem ends_orCrash_error (toCrash : ε → Crash) {result : Except ε α} {error : ε}
    (h : result = .error error) :
    Ends (orCrash toCrash result) start (.error (.crash (toCrash error))) start := by
  subst h
  exact Ends.throw _ start

theorem ends_files : Ends files start (.ok start.world.files) start := by
  intro progress h
  exact ⟨progress, by rw [← h]; rfl, h⟩

theorem ends_environment : Ends environment start (.ok start.world.environment) start := by
  intro progress h
  exact ⟨progress, by rw [← h]; rfl, h⟩

theorem ends_setFiles (files : Files) : Ends (setFiles files) start (.ok ()) (start.withFiles files) := by
  intro progress h
  exact ⟨_, rfl, by rw [← h]; rfl⟩

theorem ends_logAll (verbose : Bool) (level : Level) (texts : List String) :
    Ends (logAll verbose level texts) start (.ok ()) start := by
  unfold logAll
  split
  . exact ends_modify start fun _ => rfl
  . exact Ends.pure () start

theorem ends_log (verbose : Bool) (level : Level) (text : String) :
    Ends (log verbose level text) start (.ok ()) start :=
  ends_logAll start verbose level [text]

theorem ends_applyOutput (settings : Settings) (verbose : Bool) :
    Ends (applyOutput settings verbose) start (.ok (verbose || settings.output.verbose)) start := by
  refine (ends_modify start fun _ => ?_).bind (Ends.pure _ start)
  rfl

theorem ends_readLine_nil (h : start.input = []) : Ends readLine start (.ok none) start := by
  rintro ⟨world, input, _, _, _, _, _, _⟩ rfl
  cases h
  exact ⟨_, rfl, rfl⟩

theorem ends_readLine_cons {line : String} {rest : List String} (h : start.input = line :: rest) :
    Ends readLine start (.ok (some line)) (start.withInput rest) := by
  rintro ⟨world, input, _, _, _, _, _, _⟩ rfl
  cases h
  exact ⟨_, rfl, rfl⟩

theorem ends_ask_nil (question : String) (h : start.input = []) :
    Ends (ask question) start (.error (.exit 1)) start :=
  (ends_say start _).bind ((ends_readLine_nil start h).bind (ends_abort start))

theorem ends_ask_cons (question : String) {line : String} {rest : List String}
    (h : start.input = line :: rest) :
    Ends (ask question) start (.ok line) (start.withInput rest) :=
  (ends_say start _).bind ((ends_readLine_cons start h).bind ((ends_say _ _).bind (Ends.pure line _)))

end Run

/-! ### Outcomes -/

def stopOf : Except Stop Unit → Option Stop
  | .ok () => none
  | .error stop => some stop

theorem outcome_of_ends {part : Run Unit} {world : World} {input : String}
    {result : Except Stop Unit} {final : Standing}
    (h : Ends part { world, input := typedLines input } result final) :
    (part.outcome world input).stop? = stopOf result
      ∧ (part.outcome world input).progress.standing = final := by
  obtain ⟨later, hrun, hfinal⟩ := h { world, input := typedLines input } rfl
  unfold Run.outcome
  rw [hrun]
  cases result with
  | ok => exact ⟨rfl, hfinal⟩
  | error => exact ⟨rfl, hfinal⟩

end MarkdownIntake.Command
