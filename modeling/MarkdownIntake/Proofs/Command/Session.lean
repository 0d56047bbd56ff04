import MarkdownIntake.Proofs.Command.Frame
import MarkdownIntake.Proofs.Storage.Environment

/-!
This module contains sessions: command lines one after another, each in the world that those before it
have left. What is once in the environment stays there.
-/

namespace MarkdownIntake.Command

open MarkdownIntake.Storage

structure Step where
  words : List String
  input : String := ""
  replies : Nat → Web.Reply
  program : Import.Program := {}
  /-- The environment of a new process; without one the process of the step before goes on. -/
  environment? : Option Environment := none

namespace Step

def found (world : World) (step : Step) : World :=
  { world with environment := step.environment?.getD world.environment }

def outcome (folder : Settings.Folder) (format : Settings.Format) (world : World) (step : Step) :
    Outcome :=
  run { folder, format, replies := step.replies, program := step.program } (step.found world)
    step.words step.input

def worldAfter (folder : Settings.Folder) (format : Settings.Format) (world : World) (steps : List Step) :
    World :=
  steps.foldl (fun world step => (step.outcome folder format world).progress.world) world

end Step

theorem Import.extends_loaded (options : Import) (world : World) :
    world.environment.Extends (options.loaded world).environment := by
  unfold loaded
  split
  . exact Environment.Extends.refl _
  . exact Environment.extends_load _ _

theorem extends_run (outside : Outside) (world : World) (words : List String) (input : String) :
    world.environment.Extends (run outside world words input).progress.world.environment := by
  unfold run
  split
  . rw [outcome_progress]
    have hkeeps : Keeps World.environment (do Run.complain usage; throw .misuse : Run Unit) :=
      (Run.keeps_complain _).bind fun _ => Keeps.throw _
    rw [hkeeps]
    exact Environment.Extends.refl _
  . next command _ =>
    rw [outcome_progress]
    by_cases h : ∃ options, command = .importFile options
    . obtain ⟨options, rfl⟩ := h
      rw [Invocation.run, Run.world_importFile]
      exact options.extends_loaded world
    . rw [not_exists] at h
      rw [Invocation.keeps_environment outside h]
      exact Environment.Extends.refl _

theorem Step.extends_worldAfter (folder : Settings.Folder) (format : Settings.Format) (world : World)
    {steps : List Step} (h : ∀ step ∈ steps, step.environment? = none) :
    world.environment.Extends (worldAfter folder format world steps).environment := by
  induction steps generalizing world with
  | nil => exact Environment.Extends.refl _
  | cons step rest ih =>
    obtain ⟨hstep, hrest⟩ := List.forall_mem_cons.mp h
    have hfirst : world.environment.Extends (step.outcome folder format world).progress.world.environment := by
      have hrun := extends_run { folder, format, replies := step.replies, program := step.program }
        world step.words step.input
      rw [outcome, found, hstep]
      exact hrun
    exact hfirst.trans (ih _ hrest)

end MarkdownIntake.Command
