import MarkdownIntake.Proofs.Command.Discretion
import MarkdownIntake.Proofs.Command.Session

/-!
This module contains pairs of sessions that differ in the management tokens that they are given. All that
is printed, and the way in which every command ends, tells of two long tokens no more than the ends of
them, unless an import logs a command in which the token is not hidden.
-/

namespace MarkdownIntake.Command

open MarkdownIntake.Import MarkdownIntake.Storage

/-! ### Commands -/

namespace Invocation

/--
A command keeps quiet about the token: it neither shows it nor reads variables from its file, and if it
stores one, that can be read again.
-/
def Discreet (outside : Outside) : Invocation → Prop
  | .showSettings showsToken => showsToken = false
  | .importFile options => options.environmentFile.place ≠ outside.folder.credentialsFile.place
  | .storeToken (some token) _ => outside.format.KeepsToken (some token)
  | _ => True

inductive SameButTokens : Invocation → Invocation → Prop where
  | same (command : Invocation) : SameButTokens command command
  | importFile (options : Import) {token other : String} (h : SameEnds token other) :
    SameButTokens (.importFile { options with managementToken := some token })
      (.importFile { options with managementToken := some other })
  | storeToken (hasSurplus : Bool) {token other : String} (h : SameEnds token other) :
    SameButTokens (.storeToken (some token) hasSurplus) (.storeToken (some other) hasSurplus)

def revealed? (outside : Outside) (start : Progress) : Invocation → Option String
  | .importFile options => options.revealed? outside start
  | _ => none

variable (outside : Outside) {first second : Progress}

theorem run_self_alike {command : Invocation} (h : command.Discreet outside)
    (hopen : first.open = second.open)
    (hfiles : SameButToken outside.format outside.folder first.world.files second.world.files) :
    SameUnlessRevealed outside.format outside.folder ((ExceptT.run (command.run outside)).run first)
      ((ExceptT.run (command.run outside)).run second) (command.revealed? outside first)
      (command.revealed? outside second) := by
  cases command with
  | help | version | showPaths => exact ShowSame.sameUnlessRevealed (Run.paired_say _) hopen hfiles none
  | validate options =>
    exact ShowSame.sameUnlessRevealed
      (Run.paired_validate outside options (Run.showSame_settings_target outside)) hopen hfiles none
  | generate options =>
    exact ShowSame.sameUnlessRevealed
      (Run.paired_generate outside options (Run.showSame_settings_target outside)) hopen hfiles none
  | importFile options =>
    refine Run.importFile_alike outside options ?_ h hopen hfiles
    cases options.managementToken with
    | none => exact .none
    | some token => exact .some (.inl rfl)
  | showSettings showsToken =>
    obtain rfl : showsToken = false := h
    exact (Run.showSame_showSettings outside).sameUnlessRevealed hopen hfiles none
  | changeSetting key value =>
    exact ShowSame.sameUnlessRevealed (Run.paired_changeSetting outside key value) hopen hfiles none
  | storeToken token? hasSurplus =>
    exact ShowSame.sameUnlessRevealed
      (Run.paired_storeToken outside (Run.showSame_token? outside) token? hasSurplus) hopen hfiles none
  | clearCredentials force =>
    exact ShowSame.sameUnlessRevealed (Run.paired_clearCredentials outside force) hopen hfiles none

theorem run_alike {command other : Invocation} (h : command.SameButTokens other)
    (hdiscreet : command.Discreet outside) (hotherDiscreet : other.Discreet outside)
    (hopen : first.open = second.open)
    (hfiles : SameButToken outside.format outside.folder first.world.files second.world.files) :
    SameUnlessRevealed outside.format outside.folder ((ExceptT.run (command.run outside)).run first)
      ((ExceptT.run (other.run outside)).run second) (command.revealed? outside first)
      (other.revealed? outside second) := by
  cases h with
  | same => exact run_self_alike outside hdiscreet hopen hfiles
  | importFile options h =>
    exact Run.importFile_alike outside { options with managementToken := some _ } (.some (.inr h))
      hdiscreet hopen hfiles
  | storeToken hasSurplus h =>
    have hstore := Run.showSame_storeToken_of_sameEnds outside h hdiscreet hotherDiscreet hasSurplus
    exact hstore.sameUnlessRevealed hopen hfiles none

end Invocation

/-! ### Sessions -/

/-- What whoever runs a command learns: how it ends, and all that it prints and logs. -/
structure Shown where
  exitCode : Nat
  stop? : Option Stop
  out : String
  err : String
  logged : List Record

def Outcome.shown (outcome : Outcome) : Shown where
  exitCode := outcome.exitCode
  stop? := outcome.stop?
  out := outcome.progress.out
  err := outcome.progress.err
  logged := outcome.progress.logged

structure World.SameButToken (format : Settings.Format) (folder : Settings.Folder) (world other : World) :
    Prop where
  environment : world.environment = other.environment
  files : Command.SameButToken format folder world.files other.files

theorem SameUnlessRevealed.outcome {format : Settings.Format} {folder : Settings.Folder}
    {part other : Run Unit} {world otherWorld : World} {input : String}
    {revealed? otherRevealed? : Option String}
    (h : SameUnlessRevealed format folder
      ((ExceptT.run part).run { world, input := typedLines input })
      ((ExceptT.run other).run { world := otherWorld, input := typedLines input })
      revealed? otherRevealed?) :
    ((part.outcome world input).shown = (other.outcome otherWorld input).shown ↔
        revealed? = otherRevealed?)
      ∧ (part.outcome world input).progress.world.SameButToken format folder
        (other.outcome otherWorld input).progress.world := by
  unfold Run.outcome
  generalize (ExceptT.run part).run _ = ended at h ⊢
  generalize (ExceptT.run other).run _ = otherEnded at h ⊢
  rcases ended with ⟨result, later⟩
  rcases otherEnded with ⟨otherResult, otherLater⟩
  obtain ⟨hshown, hrevealed, henvironment, hfiles⟩ := h
  dsimp only at hshown hrevealed henvironment hfiles
  have hworld : later.world.SameButToken format folder otherLater.world := ⟨henvironment, hfiles⟩
  refine ⟨⟨fun hsame => hrevealed ?_, fun hsame => ?_⟩, ?_⟩
  . have hlogged := congrArg Shown.logged hsame
    cases result <;> cases otherResult <;> exact hlogged
  . obtain ⟨hend, hopen⟩ := hshown hsame
    have hout : later.out = otherLater.out := Progress.out_of_open hopen
    have herr : later.err = otherLater.err := Progress.err_of_open hopen
    have hlogged : later.logged = otherLater.logged := Progress.logged_of_open hopen
    subst hend
    cases result <;> simp [Outcome.shown, Outcome.exitCode, hout, herr, hlogged]
  . cases result <;> cases otherResult <;> exact hworld

namespace Step

variable (folder : Settings.Folder) (format : Settings.Format)

def outside (step : Step) : Outside :=
  { folder, format, replies := step.replies, program := step.program }

def outcomes (world : World) : List Step → List Outcome
  | [] => []
  | step :: rest =>
    step.outcome folder format world
      :: outcomes (step.outcome folder format world).progress.world rest

def revealed? (world : World) (step : Step) : Option String :=
  (Invocation.ofList? step.words).bind <|
    Invocation.revealed? (step.outside folder format)
      { world := step.found world, input := typedLines step.input }

def revealed (world : World) : List Step → List (Option String)
  | [] => []
  | step :: rest =>
    step.revealed? folder format world
      :: revealed (step.outcome folder format world).progress.world rest

def Discreet (step : Step) : Prop :=
  ∀ command, Invocation.ofList? step.words = some command →
    command.Discreet (step.outside folder format)

structure SameButTokens (step other : Step) : Prop where
  command : Option.Rel Invocation.SameButTokens (Invocation.ofList? step.words)
    (Invocation.ofList? other.words)
  input : step.input = other.input
  replies : step.replies = other.replies
  program : step.program = other.program
  environment? : step.environment? = other.environment?

variable {folder format} {world otherWorld : World}

theorem discreet_of_command {step : Step} {command : Invocation}
    (hcommand : Invocation.ofList? step.words = some command)
    (h : command.Discreet (step.outside folder format)) : step.Discreet folder format := by
  intro other hother
  rw [hcommand, Option.some.injEq] at hother
  exact hother ▸ h

theorem shown_outcome_iff {step other : Step} (h : step.SameButTokens other)
    (hstep : step.Discreet folder format) (hother : other.Discreet folder format)
    (hsame : world.SameButToken format folder otherWorld) :
    ((step.outcome folder format world).shown = (other.outcome folder format otherWorld).shown ↔
        step.revealed? folder format world = other.revealed? folder format otherWorld)
      ∧ (step.outcome folder format world).progress.world.SameButToken format folder
        (other.outcome folder format otherWorld).progress.world := by
  obtain ⟨words, input, replies, program, environment?⟩ := step
  obtain ⟨otherWords, _, _, _, _⟩ := other
  obtain ⟨hcommand, rfl, rfl, rfl, rfl⟩ := h
  have hopen : Progress.open
      { world := found world ⟨words, input, replies, program, environment?⟩, input := typedLines input }
        =
      Progress.open
        { world := found otherWorld ⟨otherWords, input, replies, program, environment?⟩
          input := typedLines input } := by
    simp [Progress.open, found, hsame.environment]
  rw [outcome, outcome, run, run]
  unfold revealed? Discreet at *
  dsimp only at hcommand hstep hother ⊢
  generalize Invocation.ofList? words = command? at hcommand hstep ⊢
  generalize Invocation.ofList? otherWords = otherCommand? at hcommand hother ⊢
  cases hcommand with
  | none =>
    have hmisuse : ShowSame format folder (do Run.complain usage; throw .misuse : Run Unit)
        (do Run.complain usage; throw .misuse) Eq :=
      (Run.paired_complain _).bind fun _ _ _ => Paired.throw _
    exact (hmisuse.sameUnlessRevealed hopen hsame.files none).outcome
  | some hcommand =>
    exact (Invocation.run_alike _ hcommand (hstep _ rfl) (hother _ rfl) hopen hsame.files).outcome

theorem shown_outcomes_iff (hsame : world.SameButToken format folder otherWorld)
    {steps others : List Step} (h : List.Forall₂ SameButTokens steps others)
    (hsteps : ∀ step ∈ steps, step.Discreet folder format)
    (hothers : ∀ step ∈ others, step.Discreet folder format) :
    (outcomes folder format world steps).map Outcome.shown
        = (outcomes folder format otherWorld others).map Outcome.shown
      ↔
    revealed folder format world steps = revealed folder format otherWorld others := by
  induction h generalizing world otherWorld with
  | nil => exact iff_of_true rfl rfl
  | cons hfirst _ ih =>
    obtain ⟨hstep, hrest⟩ := List.forall_mem_cons.mp hsteps
    obtain ⟨hother, hotherRest⟩ := List.forall_mem_cons.mp hothers
    obtain ⟨hshown, hlater⟩ := shown_outcome_iff hfirst hstep hother hsame
    simp only [outcomes, revealed, List.map_cons, List.cons.injEq]
    rw [hshown, ih hlater hrest hotherRest]

end Step

/--
Two sessions that start in the same world and differ in long tokens with the same ends show the same
exactly if they reveal the same tokens. But for those, all that each command prints and logs, and how it
ends, tells nothing else of a token, not even how long it is.
-/
theorem tokens_told_apart_iff (folder : Settings.Folder) (format : Settings.Format) (world : World)
    {steps others : List Step} (h : List.Forall₂ Step.SameButTokens steps others)
    (hsteps : ∀ step ∈ steps, step.Discreet folder format)
    (hothers : ∀ step ∈ others, step.Discreet folder format) :
    (Step.outcomes folder format world steps).map Outcome.shown
        = (Step.outcomes folder format world others).map Outcome.shown
      ↔
    Step.revealed folder format world steps = Step.revealed folder format world others :=
  Step.shown_outcomes_iff ⟨rfl, Command.SameButToken.refl _⟩ h hsteps hothers

/-! ### Sessions with two tokens -/

def tokenSteps (spaceId stored given : String) : List Step :=
  [["config", "set-token", "--token", stored], ["config", "show"],
    ["import", "--verbose", "--space-id", spaceId, "--management-token", given]].map fun words =>
    { words, replies := fun _ => .timedOut, program := { ending := .exited 1 } }

def importFileWorld : World where
  files := ({} : Files).write (Path.ofText "outputs/import.json") "{}"

theorem Invocation.ofList?_setToken (token : String) :
    ofList? ["config", "set-token", "--token", token] = some (.storeToken (some token) false) := by
  with_unfolding_all rfl

theorem Invocation.ofList?_import (spaceId token : String) :
    ofList? ["import", "--verbose", "--space-id", spaceId, "--management-token", token]
      =
    some (.importFile { spaceId := some spaceId, managementToken := some token, verbose := true }) := by
  with_unfolding_all rfl

section

variable (spaceId : String) {stored otherStored given otherGiven : String}

theorem sameButTokens_tokenSteps (hstored : SameEnds stored otherStored)
    (hgiven : SameEnds given otherGiven) :
    List.Forall₂ Step.SameButTokens (tokenSteps spaceId stored given)
      (tokenSteps spaceId otherStored otherGiven) := by
  refine .cons ⟨?_, rfl, rfl, rfl, rfl⟩ (.cons ⟨?_, rfl, rfl, rfl, rfl⟩
    (.cons ⟨?_, rfl, rfl, rfl, rfl⟩ .nil))
  . simp only [Invocation.ofList?_setToken]
    exact .some (.storeToken false hstored)
  . cases Invocation.ofList? ["config", "show"] with
    | none => exact .none
    | some command => exact .some (.same command)
  . simp only [Invocation.ofList?_import]
    exact .some (.importFile { spaceId := some spaceId, verbose := true } hgiven)

theorem discreet_tokenSteps (h : Settings.yaml.KeepsToken (some stored)) :
    ∀ step ∈ tokenSteps spaceId stored given, step.Discreet ⟨{}⟩ Settings.yaml := by
  have hshow : Invocation.ofList? ["config", "show"] = some (.showSettings false) := by decide +kernel
  have hplace : (Path.ofText ".env").place ≠ (Settings.Folder.credentialsFile ⟨{}⟩).place := by decide
  simp only [tokenSteps, List.map_cons, List.map_nil, List.forall_mem_cons]
  refine ⟨?_, ?_, ?_, nofun⟩
  . exact Step.discreet_of_command (Invocation.ofList?_setToken stored) h
  . exact Step.discreet_of_command hshow rfl
  . exact Step.discreet_of_command (Invocation.ofList?_import spaceId given) hplace

end

theorem keepsToken_one : Settings.yaml.KeepsToken (some "abcd-one-wxyz") := by
  apply Settings.eq_of_tokenOf?
  rw [Settings.parse_render_token]
  decide +kernel

theorem keepsToken_another : Settings.yaml.KeepsToken (some "abcd-another-wxyz") := by
  apply Settings.eq_of_tokenOf?
  rw [Settings.parse_render_token]
  decide +kernel

theorem sameEnds_another : SameEnds "abcd-one-wxyz" "abcd-another-wxyz" := by
  constructor <;> decide

theorem tokens_told_apart_iff_tokenSteps :
    SameEnds "abcd-one-wxyz" "abcd-another-wxyz"
      ∧ (Step.outcomes ⟨{}⟩ Settings.yaml importFileWorld
          (tokenSteps "abc" "abcd-one-wxyz" "abcd-one-wxyz")).map Outcome.shown
        =
      (Step.outcomes ⟨{}⟩ Settings.yaml importFileWorld
        (tokenSteps "abc" "abcd-another-wxyz" "abcd-another-wxyz")).map Outcome.shown := by
  have hshown := tokens_told_apart_iff ⟨{}⟩ Settings.yaml importFileWorld
    (sameButTokens_tokenSteps "abc" sameEnds_another sameEnds_another)
    (discreet_tokenSteps "abc" keepsToken_one) (discreet_tokenSteps "abc" keepsToken_another)
  exact ⟨sameEnds_another, hshown.mpr (by decide +kernel)⟩

/-- With the name of the option as the space, what is logged tells the two tokens apart. -/
theorem tokens_told_apart_for_optionAsSpace :
    SameEnds "abcd-one-wxyz" "abcd-another-wxyz"
      ∧ (Step.outcomes ⟨{}⟩ Settings.yaml importFileWorld
          (tokenSteps "--management-token" "abcd-one-wxyz" "abcd-one-wxyz")).map Outcome.shown
        ≠
      (Step.outcomes ⟨{}⟩ Settings.yaml importFileWorld
        (tokenSteps "--management-token" "abcd-another-wxyz" "abcd-another-wxyz")).map
          Outcome.shown := by
  have hworld : importFileWorld.SameButToken Settings.yaml ⟨{}⟩ importFileWorld :=
    ⟨rfl, SameButToken.refl _⟩
  have hshown := Step.shown_outcomes_iff hworld
    (sameButTokens_tokenSteps "--management-token" sameEnds_another sameEnds_another)
    (discreet_tokenSteps "--management-token" keepsToken_one)
    (discreet_tokenSteps "--management-token" keepsToken_another)
  exact ⟨sameEnds_another, hshown.not.mpr (by decide +kernel)⟩

end MarkdownIntake.Command
