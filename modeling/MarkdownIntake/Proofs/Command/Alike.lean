import MarkdownIntake.Proofs.Command.Pairing

/-!
This module contains pairs of sessions that differ in their environments. What is stored in the settings
and in the file of the token is the same in both, whatever the commands are.
-/

namespace MarkdownIntake.Command

open MarkdownIntake.Storage

/-! ### Files that agree -/

/-- Two states of the files have files in the same places, and the same texts in the two of a folder. -/
structure Agree (folder : Settings.Folder) (files other : Files) : Prop where
  places : files.SamePlaces other
  settings : files.read? folder.settingsFile = other.read? folder.settingsFile
  credentials : files.read? folder.credentialsFile = other.read? folder.credentialsFile

namespace Agree

variable {folder : Settings.Folder} {files other : Files}

protected theorem write (h : Agree folder files other) (path : Path) (text : String) :
    Agree folder (files.write path text) (other.write path text) where
  places := h.places.write path text text
  settings := Files.read?_write_congr h.settings path text
  credentials := Files.read?_write_congr h.credentials path text

protected theorem remove (h : Agree folder files other) (path : Path) :
    Agree folder (files.remove path) (other.remove path) where
  places := h.places.remove path
  settings := Files.read?_remove_congr h.settings path
  credentials := Files.read?_remove_congr h.credentials path

theorem load (h : Agree folder files other) (format : Settings.Format) :
    Settings.load format folder files = Settings.load format folder other :=
  Settings.load_congr h.settings

end Agree

/-! ### Runs side by side -/

/-- Files are compared so, and nothing of what runs do is compared but what they have still to read. -/
def agreeing (format : Settings.Format) (folder : Settings.Folder) : Pairing format folder where
  ofFiles := Agree folder
  ofProgress first second := first.input = second.input ∧ Agree folder first.world.files second.world.files
  ofStops _ _ := True
  stop_self _ := trivial
  places h := h.places
  load h := h.load format
  write h := h.write
  remove h := h.remove
  input_eq h := h.1
  files_of h := h.2
  aside := by
    rintro first second change haside ⟨hinput, hfiles⟩
    rw [haside.input, haside.input, haside.files, haside.files]
    exact ⟨hinput, hfiles⟩
  withInput h _ := ⟨rfl, h.2⟩
  withFiles h hfiles := ⟨h.1, hfiles⟩

namespace Run

variable {format : Settings.Format} {folder : Settings.Folder}

theorem agreeing_say (text other : String) : Paired (agreeing format folder) (say text) (say other) Eq :=
  fun _ _ hpair => ⟨.ok rfl, hpair⟩

theorem agreeing_environment :
    Paired (agreeing format folder) environment environment fun _ _ => True :=
  fun _ _ hpair => ⟨.ok trivial, hpair⟩

variable (outside : Outside)

theorem agreeing_settings (overrides : Settings.Overrides) :
    Paired (agreeing outside.format outside.folder) (settings outside overrides)
      (settings outside overrides) SameButTarget := by
  apply paired_files.bind
  intro files other hagree
  rw [hagree.load]
  apply (paired_orCrash _ _).bind
  rintro stored _ rfl
  apply agreeing_environment.bind
  rintro environment environment' -
  unfold Settings.effective
  cases overrides.format? with
  | error error => exact paired_fail _ _
  | ok format? => exact Paired.pure ⟨_, _, rfl⟩

theorem agreeing_token? :
    Paired (agreeing outside.format outside.folder) (token? outside) (token? outside)
      fun _ _ => True := by
  apply paired_files.bind
  intro files other hagree
  apply agreeing_environment.bind
  rintro environment environment' -
  unfold Settings.loadToken
  rw [hagree.credentials]
  cases other.read? outside.folder.credentialsFile with
  | none => exact Paired.pure trivial
  | some text =>
    dsimp only
    cases Settings.tokenOfText outside.format text with
    | error error => exact Paired.throw _
    | ok stored => exact Paired.pure trivial

theorem agreeing_showSettings (showsToken : Bool) :
    Paired (agreeing outside.format outside.folder) (showSettings outside showsToken)
      (showSettings outside showsToken) Eq := by
  apply paired_files.bind
  intro files other hagree
  rw [hagree.load]
  apply (paired_orCrash _ _).bind
  rintro settings _ rfl
  apply (agreeing_token? outside).bind
  rintro token? token?' -
  exact Paired.optional (Paired.throw _) ((agreeing_say _ _).bind fun _ _ _ => agreeing_say _ _)

end Run

/-! ### Commands and sessions -/

section

variable {format : Settings.Format} {folder : Settings.Folder} {outside : Outside} {world other : World}

theorem Paired.agree_outcome {part : Run Unit} (h : Paired (agreeing format folder) part part Eq)
    (hagree : Agree folder world.files other.files) (input : String) :
    Agree folder (part.outcome world input).progress.world.files
      (part.outcome other input).progress.world.files := by
  rw [outcome_progress, outcome_progress]
  exact (h { world, input := typedLines input } { world := other, input := typedLines input }
    ⟨rfl, hagree⟩).2.2

theorem Invocation.agree_outcome (command : Invocation)
    (hagree : Agree outside.folder world.files other.files) (input : String) :
    Agree outside.folder ((command.run outside).outcome world input).progress.world.files
      ((command.run outside).outcome other input).progress.world.files := by
  cases command with
  | help | version | showPaths =>
    exact (Run.agreeing_say _ _ : Paired (agreeing outside.format _) _ _ _).agree_outcome hagree input
  | validate options =>
    exact (Run.paired_validate outside options (Run.agreeing_settings outside)).agree_outcome hagree input
  | generate options =>
    exact (Run.paired_generate outside options (Run.agreeing_settings outside)).agree_outcome hagree input
  | importFile options =>
    -- An import may go one way here and another there, but it writes no file at all.
    rw [Invocation.run, outcome_progress, outcome_progress, Run.world_importFile, Run.world_importFile,
      options.files_loaded, options.files_loaded]
    exact hagree
  | showSettings showsToken =>
    exact (Run.agreeing_showSettings outside showsToken).agree_outcome hagree input
  | changeSetting key value =>
    exact (Run.paired_changeSetting outside key value).agree_outcome hagree input
  | storeToken token hasSurplus =>
    exact (Run.paired_storeToken outside (Run.agreeing_token? outside) token hasSurplus).agree_outcome
      hagree input
  | clearCredentials force =>
    exact (Run.paired_clearCredentials outside force).agree_outcome hagree input

theorem agree_run (outside : Outside) (hagree : Agree outside.folder world.files other.files)
    (words : List String) (input : String) :
    Agree outside.folder (run outside world words input).progress.world.files
      (run outside other words input).progress.world.files := by
  unfold run
  split
  . have hmisuse : Paired (agreeing outside.format outside.folder)
        (do Run.complain usage; throw .misuse : Run Unit) (do Run.complain usage; throw .misuse) Eq :=
      (Run.paired_complain _).bind fun _ _ _ => Paired.throw _
    exact hmisuse.agree_outcome hagree input
  . exact Invocation.agree_outcome _ hagree input

end

namespace Step

structure SameCommand (step other : Step) : Prop where
  words : step.words = other.words
  input : step.input = other.input
  replies : step.replies = other.replies
  program : step.program = other.program

variable {folder : Settings.Folder} {format : Settings.Format} {world other : World}

theorem agree_outcome {step otherStep : Step} (h : step.SameCommand otherStep)
    (hagree : Agree folder world.files other.files) :
    Agree folder (step.outcome folder format world).progress.world.files
      (otherStep.outcome folder format other).progress.world.files := by
  have hfound : Agree folder (found world step).files (found other otherStep).files := hagree
  rw [outcome, outcome, ← h.words, ← h.input, ← h.replies, ← h.program]
  exact agree_run { folder, format, replies := step.replies, program := step.program } hfound _ _

theorem agree_worldAfter {steps others : List Step} (h : List.Forall₂ SameCommand steps others)
    (hagree : Agree folder world.files other.files) :
    Agree folder (worldAfter folder format world steps).files
      (worldAfter folder format other others).files := by
  -- The environments need not agree before any step, so only the files are carried along.
  induction h generalizing world other with
  | nil => exact hagree
  | cons hstep _ ih => exact ih (agree_outcome hstep hagree)

end Step

/--
What an environment says is never stored. The two sessions may differ in all that the environments and
the texts of other files say.
-/
theorem environment_never_stored (folder : Settings.Folder) (format : Settings.Format)
    {world other : World} (hplaces : world.files.SamePlaces other.files)
    (hsettings : world.files.read? folder.settingsFile = other.files.read? folder.settingsFile)
    (hcredentials : world.files.read? folder.credentialsFile = other.files.read? folder.credentialsFile)
    {steps others : List Step} (hsteps : List.Forall₂ Step.SameCommand steps others) (count : Nat) :
    (Step.worldAfter folder format world (steps.take count)).files.read? folder.settingsFile
        =
      (Step.worldAfter folder format other (others.take count)).files.read? folder.settingsFile
      ∧ (Step.worldAfter folder format world (steps.take count)).files.read? folder.credentialsFile
        =
      (Step.worldAfter folder format other (others.take count)).files.read? folder.credentialsFile :=
  have hagree := Step.agree_worldAfter (List.forall₂_take count hsteps)
    ⟨hplaces, hsettings, hcredentials⟩
  ⟨hagree.settings, hagree.credentials⟩

/-! ### Two sessions -/

def targetWorld (spaceId token : String) : World where
  files := ({} : Files).write (Path.ofText ".env") s!"CONTENTFUL_SPACE_ID={spaceId}\n"
  environment := { entries := [(Settings.tokenVariable, token)] }

def targetSteps : List Step :=
  [["import"], ["config", "set", "contentful.locale", "de"], ["config", "set-token", "--token", "secret"],
    ["generate", "--url", "http://a.de/x.md", "--output", "x.json"]].map fun words =>
    { words, replies := fun _ => .response { text := .ok "# A" } }

theorem environment_never_stored_target :
    (Step.worldAfter ⟨{}⟩ Settings.yaml (targetWorld "abc" "one") targetSteps).environment.get?
        Settings.tokenVariable = some "one"
      ∧ (Step.worldAfter ⟨{}⟩ Settings.yaml (targetWorld "xyz" "two") targetSteps).environment.get?
        Settings.tokenVariable = some "two"
      ∧ (Step.worldAfter ⟨{}⟩ Settings.yaml (targetWorld "abc" "one") targetSteps).files.read?
          (Settings.Folder.settingsFile ⟨{}⟩)
        =
      (Step.worldAfter ⟨{}⟩ Settings.yaml (targetWorld "xyz" "two") targetSteps).files.read?
        (Settings.Folder.settingsFile ⟨{}⟩)
      ∧ (Step.worldAfter ⟨{}⟩ Settings.yaml (targetWorld "abc" "one") targetSteps).files.read?
          (Settings.Folder.credentialsFile ⟨{}⟩)
        =
      (Step.worldAfter ⟨{}⟩ Settings.yaml (targetWorld "xyz" "two") targetSteps).files.read?
        (Settings.Folder.credentialsFile ⟨{}⟩) := by
  have hsession : ∀ step ∈ targetSteps, step.environment? = none := by
    simp [targetSteps]
  have hsteps : List.Forall₂ Step.SameCommand targetSteps targetSteps :=
    List.forall₂_same.mpr fun _ _ => ⟨rfl, rfl, rfl, rfl⟩
  have hplaces : (targetWorld "abc" "one").files.SamePlaces (targetWorld "xyz" "two").files := rfl
  have hstored := environment_never_stored ⟨{}⟩ Settings.yaml hplaces rfl rfl hsteps 4
  exact ⟨Step.extends_worldAfter _ _ _ hsession _ _ rfl, Step.extends_worldAfter _ _ _ hsession _ _ rfl,
    hstored⟩

end MarkdownIntake.Command
