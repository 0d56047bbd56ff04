import MarkdownIntake.Proofs.Command.Call

/-!
This module contains how a run closes that imports a document: what it has told of, how it stops and
what it leaves behind, in each of the cases that it can come to.
-/

namespace MarkdownIntake.Command

open MarkdownIntake.Console MarkdownIntake.Import MarkdownIntake.Storage MarkdownIntake.Text

/-! ### What is told -/

def Quiet {α : Type} (part : Run α) : Prop :=
  ∀ progress a later, (ExceptT.run part).run progress = (.ok a, later) → later.err = progress.err

namespace Quiet

variable {α β : Type}

protected theorem pure (a : α) : Quiet (pure a : Run α) := by
  rintro progress _ _ ⟨⟩
  rfl

protected theorem throw (stop : Stop) : Quiet (throw stop : Run α) :=
  nofun

theorem modify {change : Progress → Progress} (h : ∀ progress, (change progress).err = progress.err) :
    Quiet (modify change : Run Unit) := by
  rintro progress _ _ ⟨⟩
  exact h progress

protected theorem bind {part : Run α} {next : α → Run β} (h : Quiet part) (hnext : ∀ a, Quiet (next a)) :
    Quiet (part >>= next) := by
  intro progress b final hrun
  rw [Run.run_bind] at hrun
  cases hpart : (ExceptT.run part).run progress with
  | mk result later =>
    rw [hpart] at hrun
    cases result with
    | error stop => cases hrun
    | ok a => exact (hnext a later b final hrun).trans (h progress a later hpart)

end Quiet

namespace Run

variable {α ε : Type}

theorem quiet_say (text : String) : Quiet (say text) :=
  Quiet.modify fun _ => rfl

theorem quiet_fail (message : String) (hint : Option String) : Quiet (fail message hint : Run α) :=
  nofun

theorem quiet_orCrash (toCrash : ε → Crash) (result : Except ε α) : Quiet (orCrash toCrash result) := by
  cases result with
  | ok a => exact Quiet.pure a
  | error error => exact Quiet.throw _

theorem quiet_files : Quiet files := by
  rintro progress _ _ ⟨⟩
  rfl

theorem quiet_environment : Quiet environment := by
  rintro progress _ _ ⟨⟩
  rfl

theorem quiet_logAll (verbose : Bool) (level : Level) (texts : List String) :
    Quiet (logAll verbose level texts) := by
  unfold logAll
  split
  . exact Quiet.modify fun _ => rfl
  . exact Quiet.pure ()

theorem quiet_log (verbose : Bool) (level : Level) (text : String) : Quiet (log verbose level text) :=
  quiet_logAll verbose level [text]

theorem quiet_applyOutput (settings : Settings) (verbose : Bool) :
    Quiet (applyOutput settings verbose) := by
  refine (Quiet.modify fun _ => ?_).bind fun _ => Quiet.pure _
  rfl

theorem quiet_settings (outside : Outside) (overrides : Settings.Overrides) :
    Quiet (settings outside overrides) := by
  apply quiet_files.bind
  intro files
  apply (quiet_orCrash _ _).bind
  intro stored
  apply quiet_environment.bind
  intro environment
  split
  . exact quiet_fail _ _
  . exact Quiet.pure _

theorem quiet_loadEnvironment (path : Path) : Quiet (loadEnvironment path) := by
  apply quiet_files.bind
  intro files
  split
  . exact Quiet.pure ()
  . apply quiet_environment.bind
    intro environment
    refine Quiet.bind (Quiet.modify fun _ => rfl) fun _ => ?_
    split
    . exact Quiet.pure ()
    . exact Quiet.throw _

end Run

/--
A run from here ends with a result somewhere and tells something of its failure, whatever it has printed
before, and these three are related.
-/
def Closes {α : Type} (part : Run α) (start : Standing)
    (P : String → Except Stop α → Standing → Prop) : Prop :=
  ∃ text result final, P text result final
    ∧ ∀ progress : Progress, progress.standing = start →
      ∃ later : Progress, (ExceptT.run part).run progress = (result, later) ∧ later.standing = final
        ∧ later.err = progress.err ++ text

namespace Closes

variable {α β : Type} {start middle final : Standing}

theorem of_ends {part : Run α} {a : α} {P : String → Except Stop α → Standing → Prop}
    (h : Ends part start (.ok a) final) (hquiet : Quiet part) (hP : P "" (.ok a) final) :
    Closes part start P := by
  refine ⟨"", .ok a, final, hP, fun progress hstart => ?_⟩
  obtain ⟨later, hrun, hfinal⟩ := h progress hstart
  exact ⟨later, hrun, hfinal, by rw [hquiet progress a later hrun, String.append_empty]⟩

protected theorem bind {part : Run α} {next : α → Run β} {a : α}
    {P : String → Except Stop β → Standing → Prop} (h : Ends part start (.ok a) middle)
    (hquiet : Quiet part) (hnext : Closes (next a) middle P) : Closes (part >>= next) start P := by
  obtain ⟨text, result, final, hP, hcloses⟩ := hnext
  refine ⟨text, result, final, hP, fun progress hstart => ?_⟩
  obtain ⟨between, hpart, hmiddle⟩ := h progress hstart
  obtain ⟨later, hrun, hfinal, herr⟩ := hcloses between hmiddle
  rw [hquiet progress a between hpart] at herr
  exact ⟨later, by rw [Run.run_bind, hpart, ← hrun], hfinal, herr⟩

theorem fail {message : String} {hint : Option String} {next : α → Run β}
    {P : String → Except Stop β → Standing → Prop}
    (h : P (errorNotice message hint) (.error (.exit 1)) start) :
    Closes (Run.fail message hint >>= next) start P :=
  ⟨_, _, _, h, fun _ hstart => ⟨_, rfl, hstart, rfl⟩⟩

theorem crash {error : Crash} {next : α → Run β} {P : String → Except Stop β → Standing → Prop}
    (h : P "" (.error (.crash error)) start) : Closes (Run.crash error >>= next) start P :=
  ⟨_, _, _, h, fun progress hstart => ⟨progress, rfl, hstart, (String.append_empty).symm⟩⟩

theorem crash_loadEnvironment {options : Import} {error : VariableError} {next : Unit → Run β}
    {P : String → Except Stop β → Standing → Prop} (hfault : options.fault? start.world = some error)
    (h : P "" (.error (.crash (.notDefined error))) { start with world := options.loaded start.world }) :
    Closes (Run.loadEnvironment options.environmentFile >>= next) start P := by
  unfold Import.fault? at hfault
  unfold Import.loaded at h
  unfold Run.loadEnvironment
  rw [bind_assoc]
  apply Closes.bind (Run.ends_files start) Run.quiet_files
  cases hread : start.world.files.read? options.environmentFile with
  | none => simp [hread] at hfault
  | some text =>
    rw [hread, Option.bind_some] at hfault
    rw [hread] at h
    dsimp only
    rw [bind_assoc]
    apply Closes.bind (Run.ends_environment start) Run.quiet_environment
    rw [bind_assoc]
    refine Closes.bind (Run.ends_setEnvironment start _) (Quiet.modify fun _ => rfl) ?_
    rw [hfault]
    exact crash h

end Closes

theorem outcome_of_closes {part : Run Unit} {world : World} {input : String}
    {P : String → Except Stop Unit → Standing → Prop}
    (h : Closes part { world, input := typedLines input } P) :
    ∃ result, (part.outcome world input).stop? = stopOf result
      ∧ P (part.outcome world input).progress.err result (part.outcome world input).progress.standing := by
  obtain ⟨text, result, final, hP, hcloses⟩ := h
  obtain ⟨later, hrun, rfl, herr⟩ := hcloses { world, input := typedLines input } rfl
  rw [String.empty_append] at herr
  rw [← herr] at hP
  refine ⟨result, ?_⟩
  unfold Run.outcome
  rw [hrun]
  cases result with
  | ok => exact ⟨rfl, hP⟩
  | error => exact ⟨rfl, hP⟩

/-! ### The cases -/

namespace Import

variable {outside : Outside} {options : Import} {world : World} {stored : Settings}
variable {storedToken? : Option String}

/--
All that a run asks for is there, but no place in the space: what is given for it, what the environment
says and what is stored are missing or empty.
-/
def LacksPlace (outside : Outside) (options : Import) (world : World) (stored : Settings) : Prop :=
  world.files.exists? (options.contentPath stored) ∧ (options.spaceId? world.environment stored).isSome
    ∧ outside.program.installed ∧ options.environmentId? world.environment stored = none

/-- All is there, but the program cannot be given a word with a zero in it. -/
def HasZero (outside : Outside) (options : Import) (world : World) (stored : Settings)
    (storedToken? : Option String) : Prop :=
  world.files.exists? (options.contentPath stored) ∧ (options.spaceId? world.environment stored).isSome
    ∧ outside.program.installed ∧ (options.environmentId? world.environment stored).isSome
    ∧ ∃ word ∈ options.given world.environment stored storedToken?, hasZero word = true

instance : Decidable (options.LacksPlace outside world stored) :=
  inferInstanceAs (Decidable (_ ∧ _ ∧ _ ∧ _))

instance : Decidable (options.HasZero outside world stored storedToken?) :=
  inferInstanceAs (Decidable (_ ∧ _ ∧ _ ∧ _ ∧ _))

theorem LacksPlace.not_hasZero (h : options.LacksPlace outside world stored) :
    ¬ options.HasZero outside world stored storedToken? := by
  rintro ⟨-, -, -, hplace, -⟩
  simp [h.2.2.2] at hplace

theorem LacksPlace.call?_eq_none (h : options.LacksPlace outside world stored) :
    options.call? outside world stored storedToken? = none := by
  rw [← Option.not_isSome_iff_eq_none, isSome_call?_iff, h.2.2.2]
  exact fun hcall => by cases hcall.2.1

theorem HasZero.call?_eq_none (h : options.HasZero outside world stored storedToken?) :
    options.call? outside world stored storedToken? = none := by
  rw [← Option.not_isSome_iff_eq_none, isSome_call?_iff]
  obtain ⟨-, -, -, -, word, hword, hzero⟩ := h
  exact fun hcall => Bool.false_ne_true ((hcall.2.2.2.2 word hword).symm.trans hzero)

/-- What a run tells, how it stops and what it leaves behind; the cases stand in the order of its checks. -/
inductive Closing (outside : Outside) (options : Import) (start : Standing) (stored : Settings)
    (storedToken? : Option String) : String → Except Stop Unit → Standing → Prop
  | notTaken {error : VariableError} (hfault : options.fault? start.world = some error) :
    Closing outside options start stored storedToken? "" (.error (.crash (.notDefined error)))
      { start with world := options.loaded start.world }
  | incomplete (hfault : options.fault? start.world = none)
    (h : ¬ (start.world.files.exists? (options.contentPath stored)
      ∧ (options.spaceId? (options.loaded start.world).environment stored).isSome
      ∧ outside.program.installed)) (message : String) (hint : Option String) :
    Closing outside options start stored storedToken? (errorNotice message hint) (.error (.exit 1))
      { start with world := options.loaded start.world }
  | noPlace (hfault : options.fault? start.world = none)
    (h : options.LacksPlace outside (options.loaded start.world) stored) :
    Closing outside options start stored storedToken? "" (.error (.crash (.notPushed .noEnvironment)))
      { start with world := options.loaded start.world }
  | zeroInWord (hfault : options.fault? start.world = none)
    (h : options.HasZero outside (options.loaded start.world) stored storedToken?) :
    Closing outside options start stored storedToken? "" (.error (.crash (.notPushed .zeroInWord)))
      { start with world := options.loaded start.world }
  | failed (hfault : options.fault? start.world = none) {call : Call}
    (hcall : options.call? outside (options.loaded start.world) stored storedToken? = some call)
    (hending : outside.program.ending ≠ .exited 0) (message : String) (hint : Option String) :
    Closing outside options start stored storedToken? (errorNotice message hint) (.error (.exit 1))
      { start with world := options.loaded start.world, calls := start.calls ++ [call] }
  | through (hfault : options.fault? start.world = none) {call : Call}
    (hcall : options.call? outside (options.loaded start.world) stored storedToken? = some call)
    (hending : outside.program.ending = .exited 0) :
    Closing outside options start stored storedToken? "" (.ok ())
      { start with world := options.loaded start.world, calls := start.calls ++ [call] }

end Import

namespace Run

variable (outside : Outside) (options : Import) (start : Standing)

theorem success_pushResult (words : List String) (timeout : Int) (ending : Ending) :
    (pushResult words timeout ending).success = decide (ending = .exited 0) := by
  unfold pushResult
  split <;> simp_all

theorem ends_addCall (call : Call) :
    Ends (modify fun progress => { progress with calls := progress.calls ++ [call] }) start (.ok ())
      { start with calls := start.calls ++ [call] } := by
  rintro progress rfl
  exact ⟨_, rfl, rfl⟩

theorem push_noEnvironment {program : Program} {spaceId : String} (hspace : ¬ spaceId.isEmpty)
    (hinstalled : program.installed) (token? : Option String) (file : String) :
    push program { spaceId, environmentId := "", managementToken := token? } file
      =
    .error .noEnvironment := by
  simp only [push, hinstalled, if_true, command, hspace]
  rfl

theorem closes_pushTo {target : Target} {path : Path} {words : List String}
    (hinstalled : outside.program.installed) (hcommand : command target path.text = .ok words)
    (verbose : Bool) {P : String → Except Stop Unit → Standing → Prop}
    (hzero : (Import.callOf words).isPassable = false →
      P "" (.error (.crash (.notPushed .zeroInWord))) start)
    (hthrough : (Import.callOf words).isPassable → outside.program.ending = .exited 0 →
      P "" (.ok ()) { start with calls := start.calls ++ [Import.callOf words] })
    (hfailed : (Import.callOf words).isPassable → outside.program.ending ≠ .exited 0 →
      ∀ message hint, P (errorNotice message hint) (.error (.exit 1))
        { start with calls := start.calls ++ [Import.callOf words] }) :
    Closes (pushTo outside target path verbose) start P := by
  have hpush :
      push outside.program target path.text
        =
      .ok (Import.callOf words, pushResult words defaultTimeout outside.program.ending) := by
    rw [push, if_pos hinstalled, hcommand]
    rfl
  apply Closes.bind (ends_orCrash_ok start .notPushed hpush) (quiet_orCrash _ _)
  apply Closes.bind (ends_log start verbose .info _) (quiet_log _ _ _)
  by_cases hpassable : (Import.callOf words).isPassable
  . rw [if_pos hpassable]
    apply Closes.bind (ends_addCall start _) (Quiet.modify fun _ => rfl)
    apply Closes.bind (ends_logAll _ verbose .warning _) (quiet_logAll _ _ _)
    apply Closes.bind (ends_say _ _) (quiet_say _)
    dsimp only
    rw [success_pushResult]
    by_cases hending : outside.program.ending = .exited 0
    . rw [if_pos (decide_eq_true hending)]
      exact Closes.of_ends (ends_say _ _) (quiet_say _) (hthrough hpassable hending)
    . rw [if_neg (by simpa using hending)]
      exact Closes.fail (hfailed hpassable hending _ _)
  . rw [if_neg hpassable]
    exact Closes.crash (hzero (by simpa using hpassable))

theorem closes_pushTo_given {stored settings : Settings} {token? storedToken? : Option String}
    (hfault : options.fault? start.world = none)
    (heffective : stored.effective (options.loaded start.world).environment options.overrides = .ok settings)
    (htokens : options.token? (options.loaded start.world).environment storedToken?
      = token?.filter (!·.isEmpty))
    (hexists : start.world.files.exists? (options.contentPath stored))
    (hid : ¬ (settings.entry.spaceId.getD "").isEmpty) (hinstalled : outside.program.installed)
    (verbose : Bool) :
    Closes
      (pushTo outside
        { spaceId := settings.entry.spaceId.getD "", environmentId := settings.entry.environmentId
          managementToken := token? } (options.contentPath stored) verbose)
      { start with world := options.loaded start.world }
      (options.Closing outside start stored storedToken?) := by
  have hspace : options.spaceId? (options.loaded start.world).environment stored
      = some (settings.entry.spaceId.getD "") := by
    simp [Import.spaceId?_eq heffective, filter_isEmpty, hid]
  have hfound : (options.loaded start.world).files.exists? (options.contentPath stored) := by
    rwa [options.files_loaded]
  have henvironment := Import.environmentId?_eq heffective
  by_cases hempty : settings.entry.environmentId = ""
  . rw [hempty, pushTo, push_noEnvironment hid hinstalled]
    apply Closes.crash
    exact .noPlace hfault ⟨hfound, by simp [hspace], hinstalled, by rw [henvironment, hempty]; rfl⟩
  . have hplace : options.environmentId? (options.loaded start.world).environment stored
        = some settings.entry.environmentId := by
      simp [henvironment, Option.filter, hempty]
    have hwords :
        options.command? (options.loaded start.world).environment stored storedToken?
          =
        some (bareCommand (settings.entry.spaceId.getD "") settings.entry.environmentId
          (options.contentPath stored).text ++ tokenWords (token?.filter (!·.isEmpty))) := by
      simp [Import.command?, hspace, hplace, htokens]
    have hcall (hpassable : (Import.callOf (bareCommand (settings.entry.spaceId.getD "")
          settings.entry.environmentId (options.contentPath stored).text
          ++ tokenWords (token?.filter (!·.isEmpty)))).isPassable) :
        options.call? outside (options.loaded start.world) stored storedToken?
          =
        some (Import.callOf (bareCommand (settings.entry.spaceId.getD "")
          settings.entry.environmentId (options.contentPath stored).text
          ++ tokenWords (token?.filter (!·.isEmpty)))) := by
      simp [Import.call?, hwords, hfound, hinstalled, hpassable]
    apply closes_pushTo outside _ hinstalled
      (Import.command_eq (by simpa using hid) hempty token? (options.contentPath stored).text) verbose
    . intro hzero
      refine .zeroInWord hfault ⟨hfound, by simp [hspace], hinstalled, by simp [hplace], ?_⟩
      rw [← Bool.not_eq_true, Import.isPassable_iff, not_forall] at hzero
      simpa [Import.given, hspace, hplace, htokens] using hzero
    . intro hpassable hending
      exact .through hfault (hcall hpassable) hending
    . intro hpassable hending message hint
      exact .failed hfault (hcall hpassable) hending message hint

theorem closes_importFile {stored : Settings} {storedToken? : Option String}
    (hload : Settings.load outside.format outside.folder start.world.files = .ok stored)
    (htoken : Settings.loadToken outside.format outside.folder start.world.files {} = .ok storedToken?) :
    Closes (importFile outside options) start (options.Closing outside start stored storedToken?) := by
  cases hfault : options.fault? start.world with
  | some error => exact Closes.crash_loadEnvironment hfault (.notTaken hfault)
  | none =>
  have hvariables := ends_loadEnvironment start options
  rw [hfault] at hvariables
  apply Closes.bind hvariables (quiet_loadEnvironment _)
  rw [← options.files_loaded] at hload htoken
  obtain ⟨settings, hsettled, heffective⟩ := exists_settled hload options.knowsFormat_overrides
  have hsettings := ends_settings outside { start with world := options.loaded start.world } options.overrides
  rw [hsettled] at hsettings
  apply Closes.bind hsettings (quiet_settings _ _)
  apply Closes.bind (ends_applyOutput _ settings options.verbose) (quiet_applyOutput _ _)
  apply Closes.bind (ends_files _) quiet_files
  have hpath : options.importFile.getD settings.importPath = options.contentPath stored := by
    rw [Settings.importPath_of_effective heffective, Import.contentPath]
  rw [hpath]
  dsimp only
  rw [options.files_loaded]
  by_cases hexists : start.world.files.exists? (options.contentPath stored)
  . rw [if_pos hexists]
    by_cases hid : (settings.entry.spaceId.getD "").isEmpty
    . have hspace : options.spaceId? (options.loaded start.world).environment stored = none := by
        simp [Import.spaceId?_eq heffective, filter_isEmpty, hid]
      rw [if_pos hid]
      exact Closes.fail (.incomplete hfault (fun h => by simp [hspace] at h) _ _)
    . rw [if_neg hid]
      by_cases hinstalled : outside.program.installed
      . rw [if_pos hinstalled]
        apply Closes.bind (ends_say _ _) (quiet_say _)
        apply Closes.bind (ends_files _) quiet_files
        apply Closes.bind (ends_environment _) quiet_environment
        obtain ⟨token?, hmanagement, htokens⟩ := Import.token?_eq htoken
        apply Closes.bind (ends_orCrash_ok _ .notLoaded hmanagement) (quiet_orCrash _ _)
        exact closes_pushTo_given outside options start hfault heffective htokens hexists hid hinstalled _
      . rw [if_neg hinstalled]
        exact Closes.fail (.incomplete hfault (fun h => hinstalled h.2.2) _ _)
  . rw [if_neg hexists]
    exact Closes.fail (.incomplete hfault (fun h => hexists h.1) _ _)

end Run

theorem run_importFile {options : Import} {words : List String} (outside : Outside) (world : World)
    (input : String) (hwords : Invocation.ofList? words = some (.importFile options)) :
    run outside world words input = (Run.importFile outside options).outcome world input := by
  rw [run, hwords]
  rfl

theorem closing_run {outside : Outside} {options : Import} {world : World} {words : List String}
    {stored : Settings} {storedToken? : Option String}
    (hwords : Invocation.ofList? words = some (.importFile options))
    (hload : Settings.load outside.format outside.folder world.files = .ok stored)
    (htoken : Settings.loadToken outside.format outside.folder world.files {} = .ok storedToken?)
    (input : String) :
    ∃ result, (run outside world words input).stop? = stopOf result
      ∧ options.Closing outside { world, input := typedLines input } stored storedToken?
        (run outside world words input).progress.err result
        (run outside world words input).progress.standing := by
  rw [run_importFile outside world input hwords]
  exact outcome_of_closes (Run.closes_importFile outside options _ hload htoken)

end MarkdownIntake.Command
