import MarkdownIntake.Proofs.Command.Run

/-!
This module contains what runs leave alone in the world. Only an import changes the environment, and it
changes nothing else.
-/

namespace MarkdownIntake.Command

open MarkdownIntake.Storage

/-- A run leaves what is seen of the world as it was, whether it goes through or stops. -/
def Keeps {α β : Type} (view : World → β) (part : Run α) : Prop :=
  ∀ progress : Progress, view ((ExceptT.run part).run progress).2.world = view progress.world

namespace Keeps

variable {α β γ ε : Type} {view : World → γ}

protected theorem pure (a : α) : Keeps view (pure a : Run α) :=
  fun _ => rfl

protected theorem throw (stop : Stop) : Keeps view (throw stop : Run α) :=
  fun _ => rfl

protected theorem bind {part : Run α} {next : α → Run β} (h : Keeps view part)
    (hnext : ∀ a, Keeps view (next a)) : Keeps view (part >>= next) := by
  intro progress
  have hpart := h progress
  rw [Run.run_bind]
  cases hrun : (ExceptT.run part).run progress with
  | mk result later =>
    rw [hrun] at hpart
    cases result with
    | error stop => exact hpart
    | ok a => exact (hnext a later).trans hpart

protected theorem ite {condition : Prop} [Decidable condition] {part other : Run α}
    (h : Keeps view part) (hother : Keeps view other) :
    Keeps view (if condition then part else other) := by
  split
  . exact h
  . exact hother

theorem optional {done : Prop} [Decidable done] {part : Run Unit} {next : Unit → Run β}
    (h : Keeps view part) (hnext : Keeps view (next ())) :
    Keeps view (if done then next () else part >>= fun r => next r) :=
  Keeps.ite hnext (h.bind fun _ => hnext)

theorem onlyIf {condition : Prop} [Decidable condition] {part : Run Unit} {next : Unit → Run β}
    (h : Keeps view part) (hnext : Keeps view (next ())) :
    Keeps view (if condition then part >>= fun r => next r else next ()) :=
  Keeps.ite (h.bind fun _ => hnext) hnext

theorem world {part : Run α} (h : Keeps id part) (progress : Progress) :
    ((ExceptT.run part).run progress).2.world = progress.world :=
  h progress

theorem modify {change : Progress → Progress}
    (h : ∀ progress, view (change progress).world = view progress.world) :
    Keeps view (modify change : Run Unit) :=
  h

end Keeps

namespace Run

variable {α ε γ : Type} {view : World → γ}

theorem keeps_say (text : String) : Keeps view (say text) :=
  Keeps.modify fun _ => rfl

theorem keeps_complain (text : String) : Keeps view (complain text) :=
  Keeps.modify fun _ => rfl

theorem keeps_fail (message : String) (hint : Option String) :
    Keeps view (fail message hint : Run α) :=
  (keeps_complain _).bind fun _ => Keeps.throw _

theorem keeps_abort : Keeps view (abort : Run α) :=
  (keeps_complain _).bind fun _ => Keeps.throw _

theorem keeps_orCrash (toCrash : ε → Crash) (result : Except ε α) :
    Keeps view (orCrash toCrash result) := by
  cases result with
  | error => exact Keeps.throw _
  | ok a => exact Keeps.pure a

theorem keeps_files : Keeps view files :=
  fun _ => rfl

theorem keeps_environment : Keeps view environment :=
  fun _ => rfl

theorem keeps_setFiles (files : Files) : Keeps World.environment (setFiles files) :=
  Keeps.modify fun _ => rfl

theorem keeps_readLine : Keeps view readLine := by
  intro progress
  rcases progress with ⟨world, input, _, _, _, _, _, _⟩
  cases input <;> rfl

theorem keeps_ask (question : String) : Keeps view (ask question) := by
  apply (keeps_say _).bind
  intro _
  apply keeps_readLine.bind
  intro line?
  cases line? with
  | none => exact keeps_abort
  | some line => exact (keeps_say _).bind fun _ => Keeps.pure line

def answered (read : String × Option α × List String) : Run α := do
  say read.1
  match read.2.1 with
  | none => abort
  | some answer => return answer

def asked (read : List String → String × Option α × List String) : Run α := do
  let progress ← get
  set { progress with input := (read progress.input).2.2 }
  answered (read progress.input)

theorem askHidden_eq_asked (question : String) : askHidden question = asked (hiddenLine question) := by
  unfold askHidden asked
  congr
  funext progress
  rcases hiddenLine question progress.input with ⟨_, _ | _, _⟩ <;> rfl

theorem confirm_eq_asked (question : String) : confirm question = asked (decision question) := by
  unfold confirm asked
  congr
  funext progress
  rcases decision question progress.input with ⟨_, _ | _, _⟩ <;> rfl

theorem keeps_answered (read : String × Option α × List String) : Keeps view (answered read) := by
  apply (keeps_say _).bind
  intro _
  cases read.2.1 with
  | none => exact keeps_abort
  | some answer => exact Keeps.pure answer

theorem keeps_asked (read : List String → String × Option α × List String) : Keeps view (asked read) :=
  fun progress => keeps_answered (read progress.input) _

theorem keeps_logAll (verbose : Bool) (level : Level) (texts : List String) :
    Keeps view (logAll verbose level texts) :=
  Keeps.ite (Keeps.modify fun _ => rfl) (Keeps.pure ())

theorem keeps_log (verbose : Bool) (level : Level) (text : String) :
    Keeps view (log verbose level text) :=
  keeps_logAll verbose level [text]

theorem keeps_applyOutput (settings : Settings) (verbose : Bool) :
    Keeps view (applyOutput settings verbose) := by
  refine (Keeps.modify fun _ => ?_).bind fun _ => Keeps.pure _
  rfl

/-! ### Steps of the commands -/

variable (outside : Outside)

theorem keeps_settings (overrides : Settings.Overrides) : Keeps view (settings outside overrides) := by
  apply keeps_files.bind
  intro files
  apply (keeps_orCrash _ _).bind
  intro stored
  apply keeps_environment.bind
  intro environment
  split
  . exact keeps_fail _ _
  . exact Keeps.pure _

theorem keeps_download (url : String) (settings : Settings) (quiet verbose : Bool) :
    Keeps view (download outside url settings quiet verbose) := by
  unfold download
  obtain ⟨requests, result⟩ := Web.download outside.replies url settings.timeout
  apply Keeps.optional (keeps_say _)
  refine (Keeps.modify fun _ => ?_).bind fun _ => ?_
  . rfl
  . dsimp only
    split
    . exact (keeps_log verbose .debug _).bind fun _ => Keeps.optional (keeps_say _) (Keeps.pure _)
    . exact Keeps.throw _
    . exact Keeps.throw _
    . exact (keeps_logAll verbose .warning _).bind fun _ => keeps_fail _ _

theorem keeps_reviewed (markdown title : String) (settings : Settings) (verbose : Bool) :
    Keeps view (reviewed markdown title settings verbose) :=
  (keeps_logAll verbose .debug _).bind fun _ => keeps_orCrash _ _

theorem keeps_exportReview (review : Review.Assessment) (path : Path) (quiet verbose : Bool) :
    Keeps World.environment (exportReview review path quiet verbose) := by
  apply keeps_files.bind
  intro files
  apply (keeps_orCrash _ _).bind
  intro files?
  cases files? with
  | none =>
    exact (keeps_log verbose .info _).bind fun _ => Keeps.optional (keeps_say _) (Keeps.pure ())
  | some files =>
    apply (keeps_setFiles _).bind
    intro _
    exact (keeps_log verbose .info _).bind fun _ => Keeps.optional (keeps_say _) (Keeps.pure ())

theorem keeps_validate (options : Validate) : Keeps World.environment (validate outside options) := by
  apply (keeps_settings outside _).bind
  intro settings
  apply (keeps_applyOutput settings _).bind
  intro verbose
  apply (keeps_download outside _ _ _ _).bind
  intro markdown
  apply (keeps_reviewed _ _ _ _).bind
  intro review
  apply (keeps_orCrash _ _).bind
  intro text
  apply (keeps_say _).bind
  intro _
  have hverdict : Keeps World.environment (unless review.success do throw (.exit 1) : Run Unit) :=
    Keeps.ite (Keeps.pure ()) (Keeps.throw _)
  exact Keeps.ite ((keeps_exportReview _ _ _ _).bind fun _ => hverdict) hverdict

theorem keeps_address (options : Generate) : Keeps view (address options) := by
  unfold address
  split
  . exact Keeps.pure _
  . apply (keeps_say _).bind
    intro _
    apply (keeps_ask _).bind
    intro line
    exact Keeps.ite (keeps_fail _ _) (Keeps.pure _)

theorem keeps_checkFirst (options : Generate) (markdown title : String) (settings : Settings)
    (verbose : Bool) : Keeps World.environment (checkFirst options markdown title settings verbose) := by
  apply Keeps.ite
  . apply (keeps_reviewed _ _ _ _).bind
    intro review
    apply (keeps_orCrash _ _).bind
    intro text
    apply (keeps_say _).bind
    intro _
    have hverdict :
        Keeps World.environment
          (unless review.success do fail "Validation failed. Fix issues before generating import.") :=
      Keeps.ite (Keeps.pure ()) (keeps_fail _ _)
    exact Keeps.ite ((keeps_exportReview _ _ _ _).bind fun _ => hverdict) hverdict
  . exact Keeps.ite (keeps_complain _) (Keeps.pure ())

theorem keeps_generate (options : Generate) : Keeps World.environment (generate outside options) := by
  apply (keeps_settings outside _).bind
  intro settings
  apply (keeps_applyOutput settings _).bind
  intro verbose
  apply (keeps_address options).bind
  intro url
  apply (keeps_download outside _ _ _ _).bind
  intro markdown
  apply (keeps_checkFirst _ _ _ _ _).bind
  intro _
  apply keeps_files.bind
  intro files
  apply (keeps_orCrash _ _).bind
  intro written
  apply (keeps_setFiles _).bind
  intro _
  exact (keeps_log verbose .info _).bind fun _ => keeps_say _

theorem keeps_token? : Keeps view (token? outside) := by
  apply keeps_files.bind
  intro files
  apply keeps_environment.bind
  intro environment
  exact keeps_orCrash _ _

theorem keeps_showSettings (showsToken : Bool) : Keeps view (showSettings outside showsToken) := by
  apply keeps_files.bind
  intro files
  apply (keeps_orCrash _ _).bind
  intro settings
  apply (keeps_token? outside).bind
  intro token?
  exact Keeps.optional (Keeps.throw _) ((keeps_say _).bind fun _ => keeps_say _)

theorem keeps_changeSetting (key value : String) :
    Keeps World.environment (changeSetting outside key value) := by
  apply keeps_files.bind
  intro files
  split
  . exact (keeps_setFiles _).bind fun _ => keeps_say _
  . apply keeps_files.bind
    intro files
    apply (keeps_setFiles _).bind
    intro _
    split
    . exact Keeps.throw _
    . exact Keeps.throw _
    . exact Keeps.throw _
    . exact keeps_fail _ _

def storeGiven (hasSurplus : Bool) (token : String) : Run Unit := do
  if hasSurplus then throw .misuse
  let _ ← token? outside
  setFiles (Settings.saveToken outside.format outside.folder (← files) (some token))
  say (Console.successNotice "Management token saved")
  say (Console.infoNotice s!"Credentials: {outside.folder.credentialsFile.text}")

theorem storeToken_eq (token? : Option String) (hasSurplus : Bool) :
    storeToken outside token? hasSurplus
      =
    match token? with
    | some token => storeGiven outside hasSurplus token
    | none => asked (hiddenLine "Content management token") >>= storeGiven outside hasSurplus := by
  rw [← askHidden_eq_asked]
  cases token? <;> rfl

def removeStored : Run Unit := do
  setFiles (Settings.clearToken outside.folder (← files))
  say (Console.successNotice "Credentials removed")

theorem clearCredentials_eq (force : Bool) :
    clearCredentials outside force
      =
    (if force then removeStored outside
    else do
      let answer ← asked (decision "Are you sure you want to remove stored credentials?")
      unless answer do abort
      removeStored outside) := by
  rw [← confirm_eq_asked]
  rfl

theorem keeps_storeToken (token? : Option String) (hasSurplus : Bool) :
    Keeps World.environment (storeToken outside token? hasSurplus) := by
  have hstore (token : String) : Keeps World.environment (storeGiven outside hasSurplus token) := by
    apply Keeps.onlyIf (Keeps.throw _)
    apply (keeps_token? outside).bind
    intro _
    apply keeps_files.bind
    intro files
    apply (keeps_setFiles _).bind
    intro _
    exact (keeps_say _).bind fun _ => keeps_say _
  rw [storeToken_eq]
  cases token? with
  | some token => exact hstore token
  | none => exact (keeps_asked _).bind hstore

theorem keeps_clearCredentials (force : Bool) :
    Keeps World.environment (clearCredentials outside force) := by
  have hremove : Keeps World.environment (removeStored outside) := by
    apply keeps_files.bind
    intro files
    exact (keeps_setFiles _).bind fun _ => keeps_say _
  rw [clearCredentials_eq]
  apply Keeps.ite hremove
  apply (keeps_asked _).bind
  intro answer
  exact Keeps.optional keeps_abort hremove

end Run

/-! ### An import -/

def Import.fault? (options : Import) (world : World) : Option VariableError :=
  (world.files.read? options.environmentFile).bind fun text => (world.environment.load text).1

def Import.loaded (options : Import) (world : World) : World :=
  match world.files.read? options.environmentFile with
  | none => world
  | some text => { world with environment := (world.environment.load text).2 }

theorem Import.files_loaded (options : Import) (world : World) : (options.loaded world).files = world.files := by
  unfold loaded
  split <;> rfl

namespace Run

variable {γ : Type} {view : World → γ}

theorem ends_setEnvironment (start : Standing) (environment : Environment) :
    Ends (setEnvironment environment) start (.ok ())
      { start with world := { start.world with environment } } := by
  rintro progress rfl
  exact ⟨_, rfl, rfl⟩

theorem ends_loadEnvironment (start : Standing) (options : Import) :
    Ends (loadEnvironment options.environmentFile) start
      (match options.fault? start.world with
        | none => .ok ()
        | some error => .error (.crash (.notDefined error)))
      { start with world := options.loaded start.world } := by
  apply (ends_files start).bind
  unfold Import.loaded Import.fault?
  cases start.world.files.read? options.environmentFile with
  | none => exact Ends.pure () start
  | some text =>
    apply (ends_environment start).bind
    dsimp only [Option.bind_some]
    rcases start.world.environment.load text with ⟨_ | error, loaded⟩
    . exact (ends_setEnvironment start loaded).bind (Ends.pure () _)
    . exact (ends_setEnvironment start loaded).bind (Ends.throw _ _)

theorem keeps_pushTo (outside : Outside) (target : Import.Target) (path : Path) (verbose : Bool) :
    Keeps view (pushTo outside target path verbose) := by
  apply (keeps_orCrash _ _).bind
  rintro ⟨call, result⟩
  apply (keeps_log verbose .info _).bind
  intro _
  refine Keeps.optional (Keeps.throw _) ((Keeps.modify fun _ => ?_).bind fun _ => ?_)
  . rfl
  . apply (keeps_logAll verbose .warning _).bind
    intro _
    apply (keeps_say _).bind
    intro _
    exact Keeps.optional (keeps_fail _ _) (keeps_say _)

theorem world_importFile (outside : Outside) (options : Import) (progress : Progress) :
    ((ExceptT.run (importFile outside options)).run progress).2.world = options.loaded progress.world := by
  obtain ⟨middle, hload, hmiddle⟩ := ends_loadEnvironment progress.standing options progress rfl
  unfold importFile withPrepared
  rw [run_bind, hload]
  refine Eq.trans ?_ (congrArg Standing.world hmiddle)
  cases options.fault? progress.standing.world with
  | some error => rfl
  | none =>
  refine Keeps.world ?_ middle
  apply (keeps_settings outside _).bind
  intro settings
  apply (keeps_applyOutput settings _).bind
  intro verbose
  apply keeps_files.bind
  intro files
  apply Keeps.optional (keeps_fail _ _)
  apply Keeps.onlyIf (keeps_fail _ _)
  apply Keeps.optional (keeps_fail _ _)
  apply (keeps_say _).bind
  intro _
  apply keeps_files.bind
  intro files
  apply keeps_environment.bind
  intro environment
  apply (keeps_orCrash _ _).bind
  intro token?
  exact keeps_pushTo outside _ _ verbose

end Run

/-! ### All commands -/

theorem Invocation.keeps_environment (outside : Outside) {command : Invocation}
    (h : ∀ options, command ≠ .importFile options) : Keeps World.environment (command.run outside) := by
  cases command with
  | help | version => exact Run.keeps_say _
  | validate options => exact Run.keeps_validate outside options
  | generate options => exact Run.keeps_generate outside options
  | importFile options => exact absurd rfl (h options)
  | showSettings showsToken => exact Run.keeps_showSettings outside showsToken
  | changeSetting key value => exact Run.keeps_changeSetting outside key value
  | showPaths => exact Run.keeps_say _
  | storeToken token hasSurplus => exact Run.keeps_storeToken outside token hasSurplus
  | clearCredentials force => exact Run.keeps_clearCredentials outside force

theorem outcome_progress (part : Run Unit) (world : World) (input : String) :
    (part.outcome world input).progress
      =
    ((ExceptT.run part).run { world, input := typedLines input }).2 := by
  unfold Run.outcome
  rcases (ExceptT.run part).run { world, input := typedLines input } with ⟨_ | _, _⟩ <;> rfl

end MarkdownIntake.Command
