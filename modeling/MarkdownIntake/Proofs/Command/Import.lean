import MarkdownIntake.Proofs.Command.Closing

/-!
This module contains what a run that imports a document does. It leaves the variables of its file in the
environment, and it starts at most one program, with what is given before what the environment says and
that before what is stored.
-/

namespace MarkdownIntake.Command

open MarkdownIntake.Import MarkdownIntake.Storage MarkdownIntake.Text

/-! ### Calls -/

namespace Import.Closing

variable {outside : Outside} {options : Import} {start final : Standing} {stored : Settings}
variable {storedToken? : Option String} {text : String} {result : Except Stop Unit}

theorem refuses_or_calls (h : options.Closing outside start stored storedToken? text result final) :
    (options.made? outside start.world stored storedToken? = none
        ∧ final = { start with world := options.loaded start.world }
        ∧ ∃ stop : Stop, result = .error stop ∧ stop.Fails)
      ∨ ∃ call, options.made? outside start.world stored storedToken? = some call
        ∧ final = { start with world := options.loaded start.world, calls := start.calls ++ [call] }
        ∧ (result = .ok () ↔ outside.program.ending = .exited 0)
        ∧ ∀ stop, result = .error stop → stop.Fails := by
  unfold made?
  cases h with
  | notTaken hfault => exact .inl ⟨by rw [hfault], rfl, _, rfl, .inr ⟨_, rfl⟩⟩
  | incomplete hfault h =>
    refine .inl ⟨?_, rfl, _, rfl, .inl rfl⟩
    rw [hfault, ← Option.not_isSome_iff_eq_none, isSome_call?_iff, options.files_loaded]
    exact fun hcall => h ⟨hcall.2.2.1, hcall.1, hcall.2.2.2.1⟩
  | noPlace hfault h => exact .inl ⟨by rw [hfault, h.call?_eq_none], rfl, _, rfl, .inr ⟨_, rfl⟩⟩
  | zeroInWord hfault h => exact .inl ⟨by rw [hfault, h.call?_eq_none], rfl, _, rfl, .inr ⟨_, rfl⟩⟩
  | failed hfault hcall hending =>
    refine .inr ⟨_, by rw [hfault, hcall], rfl, iff_of_false nofun hending, ?_⟩
    rintro _ ⟨⟩
    exact .inl rfl
  | through hfault hcall hending =>
    refine .inr ⟨_, by rw [hfault, hcall], rfl, iff_of_true rfl hending, ?_⟩
    rintro _ ⟨⟩

theorem world_eq (h : options.Closing outside start stored storedToken? text result final) :
    final.world = options.loaded start.world := by
  cases h <;> rfl

theorem calls_eq (h : options.Closing outside start stored storedToken? text result final) :
    final.calls = start.calls ++ (options.made? outside start.world stored storedToken?).toList := by
  rcases h.refuses_or_calls with ⟨hmade, rfl, -⟩ | ⟨call, hmade, rfl, -⟩ <;> simp [hmade]

theorem result_eq_ok_iff (h : options.Closing outside start stored storedToken? text result final) :
    result = .ok ()
      ↔ (options.made? outside start.world stored storedToken?).isSome
        ∧ outside.program.ending = .exited 0 := by
  rcases h.refuses_or_calls with ⟨hmade, -, stop, rfl, -⟩ | ⟨call, hmade, -, hresult, -⟩
  . simp [hmade]
  . simp [hmade, hresult]

theorem fails (h : options.Closing outside start stored storedToken? text result final) {stop : Stop}
    (hresult : result = .error stop) : stop.Fails := by
  rcases h.refuses_or_calls with ⟨-, -, stop, rfl, hstop⟩ | ⟨-, -, -, -, hfails⟩
  . exact Except.error.inj hresult ▸ hstop
  . exact hfails stop hresult

theorem result_eq_of_fault (h : options.Closing outside start stored storedToken? text result final)
    {error : VariableError} (hfault : options.fault? start.world = some error) :
    text = "" ∧ result = .error (.crash (.notDefined error)) := by
  cases h with
  | notTaken hother =>
    rw [hfault, Option.some.injEq] at hother
    exact ⟨rfl, by rw [hother]⟩
  | incomplete hnone | noPlace hnone | zeroInWord hnone | failed hnone | through hnone =>
    rw [hfault] at hnone
    cases hnone

end Import.Closing

/-! ### The effect of a run -/

/-- What the outcome of an import with these stored settings and this stored token is. -/
structure Import.Effect (outside : Outside) (options : Import) (world : World) (stored : Settings)
    (storedToken? : Option String) (outcome : Outcome) : Prop where
  files : outcome.progress.world.files = world.files
  /-- Nothing that the environment says is changed, not even an empty text. -/
  environment : ∀ name, outcome.progress.world.environment.get? name
    =
    (world.environment.get? name).or
      ((world.files.read? options.environmentFile).bind fun text =>
        (world.environment.newIn text).lookup name)
  /-- What a file of variables says counts exactly where the environment says nothing. -/
  loaded : options.fault? world = none → ∀ name, outcome.progress.world.environment.get? name
    =
    (world.environment.get? name).or
      ((world.files.read? options.environmentFile).bind (world.environment.valueIn? · name))
  /-- A file defines what the environment lacks and what the last line for it has a value for. -/
  defined : options.fault? world = none → ∀ name, world.environment.get? name = none →
    ((outcome.progress.world.environment.get? name).isSome ↔
      ∃ text binding, world.files.read? options.environmentFile = some text
        ∧ Binding.last? (Binding.ofText text) name = some binding ∧ binding.value?.isSome)
  fault?_ne_none_iff : options.fault? world ≠ none ↔ ∃ text name value,
    world.files.read? options.environmentFile = some text ∧ world.environment.get? name = none
      ∧ world.environment.valueIn? text name = some value
      ∧ (hasZero name = true ∨ hasZero value = true ∨ '=' ∈ name.toList)
  defaultPlace : stored.entry.environmentId = "master"
    ∨ ∃ value, Settings.StoredUnder outside.format outside.folder world.files .entry .environmentId value
      ∧ Settings.readText value = .ok stored.entry.environmentId
  fault : ∀ error, options.fault? world = some error →
    outcome.stop? = some (.crash (.notDefined error)) ∧ outcome.progress.calls = []
  calls : options.fault? world = none →
    outcome.progress.calls
      =
    (options.call? outside outcome.progress.world stored storedToken?).toList
  calls_ne_nil_iff : outcome.progress.calls ≠ [] ↔
    options.fault? world = none ∧ (options.spaceId? outcome.progress.world.environment stored).isSome
      ∧ (options.environmentId? outcome.progress.world.environment stored).isSome
      ∧ world.files.exists? (options.contentPath stored) ∧ outside.program.installed
      ∧ ∀ word ∈ options.given outcome.progress.world.environment stored storedToken?,
        hasZero word = false
  exitCode : outcome.exitCode = 0 ↔ outcome.progress.calls ≠ [] ∧ outside.program.ending = .exited 0
  session : ∀ steps : List Step, (∀ step ∈ steps, step.environment? = none) →
    outcome.progress.world.environment.Extends
      (Step.worldAfter outside.folder outside.format outcome.progress.world steps).environment

theorem import_effect {outside : Outside} {options : Import} {world : World} {words : List String}
    {stored : Settings} {storedToken? : Option String}
    (hwords : Invocation.ofList? words = some (.importFile options))
    (hload : Settings.load outside.format outside.folder world.files = .ok stored)
    (htoken : Settings.loadToken outside.format outside.folder world.files {} = .ok storedToken?)
    (input : String) :
    options.Effect outside world stored storedToken? (run outside world words input) := by
  obtain ⟨result, hstop, hclosing⟩ := closing_run hwords hload htoken input
  have hworld : (run outside world words input).progress.world = options.loaded world :=
    hclosing.world_eq
  have hcalls : (run outside world words input).progress.calls
      = (options.made? outside world stored storedToken?).toList :=
    hclosing.calls_eq
  exact {
    files := by rw [hworld, options.files_loaded]
    environment := by rw [hworld]; exact options.get?_loaded world
    loaded := by rw [hworld]; exact fun hfault => Import.get?_loaded_of_taken hfault
    defined := by rw [hworld]; exact fun hfault name => Import.isSome_get?_loaded_iff hfault
    fault?_ne_none_iff := options.fault?_ne_none_iff world
    defaultPlace := Settings.environmentId_of_load hload
    fault := by
      intro error hfault
      obtain ⟨-, rfl⟩ := hclosing.result_eq_of_fault hfault
      exact ⟨hstop, by rw [hcalls, Import.made?, hfault]; rfl⟩
    calls := by
      intro hfault
      rw [hcalls, hworld, Import.made?, hfault]
    calls_ne_nil_iff := by
      rw [hcalls, ne_eq, Option.toList_eq_nil_iff, ← ne_eq, ← Option.isSome_iff_ne_none, hworld,
        Import.made?]
      cases options.fault? world with
      | some error => simp
      | none => simp only [Import.isSome_call?_iff, options.files_loaded, true_and]
    exitCode := by
      rw [hcalls, ne_eq, Option.toList_eq_nil_iff, ← ne_eq, ← Option.isSome_iff_ne_none,
        ← hclosing.result_eq_ok_iff]
      cases result with
      | ok => simp [Outcome.exitCode, hstop, stopOf]
      | error stop => simp [Outcome.exitCode_of_fails hstop (hclosing.fails rfl)]
    session := fun steps hsteps => Step.extends_worldAfter _ _ _ hsteps }

/-! ### A run with a file of variables -/

def variableText : String :=
  "CONTENTFUL_SPACE_ID=abc\nCONTENTFUL_ENVIRONMENT_ID=staging\n"

def variableWorld : World where
  files := (({} : Files).write (Path.ofText "outputs/import.json") "").write (Path.ofText ".env") variableText
  environment := { entries := [("CONTENTFUL_ENVIRONMENT_ID", "")] }

def silentServer : Outside where
  folder := ⟨{}⟩
  replies _ := .timedOut

theorem import_effect_variableFile :
    (run silentServer variableWorld ["import"] "").exitCode = 0
      ∧ (run silentServer variableWorld ["import"] "").progress.calls = [{
        command := ["contentful", "space", "import", "--space-id", "abc", "--environment-id", "master",
          "--content-file", "outputs/import.json"]
        timeout := 600 }] := by
  have hwords : Invocation.ofList? ["import"] = some (.importFile {}) := by decide +kernel
  have hload : Settings.load Settings.yaml ⟨{}⟩ variableWorld.files = .ok {} := by decide
  have htoken : Settings.loadToken Settings.yaml ⟨{}⟩ variableWorld.files {} = .ok none := by
    decide
  have heffect : ({} : Import).Effect silentServer variableWorld {} none
      (run silentServer variableWorld ["import"] "") :=
    import_effect hwords hload htoken ""
  have hfault : ({} : Import).fault? variableWorld = none := by decide
  have hfiles := heffect.files
  have henvironment := heffect.loaded hfault
  have hcalls := heffect.calls hfault
  have hexit := heffect.exitCode
  generalize (run silentServer variableWorld ["import"] "").progress.world = world at *
  have hspace : world.environment.get? Settings.spaceVariable = some "abc" := by
    rw [henvironment]
    decide
  have hplace : world.environment.get? Settings.environmentVariable = some "" := by
    rw [henvironment]
    decide
  have hsecret : world.environment.get? Settings.tokenVariable = none := by
    rw [henvironment]
    decide
  have hcall :
      Import.call? silentServer {} world {} none
        =
      some {
        command := ["contentful", "space", "import", "--space-id", "abc", "--environment-id", "master",
          "--content-file", "outputs/import.json"]
        timeout := 600 } := by
    rw [Import.call?, Import.command?, Import.spaceId?, Import.environmentId?, Import.token?, hspace,
      hplace, hsecret, hfiles]
    decide
  rw [hcall] at hcalls
  exact ⟨hexit.mpr ⟨by simp [hcalls], rfl⟩, hcalls⟩

end MarkdownIntake.Command
