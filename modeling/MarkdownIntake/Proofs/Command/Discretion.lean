import MarkdownIntake.Proofs.Command.Revealed

/-!
This module contains pairs of commands that differ in the management tokens that they are given or find
stored. They show the same for tokens that look alike, but for an import that reveals its token.
-/

namespace MarkdownIntake.Command

open MarkdownIntake.Import MarkdownIntake.Storage

namespace Run

variable {format : Settings.Format} {folder : Settings.Folder} (outside : Outside)

theorem showSame_settings (overrides : Settings.Overrides) :
    ShowSame outside.format outside.folder (settings outside overrides) (settings outside overrides)
      Eq := by
  apply paired_files.bind
  intro files other hsame
  rw [hsame.load]
  apply (paired_orCrash _ _).bind
  rintro stored _ rfl
  apply showSame_environment.bind
  rintro environment _ rfl
  split
  . exact paired_fail _ _
  . exact Paired.pure rfl

theorem showSame_settings_target (overrides : Settings.Overrides) :
    ShowSame outside.format outside.folder (settings outside overrides) (settings outside overrides)
      SameButTarget :=
  (showSame_settings outside overrides).mono fun _ _ h => h ▸ .refl _

/-! ### Steps that show and change what is stored -/

theorem showSame_token? :
    ShowSame outside.format outside.folder (token? outside) (token? outside) (Option.Rel Lookalike) := by
  apply paired_files.bind
  intro files other hsame
  apply showSame_environment.bind
  rintro environment _ rfl
  rcases hsame.loadToken environment with ⟨error, hload, hotherLoad⟩ | ⟨_, _, hrel, hload, hotherLoad⟩
  . rw [hload, hotherLoad]
    exact Paired.throw _
  . rw [hload, hotherLoad]
    exact Paired.pure hrel

theorem settingsTable_congr (settings : Settings) {token? other? : Option String}
    (h : Option.Rel Lookalike token? other?) :
    settingsTable settings token? false = settingsTable settings other? false := by
  cases h with
  | none => rfl
  | some h =>
    simp only [settingsTable, Bool.false_eq_true, if_false, h.maskedToken]

theorem showSame_showSettings :
    ShowSame outside.format outside.folder (showSettings outside false) (showSettings outside false)
      Eq := by
  apply paired_files.bind
  intro files other hsame
  rw [hsame.load]
  apply (paired_orCrash _ _).bind
  rintro settings _ rfl
  apply (showSame_token? outside).bind
  intro token? other? hrel
  rw [settingsTable_congr settings hrel]
  exact Paired.optional (Paired.throw _) ((paired_say _).bind fun _ _ _ => paired_say _)

theorem showSame_storeToken_of_sameEnds {token otherToken : String} (h : SameEnds token otherToken)
    (hkeeps : outside.format.KeepsToken (some token))
    (hotherKeeps : outside.format.KeepsToken (some otherToken)) (hasSurplus : Bool) :
    ShowSame outside.format outside.folder (storeToken outside (some token) hasSurplus)
      (storeToken outside (some otherToken) hasSurplus) Eq := by
  rw [storeToken_eq, storeToken_eq]
  exact paired_storeGiven outside (showSame_token? outside)
    (fun _ _ hsame => hsame.saveToken h hkeeps hotherKeeps) hasSurplus

/-! ### An import -/

theorem showSame_loadEnvironment {path : Path} (h : path.place ≠ folder.credentialsFile.place) :
    ShowSame format folder (loadEnvironment path) (loadEnvironment path) Eq := by
  apply paired_files.bind
  intro files other hsame
  rw [hsame.elsewhere path h]
  cases other.read? path with
  | none => exact Paired.pure rfl
  | some text =>
    apply showSame_environment.bind
    rintro environment _ rfl
    dsimp only
    rcases environment.load text with ⟨_ | error, loaded⟩
    . exact (showSame_setEnvironment loaded).bind fun _ _ _ => Paired.pure rfl
    . exact (showSame_setEnvironment loaded).bind fun _ _ _ => Paired.throw _

theorem showSame_managementToken {files other : Files}
    (h : SameButToken format folder files other) (environment : Environment)
    {given? otherGiven? : Option String} (hgiven : Option.Rel Lookalike given? otherGiven?) :
    ShowSame format folder
      (orCrash .notLoaded (Settings.managementToken format folder files environment given?))
      (orCrash .notLoaded (Settings.managementToken format folder other environment otherGiven?))
      (Option.Rel Lookalike) := by
  have hstored : ShowSame format folder
      (orCrash .notLoaded (Settings.loadToken format folder files environment))
      (orCrash .notLoaded (Settings.loadToken format folder other environment))
      (Option.Rel Lookalike) := by
    rcases h.loadToken environment with ⟨error, hload, hotherLoad⟩ | ⟨_, _, hrel, hload, hotherLoad⟩
    . rw [hload, hotherLoad]
      exact Paired.throw _
    . rw [hload, hotherLoad]
      exact Paired.pure hrel
  unfold Settings.managementToken
  cases hgiven with
  | none => exact hstored
  | @some token otherToken hlike =>
    by_cases htoken : token = ""
    . have hother := hlike.eq_empty_iff.mp htoken
      subst htoken hother
      exact hstored
    . have hother : otherToken ≠ "" := fun heq => htoken (hlike.eq_empty_iff.mpr heq)
      rw [Option.filter, if_pos (by simpa using htoken), Option.filter, if_pos (by simpa using hother)]
      exact Paired.pure (.some hlike)

theorem showSame_prepared (options : Import) {otherToken? : Option String}
    (htoken : Option.Rel Lookalike options.managementToken otherToken?)
    (hplace : options.environmentFile.place ≠ outside.folder.credentialsFile.place) :
    ShowSame outside.format outside.folder (prepared outside options)
      (prepared outside { options with managementToken := otherToken? })
      fun ready other => ∃ other?, Option.Rel Lookalike ready.1.managementToken other?
        ∧ other = (withToken ready.1 other?, ready.2) := by
  apply (showSame_loadEnvironment hplace).bind
  rintro _ _ -
  apply (showSame_settings outside _).bind
  rintro settings _ rfl
  apply (paired_applyOutput rfl _).bind
  rintro verbose _ rfl
  apply paired_files.bind
  intro files other hsame
  dsimp only
  rw [hsame.exists?]
  apply Paired.optional (paired_fail _ _)
  apply Paired.onlyIf (paired_fail _ _)
  apply Paired.optional (paired_fail _ _)
  apply (paired_say _).bind
  rintro _ _ -
  apply paired_files.bind
  intro files other hsame
  apply showSame_environment.bind
  rintro environment _ rfl
  apply (showSame_managementToken hsame environment htoken).bind
  intro token? other? hrel
  exact Paired.pure ⟨other?, hrel, rfl⟩

end Run

/-- The token that a run from here reveals where it logs its command. -/
def Import.revealed? (outside : Outside) (options : Import) (start : Progress) : Option String :=
  match ((ExceptT.run (Run.prepared outside options)).run start).1 with
  | .ok (target, path, true) => target.revealed? outside.program path.text
  | _ => none

/-- Two runs that ended so show the same exactly if they reveal the same, and leave such worlds either way. -/
structure SameUnlessRevealed (format : Settings.Format) (folder : Settings.Folder)
    (ended otherEnded : Except Stop Unit × Progress) (revealed? otherRevealed? : Option String) :
    Prop where
  shown : revealed? = otherRevealed? →
    ended.1 = otherEnded.1 ∧ ended.2.open = otherEnded.2.open
  revealed : ended.2.logged = otherEnded.2.logged → revealed? = otherRevealed?
  environment : ended.2.world.environment = otherEnded.2.world.environment
  files : SameButToken format folder ended.2.world.files otherEnded.2.world.files

theorem ShowSame.sameUnlessRevealed {format : Settings.Format} {folder : Settings.Folder}
    {part other : Run Unit} (h : ShowSame format folder part other Eq) {first second : Progress}
    (hopen : first.open = second.open)
    (hfiles : SameButToken format folder first.world.files second.world.files)
    (revealed? : Option String) :
    SameUnlessRevealed format folder ((ExceptT.run part).run first) ((ExceptT.run other).run second)
      revealed? revealed? where
  shown _ := ⟨(h first second ⟨hopen, hfiles⟩).1.eq, (h first second ⟨hopen, hfiles⟩).2.1⟩
  revealed _ := rfl
  environment := Progress.environment_of_open (h first second ⟨hopen, hfiles⟩).2.1
  files := (h first second ⟨hopen, hfiles⟩).2.2

theorem SameButToken.loaded_environment {format : Settings.Format} {folder : Settings.Folder}
    {world other : World} (henvironment : world.environment = other.environment)
    (hfiles : SameButToken format folder world.files other.files) (options : Import)
    (otherToken? : Option String)
    (hplace : options.environmentFile.place ≠ folder.credentialsFile.place) :
    (options.loaded world).environment
      =
    (Import.loaded { options with managementToken := otherToken? } other).environment := by
  unfold Import.loaded
  rw [hfiles.elsewhere _ hplace, henvironment]
  cases other.files.read? options.environmentFile with
  | none => exact henvironment
  | some text => rfl

namespace Run

variable (outside : Outside) (options : Import) {otherToken? : Option String} {first second : Progress}

theorem importFile_alike (htoken : Option.Rel Lookalike options.managementToken otherToken?)
    (hplace : options.environmentFile.place ≠ outside.folder.credentialsFile.place)
    (hopen : first.open = second.open)
    (hfiles : SameButToken outside.format outside.folder first.world.files second.world.files) :
    let other := { options with managementToken := otherToken? }
    SameUnlessRevealed outside.format outside.folder
      ((ExceptT.run (importFile outside options)).run first)
      ((ExceptT.run (importFile outside other)).run second)
      (options.revealed? outside first) (other.revealed? outside second) := by
  have henvironment := hfiles.loaded_environment (Progress.environment_of_open hopen) options
    otherToken? hplace
  have hparts := showSame_prepared outside options htoken hplace first second ⟨hopen, hfiles⟩
  have hworld := world_importFile outside options first
  have hotherWorld := world_importFile outside { options with managementToken := otherToken? } second
  dsimp only [Import.revealed?]
  simp only [importFile_eq, run_bind] at hworld hotherWorld ⊢
  generalize (ExceptT.run (prepared outside options)).run first = ended at hparts hworld ⊢
  generalize (ExceptT.run (prepared outside { options with managementToken := otherToken? })).run second
    = otherEnded at hparts hotherWorld ⊢
  rcases ended with ⟨result, later⟩
  rcases otherEnded with ⟨otherResult, otherLater⟩
  obtain ⟨hend, hlater, hsame⟩ := hparts
  refine ⟨?_, ?_, by rw [hworld, hotherWorld, henvironment],
    by rw [hworld, hotherWorld, Import.files_loaded, Import.files_loaded]; exact hfiles⟩
  . intro hrevealed
    cases hend with
    | error hstop => exact ⟨by rw [hstop], hlater⟩
    | @ok ready _ h =>
      obtain ⟨target, path, verbose⟩ := ready
      obtain ⟨other?, hrel, rfl⟩ := h
      have hsaid : verbose = true →
          target.revealed? outside.program path.text
            = (withToken target other?).revealed? outside.program path.text := by
        rintro rfl
        exact hrevealed
      obtain ⟨hresult, hended, -⟩ :=
        showSame_pushTo outside hrel path hsaid later otherLater ⟨hlater, hsame⟩
      exact ⟨hresult.eq, hended⟩
  . intro hlogged
    cases hend with
    | error => rfl
    | @ok ready _ h =>
      obtain ⟨target, path, verbose⟩ := ready
      obtain ⟨other?, hrel, rfl⟩ := h
      cases verbose with
      | false => rfl
      | true => exact revealed?_eq_of_logged hrel path hlater hlogged

end Run

end MarkdownIntake.Command
