import MarkdownIntake.Proofs.Settings.Readable
import MarkdownIntake.Settings.Override
import Mathlib.Control.Monad.Basic

/-!
This module contains the operations on the stored settings and on the stored token, and what each of
them does to the two files. An operation changes at most one of them, and an update that fails changes
none, unless its new record has no text: then it leaves an empty file behind.
-/

namespace MarkdownIntake.Settings

open MarkdownIntake.Json MarkdownIntake.Number MarkdownIntake.Storage

inductive Operation where
  | load
  | save (settings : Settings)
  | update (key : String) (value : Value)
  | effective (overrides : Overrides)
  | loadToken
  | saveToken (token? : Option String)
  | clearToken
  | managementToken (given? : Option String)

namespace Operation

inductive Answer where
  | done
  | settings (settings : Settings)
  | token (token? : Option String)

inductive Failure where
  | notLoaded (error : LoadError)
  | notChanged (error : UpdateError)
  | unknownFormat (error : UnknownFormat)

def Failure.ofChange : ChangeError → Failure
  | .notLoaded error => .notLoaded error
  | .notChanged error => .notChanged error

def ofLoad (toAnswer : α → Answer) (result : Except LoadError α) : Except Failure Answer :=
  (result.mapError .notLoaded).map toAnswer

def effective? (overrides : Overrides) (environment : Environment) (result : Except LoadError Settings) :
    Except Failure Answer := do
  let settings ← result.mapError .notLoaded
  return .settings (← (settings.effective environment overrides).mapError .unknownFormat)

def run (format : Format) (folder : Folder) (environment : Environment) (files : Files) :
    Operation → Except Failure Answer × Files
  | .load => (ofLoad .settings (Settings.load format folder files), files)
  | .save settings =>
    (if format.writes settings.toJson then .ok .done else .error (.notChanged .unwritable),
      Settings.save format folder files settings)
  | .update key value =>
    match Settings.update format folder files key value with
    | .ok next => (.ok .done, next)
    | .error error => (.error (.ofChange error), error.filesLeft folder files)
  | .effective overrides =>
    (effective? overrides environment (Settings.load format folder files), files)
  | .loadToken => (ofLoad .token (Settings.loadToken format folder files environment), files)
  | .saveToken token? => (.ok .done, Settings.saveToken format folder files token?)
  | .clearToken => (.ok .done, Settings.clearToken folder files)
  | .managementToken given? =>
    (ofLoad .token (Settings.managementToken format folder files environment given?), files)

def writesSettings : Operation → Bool
  | .save _ | .update _ _ => true
  | _ => false

def writesToken : Operation → Bool
  | .saveToken _ | .clearToken => true
  | _ => false

def filesAfter (format : Format) (folder : Folder) (files : Files)
    (operations : List (Environment × Operation)) : Files :=
  operations.foldl (fun files (environment, operation) => (operation.run format folder environment files).2)
    files

end Operation

/-! ### An update -/

section

variable {format : Format} {folder : Folder} {files : Files}

/--
A key names a setting, and a value can be brought to the kind of what is stored there; `record` is what
is to be stored then.
-/
def Asks (format : Format) (folder : Folder) (files : Files) (text : String) (value record : Value) :
    Prop :=
  ∃ settings, load format folder files = .ok settings
    ∧ ∃ part : Section, ∃ key ∈ part.keys, text = part.name ++ "." ++ key.name
      ∧ ∃ coerced, coerce (settings.get key) value = .ok coerced
        ∧ record = settings.replaced key coerced

theorem asks_iff {text : String} {value record : Value} :
    Asks format folder files text value record ↔
      ∃ settings key coerced, load format folder files = .ok settings ∧ Key.ofText text = .ok key
        ∧ coerce (settings.get key) value = .ok coerced ∧ record = settings.replaced key coerced := by
  constructor
  . rintro ⟨settings, hload, part, key, hmem, htext, coerced, hcoerce, hrecord⟩
    rw [← Key.part_of_mem hmem, ← Key.ofText_eq_ok_iff] at htext
    exact ⟨settings, key, coerced, hload, htext, hcoerce, hrecord⟩
  . rintro ⟨settings, key, coerced, hload, hkey, hcoerce, hrecord⟩
    exact ⟨settings, hload, key.part, key, key.mem_keys, Key.ofText_eq_ok_iff.mp hkey, coerced, hcoerce,
      hrecord⟩

theorem Key.ofText_ne_unwritable (text : String) : Key.ofText text ≠ .error .unwritable := by
  unfold Key.ofText
  split
  . simp
  . simp
  . simp only
    split
    . simp
    . split <;> simp
  . simp

theorem toWhole_ne_unwritable (value : Value) : toWhole value ≠ .error .unwritable := by
  cases value with
  | real x => cases x <;> simp [toWhole, wholePart]
  | str text =>
    cases h : readInteger text <;> simp [toWhole, numberOf, h, Except.mapError]
  | _ => simp [toWhole]

theorem toReal_ne_unwritable (value : Value) : toReal value ≠ .error .unwritable := by
  cases value with
  | int n => cases h : Number.Binary64.ofInt n <;> simp [toReal, h]
  | str text =>
    cases h : readDecimal text <;> simp [toReal, numberOf, h, Except.mapError]
  | _ => simp [toReal]

theorem toFlag_ne_unwritable (value : Value) : toFlag value ≠ .error .unwritable := by
  unfold toFlag
  split <;> simp

theorem coerce_ne_unwritable (present value : Value) : coerce present value ≠ .error .unwritable := by
  unfold coerce
  split
  . have h := toFlag_ne_unwritable value
    cases hflag : toFlag value <;> simp_all [Except.map]
  . have h := toWhole_ne_unwritable value
    cases hwhole : toWhole value <;> simp_all [Except.map]
  . have h := toReal_ne_unwritable value
    cases hreal : toReal value <;> simp_all [Except.map]
  . simp

theorem filesLeft_eq_self {error : ChangeError} (h : error ≠ .notChanged .unwritable) :
    error.filesLeft folder files = files := by
  unfold ChangeError.filesLeft
  split
  . contradiction
  . rfl

theorem Asks.update {text : String} {value record : Value}
    (h : Asks format folder files text value record) :
    update format folder files text value
      =
    if format.writes record then .ok (store format folder files record)
    else .error (.notChanged .unwritable) := by
  obtain ⟨settings, key, coerced, hload, hkey, hcoerce, rfl⟩ := asks_iff.mp h
  exact update_of_coerce hload hkey hcoerce

theorem update_of_not_asks {text : String} {value : Value}
    (h : ∀ record, ¬ Asks format folder files text value record) :
    ∃ error, update format folder files text value = .error error
      ∧ error ≠ .notChanged .unwritable := by
  cases hload : load format folder files with
  | error error =>
    exact ⟨.notLoaded error, by simp [Settings.update, hload, bind, Except.bind, Except.mapError], by simp⟩
  | ok settings =>
    cases hkey : Key.ofText text with
    | error error =>
      have hne : error ≠ .unwritable := fun heq => Key.ofText_ne_unwritable text (heq ▸ hkey)
      exact ⟨.notChanged error, update_error_of_ofText hload hkey, by simp [hne]⟩
    | ok key =>
      cases hcoerce : coerce (settings.get key) value with
      | error error =>
        have hne : error ≠ .unwritable := fun heq => coerce_ne_unwritable _ _ (heq ▸ hcoerce)
        exact ⟨.notChanged error, update_error_of_coerce hload hkey hcoerce, by simp [hne]⟩
      | ok coerced =>
        exact absurd (asks_iff.mpr ⟨settings, key, coerced, hload, hkey, hcoerce, rfl⟩) (h _)

theorem asks_congr {other : Files}
    (h : files.read? folder.settingsFile = other.read? folder.settingsFile) {text : String}
    {value record : Value} :
    Asks format folder files text value record ↔ Asks format folder other text value record := by
  rw [asks_iff, asks_iff, load_congr h]

end

namespace Operation

section

variable {format : Format} {folder : Folder} {environment : Environment} {files other : Files}

/-! ### One operation -/

theorem run_update_of_writes {text : String} {value record : Value}
    (hasks : Asks format folder files text value record) (hwrites : format.writes record) :
    (update text value).run format folder environment files
      =
    (.ok .done, store format folder files record) := by
  rw [run, hasks.update, if_pos hwrites]

theorem run_update_of_not_writes {text : String} {value record : Value}
    (hasks : Asks format folder files text value record) (hwrites : ¬ format.writes record) :
    (update text value).run format folder environment files
      =
    (.error (.notChanged .unwritable), files.write folder.settingsFile "") := by
  rw [run, hasks.update, if_neg hwrites]
  rfl

theorem run_update_of_not_asks (environment : Environment) {text : String} {value : Value}
    (h : ∀ record, ¬ Asks format folder files text value record) :
    ∃ failure, (update text value).run format folder environment files = (.error failure, files) := by
  obtain ⟨error, hupdate, hne⟩ := update_of_not_asks h
  exact ⟨.ofChange error, by simp only [run, hupdate, filesLeft_eq_self hne]⟩

theorem run_update_cases (format : Format) (folder : Folder) (environment : Environment) (files : Files)
    (text : String) (value : Value) :
    (∃ record, Asks format folder files text value record ∧ format.writes record
        ∧ (update text value).run format folder environment files
            =
          (.ok .done, store format folder files record))
      ∨ (∃ record, Asks format folder files text value record ∧ ¬ format.writes record
        ∧ (update text value).run format folder environment files
            =
          (.error (.notChanged .unwritable), files.write folder.settingsFile ""))
      ∨ ((∀ record, ¬ Asks format folder files text value record)
        ∧ ∃ failure,
          (update text value).run format folder environment files = (.error failure, files)) := by
  by_cases hasks : ∃ record, Asks format folder files text value record
  . obtain ⟨record, hasks⟩ := hasks
    by_cases hwrites : format.writes record
    . exact .inl ⟨record, hasks, hwrites, run_update_of_writes hasks hwrites⟩
    . exact .inr (.inl ⟨record, hasks, hwrites, run_update_of_not_writes hasks hwrites⟩)
  . rw [not_exists] at hasks
    exact .inr (.inr ⟨hasks, run_update_of_not_asks environment hasks⟩)

theorem exists_answer_run_update_iff {text : String} {value : Value} :
    (∃ answer, ((update text value).run format folder environment files).1 = .ok answer) ↔
      ∃ record, Asks format folder files text value record ∧ format.writes record := by
  constructor
  . rintro ⟨answer, hanswer⟩
    rcases run_update_cases format folder environment files text value with
      ⟨record, hasks, hwrites, -⟩ | ⟨_, -, -, hrun⟩ | ⟨-, _, hrun⟩
    . exact ⟨record, hasks, hwrites⟩
    . rw [hrun] at hanswer
      cases hanswer
    . rw [hrun] at hanswer
      cases hanswer
  . rintro ⟨record, hasks, hwrites⟩
    exact ⟨.done, congrArg Prod.fst (run_update_of_writes hasks hwrites)⟩

theorem files_run_update_of_error {text : String} {value : Value} {failure : Failure}
    (h : ((update text value).run format folder environment files).1 = .error failure) :
    ((update text value).run format folder environment files).2 = files
      ∨ failure = .notChanged .unwritable
        ∧ (∃ record, Asks format folder files text value record ∧ ¬ format.writes record)
        ∧ ((update text value).run format folder environment files).2
            =
          files.write folder.settingsFile "" := by
  rcases run_update_cases format folder environment files text value with
    ⟨_, -, -, hrun⟩ | ⟨record, hasks, hwrites, hrun⟩ | ⟨-, _, hrun⟩
  . rw [hrun] at h
    cases h
  . rw [hrun, Except.error.injEq] at h
    exact .inr ⟨h.symm, ⟨record, hasks, hwrites⟩, congrArg Prod.snd hrun⟩
  . exact .inl (congrArg Prod.snd hrun)

theorem read?_settingsFile_run {operation : Operation} (h : operation.writesSettings = false) :
    (operation.run format folder environment files).2.read? folder.settingsFile
      =
    files.read? folder.settingsFile := by
  cases operation with
  | save | update => cases h
  | saveToken token? => exact Files.read?_write_of_ne folder.place_ne _ _
  | clearToken => exact Files.read?_remove_of_ne folder.place_ne _
  | load | effective | loadToken | managementToken => rfl

theorem read?_credentialsFile_run {operation : Operation} (h : operation.writesToken = false) :
    (operation.run format folder environment files).2.read? folder.credentialsFile
      =
    files.read? folder.credentialsFile := by
  have hplace := Ne.symm folder.place_ne
  cases operation with
  | save settings => exact Files.read?_write_of_ne hplace _ _
  | update text value =>
    rcases run_update_cases format folder environment files text value with
      ⟨_, -, -, hrun⟩ | ⟨_, -, -, hrun⟩ | ⟨-, _, hrun⟩
    . rw [hrun]
      exact Files.read?_write_of_ne hplace _ _
    . rw [hrun]
      exact Files.read?_write_of_ne hplace _ _
    . rw [hrun]
  | saveToken | clearToken => cases h
  | load | effective | loadToken | managementToken => rfl

theorem files_run {operation : Operation} (hsettings : operation.writesSettings = false)
    (htoken : operation.writesToken = false) :
    (operation.run format folder environment files).2 = files := by
  cases operation with
  | save | update => cases hsettings
  | saveToken | clearToken => cases htoken
  | load | effective | loadToken | managementToken => rfl

/-! ### Runs of operations -/

theorem read?_settingsFile_run_congr (operation : Operation)
    (h : files.read? folder.settingsFile = other.read? folder.settingsFile) :
    (operation.run format folder environment files).2.read? folder.settingsFile
      =
    (operation.run format folder environment other).2.read? folder.settingsFile := by
  by_cases hwrites : operation.writesSettings
  . cases operation with
    | save settings => exact (Files.read?_write ..).trans (Files.read?_write ..).symm
    | update text value =>
      rcases run_update_cases format folder environment files text value with
        ⟨record, hasks, hrecord, hrun⟩ | ⟨record, hasks, hrecord, hrun⟩ | ⟨hasks, _, hrun⟩
      . rw [hrun, run_update_of_writes ((asks_congr h).mp hasks) hrecord, store, store,
          Files.read?_write, Files.read?_write]
      . rw [hrun, run_update_of_not_writes ((asks_congr h).mp hasks) hrecord, Files.read?_write,
          Files.read?_write]
      . simp only [asks_congr h] at hasks
        obtain ⟨_, hother⟩ := run_update_of_not_asks environment hasks
        rw [hrun, hother]
        exact h
    | _ => cases hwrites
  . rw [Bool.not_eq_true] at hwrites
    rw [read?_settingsFile_run hwrites, read?_settingsFile_run hwrites, h]

theorem read?_credentialsFile_run_congr (operation : Operation)
    (h : files.read? folder.credentialsFile = other.read? folder.credentialsFile) :
    (operation.run format folder environment files).2.read? folder.credentialsFile
      =
    (operation.run format folder environment other).2.read? folder.credentialsFile := by
  by_cases hwrites : operation.writesToken
  . cases operation with
    | saveToken token? => exact (Files.read?_write ..).trans (Files.read?_write ..).symm
    | clearToken => exact (Files.read?_remove ..).trans (Files.read?_remove ..).symm
    | _ => cases hwrites
  . rw [Bool.not_eq_true] at hwrites
    rw [read?_credentialsFile_run hwrites, read?_credentialsFile_run hwrites, h]

theorem read?_filesAfter_filter {path : Path} {counts : Operation → Bool}
    (hframe : ∀ (operation : Operation) environment files, counts operation = false →
      (operation.run format folder environment files).2.read? path = files.read? path)
    (hcongr : ∀ (operation : Operation) environment files other, files.read? path = other.read? path →
      (operation.run format folder environment files).2.read? path
        =
      (operation.run format folder environment other).2.read? path)
    (operations : List (Environment × Operation)) (h : files.read? path = other.read? path) :
    (filesAfter format folder files operations).read? path
      =
    (filesAfter format folder other (operations.filter (counts ·.2))).read? path := by
  -- What is carried along is only that the two runs read the same there, not that their files are equal.
  induction operations generalizing files other with
  | nil => exact h
  | cons item rest ih =>
    rcases item with ⟨environment, operation⟩
    by_cases hcounts : counts operation
    . rw [List.filter_cons_of_pos (by exact hcounts)]
      exact ih (hcongr operation environment files other h)
    . rw [List.filter_cons_of_neg (by exact hcounts)]
      rw [Bool.not_eq_true] at hcounts
      exact ih ((hframe operation environment files hcounts).trans h)

theorem filesAfter_append (files : Files) (before after : List (Environment × Operation)) :
    filesAfter format folder files (before ++ after)
      =
    filesAfter format folder (filesAfter format folder files before) after :=
  List.foldl_append

theorem filesAfter_erase {item : Environment × Operation} {before after : List (Environment × Operation)}
    (h : (item.2.run format folder item.1 (filesAfter format folder files before)).2
      = filesAfter format folder files before) :
    filesAfter format folder files (before ++ item :: after)
      =
    filesAfter format folder files (before ++ after) := by
  rw [filesAfter_append, filesAfter_append]
  exact congrArg (filesAfter format folder · after) h

end

/--
What operations do to the two files. An update is made exactly if the stored settings can be loaded, the
key is the name of a part and of a setting in it with a dot between them, the value can be brought to
the kind of that setting, and there is a text for the new record. An update that fails leaves all files
as they were unless there is no such text, when the file of the settings is left empty. The other
operations change at most the file that they are for. So what is in either file after a run is what
the operations for that file alone have made of it, and updates that leave the files as they were may
be taken out.
-/
theorem operations_effect (format : Format) (folder : Folder) (environment : Environment) (files : Files) :
    (∀ text value,
      (∃ answer, ((update text value).run format folder environment files).1 = .ok answer) ↔
        ∃ record, Asks format folder files text value record ∧ format.writes record)
      ∧ (∀ text value failure,
        ((update text value).run format folder environment files).1 = .error failure →
          ((update text value).run format folder environment files).2 = files
            ∨ failure = .notChanged .unwritable
              ∧ (∃ record, Asks format folder files text value record ∧ ¬ format.writes record)
              ∧ ((update text value).run format folder environment files).2
                  =
                files.write folder.settingsFile "")
      ∧ (∀ operation : Operation, operation.writesToken = false →
        (operation.run format folder environment files).2.read? folder.credentialsFile
          =
        files.read? folder.credentialsFile)
      ∧ (∀ operation : Operation, operation.writesSettings = false →
        (operation.run format folder environment files).2.read? folder.settingsFile
          =
        files.read? folder.settingsFile)
      ∧ (∀ operation : Operation, operation.writesSettings = false → operation.writesToken = false →
        (operation.run format folder environment files).2 = files)
      ∧ (∀ operations : List (Environment × Operation),
        (filesAfter format folder files operations).read? folder.settingsFile
            =
          (filesAfter format folder files (operations.filter (writesSettings ·.2))).read?
            folder.settingsFile
        ∧ (filesAfter format folder files operations).read? folder.credentialsFile
            =
          (filesAfter format folder files (operations.filter (writesToken ·.2))).read?
            folder.credentialsFile)
      ∧ (∀ before after text value failure,
        ((update text value).run format folder environment (filesAfter format folder files before)).1
            = .error failure →
        failure ≠ .notChanged .unwritable →
          filesAfter format folder files (before ++ (environment, update text value) :: after)
            =
          filesAfter format folder files (before ++ after)) := by
  refine ⟨fun _ _ => exists_answer_run_update_iff, fun _ _ _ => files_run_update_of_error,
    fun _ => read?_credentialsFile_run, fun _ => read?_settingsFile_run, fun _ => files_run, ?_, ?_⟩
  . intro operations
    exact ⟨read?_filesAfter_filter (fun _ _ _ => read?_settingsFile_run)
        (fun operation _ _ _ => read?_settingsFile_run_congr operation) operations rfl,
      read?_filesAfter_filter (fun _ _ _ => read?_credentialsFile_run)
        (fun operation _ _ _ => read?_credentialsFile_run_congr operation) operations rfl⟩
  . intro before after text value failure hfailure hne
    rcases files_run_update_of_error hfailure with hfiles | ⟨heq, -⟩
    . exact filesAfter_erase hfiles
    . exact absurd heq hne

def spaceFiles : Files :=
  ({} : Files).write (Folder.settingsFile ⟨{}⟩) "contentful:\n  space_id: abc\n"

theorem load_spaceFiles : Settings.load yaml ⟨{}⟩ spaceFiles = .ok { entry.spaceId := "abc" } := by
  decide +kernel

theorem operations_effect_misspeltKey :
    let misspelt := (({} : Environment), update "contentful.local" (.str "de"))
    let written := (({} : Environment), update "contentful.locale" (.str "de"))
    let token := (({} : Environment), saveToken (some "secret"))
    (∃ answer, (written.2.run yaml ⟨{}⟩ {} spaceFiles).1 = .ok answer)
      ∧ filesAfter yaml ⟨{}⟩ spaceFiles ([token] ++ misspelt :: [written])
          =
        filesAfter yaml ⟨{}⟩ spaceFiles ([token] ++ [written])
      ∧ (filesAfter yaml ⟨{}⟩ spaceFiles [token, written]).read? (Folder.settingsFile ⟨{}⟩)
          =
        (filesAfter yaml ⟨{}⟩ spaceFiles [written]).read? (Folder.settingsFile ⟨{}⟩) := by
  intro misspelt written token
  obtain ⟨hmade, -, -, -, -, hruns, herase⟩ := operations_effect yaml ⟨{}⟩ {} spaceFiles
  have hkey : Key.ofText "contentful.locale" = .ok .locale := Key.ofText_eq_ok_iff.mpr rfl
  have hmisspelt :
      Key.ofText "contentful.local" = .error (.unknownSetting "local" "contentful") := rfl
  have hasks :
      Asks yaml ⟨{}⟩ spaceFiles "contentful.locale" (.str "de")
        (({ entry.spaceId := "abc" } : Settings).replaced .locale (.str "de")) :=
    asks_iff.mpr ⟨_, _, _, load_spaceFiles, hkey, rfl, rfl⟩
  have hload :
      Settings.load yaml ⟨{}⟩ (filesAfter yaml ⟨{}⟩ spaceFiles [token])
        =
      .ok { entry.spaceId := "abc" } :=
    (load_congr (hruns [token]).1).trans load_spaceFiles
  have hfailure :
      (misspelt.2.run yaml ⟨{}⟩ {} (filesAfter yaml ⟨{}⟩ spaceFiles [token])).1
        =
      .error (.notChanged (.unknownSetting "local" "contentful")) := by
    simp only [misspelt, run, update_error_of_ofText hload hmisspelt, Failure.ofChange]
  exact ⟨(hmade _ _).mpr ⟨_, hasks, by decide +kernel⟩, herase [token] [written] _ _ _ hfailure (by simp),
    (hruns [token, written]).1⟩

/--
An update whose key and value nothing is wrong with fails, and the space that was stored before is
lost.
-/
theorem space_lost_after_update :
    Asks yaml ⟨{}⟩ spaceFiles "validation.max_line_length" (.int leastUntellable)
        (({ entry.spaceId := "abc" } : Settings).replaced .maxLineLength (.int leastUntellable))
      ∧ (update "validation.max_line_length" (.int leastUntellable)).run yaml ⟨{}⟩ {} spaceFiles
          =
        (.error (.notChanged .unwritable), spaceFiles.write (Folder.settingsFile ⟨{}⟩) "")
      ∧ spaceFiles.read? (Folder.settingsFile ⟨{}⟩) = some "contentful:\n  space_id: abc\n"
      ∧ (spaceFiles.write (Folder.settingsFile ⟨{}⟩) "").read? (Folder.settingsFile ⟨{}⟩) = some ""
      ∧ Settings.load yaml ⟨{}⟩ (spaceFiles.write (Folder.settingsFile ⟨{}⟩) "") = .ok {} := by
  have hkey : Key.ofText "validation.max_line_length" = .ok .maxLineLength := Key.ofText_eq_ok_iff.mpr rfl
  have hasks :
      Asks yaml ⟨{}⟩ spaceFiles "validation.max_line_length" (.int leastUntellable)
        (({ entry.spaceId := "abc" } : Settings).replaced .maxLineLength (.int leastUntellable)) :=
    asks_iff.mpr ⟨_, _, _, load_spaceFiles, hkey, rfl, rfl⟩
  have hwrites :
      ¬ yaml.writes
        (({ entry.spaceId := "abc" } : Settings).replaced .maxLineLength (.int leastUntellable)) := by
    decide +kernel
  exact ⟨hasks, run_update_of_not_writes hasks hwrites, Files.read?_write .., Files.read?_write ..,
    by decide⟩

end Operation

end MarkdownIntake.Settings
