import MarkdownIntake.Proofs.Command.Session
import MarkdownIntake.Proofs.Settings.Stored
import MarkdownIntake.Proofs.Storage.Files

/-!
This module contains runs side by side. What two runs have done so far is compared by a relation, and the
steps that both of them make keep every relation that sees no more than a run itself does.
-/

namespace MarkdownIntake.Command

open MarkdownIntake.Storage

/-! ### Relations between runs -/

/-- All that can be seen of a run from outside: the files and the calls are left out. -/
def Progress.open (progress : Progress) : Progress :=
  { progress with world := { progress.world with files := {} }, calls := [] }

/-- A change that no later step reads: to what is printed, logged or requested. -/
structure Aside (change : Progress → Progress) : Prop where
  files : ∀ progress, (change progress).world.files = progress.world.files
  input : ∀ progress, (change progress).input = progress.input
  open_eq : ∀ progress, (change progress).open = (change progress.open).open

/-- What is compared between two runs: their files, what they have done so far, and how they stop. -/
structure Pairing (format : Settings.Format) (folder : Settings.Folder) where
  ofFiles : Files → Files → Prop
  ofProgress : Progress → Progress → Prop
  ofStops : Stop → Stop → Prop
  stop_self (stop : Stop) : ofStops stop stop
  places {files other : Files} : ofFiles files other → files.SamePlaces other
  load {files other : Files} : ofFiles files other →
    Settings.load format folder files = Settings.load format folder other
  write {files other : Files} : ofFiles files other → ∀ path text,
    ofFiles (files.write path text) (other.write path text)
  remove {files other : Files} : ofFiles files other → ∀ path,
    ofFiles (files.remove path) (other.remove path)
  input_eq {first second : Progress} : ofProgress first second → first.input = second.input
  files_of {first second : Progress} : ofProgress first second →
    ofFiles first.world.files second.world.files
  aside {first second : Progress} {change : Progress → Progress} : Aside change →
    ofProgress first second → ofProgress (change first) (change second)
  withInput {first second : Progress} : ofProgress first second → ∀ input,
    ofProgress { first with input } { second with input }
  withFiles {first second : Progress} {files other : Files} : ofProgress first second →
    ofFiles files other → ofProgress { first with world := { first.world with files } }
      { second with world := { second.world with files := other } }

inductive SameEnd {α : Type} (stops : Stop → Stop → Prop) (related : α → α → Prop) :
    Except Stop α → Except Stop α → Prop where
  | ok {a b : α} (h : related a b) : SameEnd stops related (.ok a) (.ok b)
  | error {stop other : Stop} (h : stops stop other) : SameEnd stops related (.error stop) (.error other)

/-- Two runs that start as a pair end as one, and both go through, with related results, or both stop. -/
def Paired {α : Type} {format : Settings.Format} {folder : Settings.Folder}
    (pairing : Pairing format folder) (part other : Run α) (related : α → α → Prop) : Prop :=
  ∀ first second : Progress, pairing.ofProgress first second →
    SameEnd pairing.ofStops related ((ExceptT.run part).run first).1 ((ExceptT.run other).run second).1
      ∧ pairing.ofProgress ((ExceptT.run part).run first).2 ((ExceptT.run other).run second).2

section

variable {α β : Type} {format : Settings.Format} {folder : Settings.Folder}
variable {pairing : Pairing format folder} {related : α → α → Prop} {relatedNext : β → β → Prop}

namespace Paired

protected theorem pure {a b : α} (h : related a b) : Paired pairing (pure a) (pure b) related :=
  fun _ _ hpair => ⟨.ok h, hpair⟩

theorem throw_of_stops {stop other : Stop} (h : pairing.ofStops stop other) :
    Paired pairing (throw stop) (throw other) related :=
  fun _ _ hpair => ⟨.error h, hpair⟩

protected theorem throw (stop : Stop) : Paired pairing (throw stop) (throw stop) related :=
  throw_of_stops (pairing.stop_self stop)

protected theorem bind {part other : Run α} {next otherNext : α → Run β}
    (h : Paired pairing part other related)
    (hnext : ∀ a b, related a b → Paired pairing (next a) (otherNext b) relatedNext) :
    Paired pairing (part >>= next) (other >>= otherNext) relatedNext := by
  intro first second hpair
  have hparts := h first second hpair
  rw [Run.run_bind, Run.run_bind]
  generalize (ExceptT.run part).run first = ended at hparts ⊢
  generalize (ExceptT.run other).run second = otherEnded at hparts ⊢
  rcases ended with ⟨result, later⟩
  rcases otherEnded with ⟨otherResult, otherLater⟩
  obtain ⟨hend, hlater⟩ := hparts
  cases hend with
  | ok hab => exact hnext _ _ hab later otherLater hlater
  | error hstops => exact ⟨.error hstops, hlater⟩

theorem mono {part other : Run α} {weaker : α → α → Prop} (h : Paired pairing part other related)
    (hweaker : ∀ a b, related a b → weaker a b) : Paired pairing part other weaker := by
  intro first second hpair
  obtain ⟨hend, hlater⟩ := h first second hpair
  refine ⟨?_, hlater⟩
  generalize ((ExceptT.run part).run first).1 = result at hend
  generalize ((ExceptT.run other).run second).1 = otherResult at hend
  cases hend with
  | ok hab => exact .ok (hweaker _ _ hab)
  | error hstops => exact .error hstops

theorem ite {condition : Prop} [Decidable condition] {part other next otherNext : Run α}
    (h : Paired pairing part other related) (hnext : Paired pairing next otherNext related) :
    Paired pairing (if condition then part else next) (if condition then other else otherNext)
      related := by
  split
  . exact h
  . exact hnext

theorem optional {done : Prop} [Decidable done] {part other : Run Unit} {next otherNext : Unit → Run β}
    (h : Paired pairing part other Eq) (hnext : Paired pairing (next ()) (otherNext ()) relatedNext) :
    Paired pairing (if done then next () else part >>= fun r => next r)
      (if done then otherNext () else other >>= fun r => otherNext r) relatedNext :=
  Paired.ite hnext (h.bind fun _ _ _ => hnext)

theorem onlyIf {condition : Prop} [Decidable condition] {part other : Run Unit}
    {next otherNext : Unit → Run β} (h : Paired pairing part other Eq)
    (hnext : Paired pairing (next ()) (otherNext ()) relatedNext) :
    Paired pairing (if condition then part >>= fun r => next r else next ())
      (if condition then other >>= fun r => otherNext r else otherNext ()) relatedNext :=
  Paired.ite (h.bind fun _ _ _ => hnext) hnext

theorem aside {change : Progress → Progress} (h : Aside change) :
    Paired pairing (modify change : Run Unit) (modify change) Eq :=
  fun _ _ hpair => ⟨.ok rfl, pairing.aside h hpair⟩

end Paired

namespace Pairing

variable {files other : Files}

theorem update (pairing : Pairing format folder) (h : pairing.ofFiles files other) (key : String)
    (value : Json.Value) :
    (∃ record, Settings.update format folder files key value
        = .ok (Settings.store format folder files record)
      ∧ Settings.update format folder other key value
        = .ok (Settings.store format folder other record))
      ∨ (∃ error, Settings.update format folder files key value = .error error
        ∧ Settings.update format folder other key value = .error error) :=
  Settings.update_congr (pairing.load h) key value

theorem filesLeft (pairing : Pairing format folder) (h : pairing.ofFiles files other)
    (error : Settings.ChangeError) :
    pairing.ofFiles (error.filesLeft folder files) (error.filesLeft folder other) := by
  unfold Settings.ChangeError.filesLeft
  split
  . exact pairing.write h _ _
  . exact h

end Pairing

/-! ### Single steps -/

namespace Run

variable {ε : Type}

theorem paired_say (text : String) : Paired pairing (say text) (say text) Eq :=
  Paired.aside ⟨fun _ => rfl, fun _ => rfl, fun _ => rfl⟩

theorem paired_complain (text : String) : Paired pairing (complain text) (complain text) Eq :=
  Paired.aside ⟨fun _ => rfl, fun _ => rfl, fun _ => rfl⟩

theorem paired_fail (message : String) (hint : Option String) :
    Paired pairing (fail message hint) (fail message hint) related :=
  (paired_complain _).bind fun _ _ _ => Paired.throw _

theorem paired_abort : Paired pairing abort abort related :=
  (paired_complain _).bind fun _ _ _ => Paired.throw _

theorem paired_files : Paired pairing files files pairing.ofFiles :=
  fun _ _ hpair => ⟨.ok (pairing.files_of hpair), hpair⟩

theorem paired_setFiles {files other : Files} (h : pairing.ofFiles files other) :
    Paired pairing (setFiles files) (setFiles other) Eq :=
  fun _ _ hpair => ⟨.ok rfl, pairing.withFiles hpair h⟩

theorem paired_orCrash (toCrash : ε → Crash) (result : Except ε α) :
    Paired pairing (orCrash toCrash result) (orCrash toCrash result) Eq := by
  cases result with
  | error error => exact Paired.throw _
  | ok a => exact Paired.pure rfl

theorem paired_readLine : Paired pairing readLine readLine Eq := by
  rintro ⟨_, input, _, _, _, _, _, _⟩ ⟨_, _, _, _, _, _, _, _⟩ hpair
  obtain rfl := pairing.input_eq hpair
  cases input with
  | nil => exact ⟨.ok rfl, hpair⟩
  | cons line rest => exact ⟨.ok rfl, pairing.withInput hpair rest⟩

theorem paired_ask (question : String) : Paired pairing (ask question) (ask question) Eq := by
  apply (paired_say _).bind
  rintro _ _ -
  apply paired_readLine.bind
  rintro line? _ rfl
  cases line? with
  | none => exact paired_abort
  | some line => exact (paired_say _).bind fun _ _ _ => Paired.pure rfl

theorem paired_answered (read : String × Option α × List String) :
    Paired pairing (answered read) (answered read) Eq := by
  apply (paired_say _).bind
  rintro _ _ -
  cases read.2.1 with
  | none => exact paired_abort
  | some answer => exact Paired.pure rfl

theorem paired_asked (read : List String → String × Option α × List String) :
    Paired pairing (asked read) (asked read) Eq := by
  rintro ⟨_, input, _, _, _, _, _, _⟩ ⟨_, _, _, _, _, _, _, _⟩ hpair
  obtain rfl := pairing.input_eq hpair
  exact paired_answered (read input) _ _ (pairing.withInput hpair _)

theorem paired_logAll (verbose : Bool) (level : Level) (texts : List String) :
    Paired pairing (logAll verbose level texts) (logAll verbose level texts) Eq :=
  Paired.ite (Paired.aside ⟨fun _ => rfl, fun _ => rfl, fun _ => rfl⟩) (Paired.pure rfl)

theorem paired_log (verbose : Bool) (level : Level) (text : String) :
    Paired pairing (log verbose level text) (log verbose level text) Eq :=
  paired_logAll verbose level [text]

theorem paired_applyOutput {settings other : Settings} (h : settings.output = other.output)
    (verbose : Bool) : Paired pairing (applyOutput settings verbose) (applyOutput other verbose) Eq := by
  unfold applyOutput
  rw [h]
  refine (Paired.aside ⟨?_, ?_, ?_⟩).bind fun _ _ _ => Paired.pure rfl
  iterate 3 exact fun _ => rfl

theorem paired_write {files other : Files} (h : pairing.ofFiles files other) (path : Path)
    (text : String) :
    Paired pairing (orCrash .notWritten (files.write? path text))
      (orCrash .notWritten (other.write? path text)) pairing.ofFiles := by
  unfold Files.write?
  rw [(pairing.places h).obstacle?]
  cases other.obstacle? path with
  | none => exact Paired.pure (pairing.write h path text)
  | some error => exact Paired.throw _

end Run

end

/-! ### Commands -/

/-- Settings that differ at most in the place that an import goes to. -/
def SameButTarget (settings other : Settings) : Prop :=
  ∃ spaceId environmentId,
    other = { settings with entry := { settings.entry with spaceId, environmentId } }

protected theorem SameButTarget.refl (settings : Settings) : SameButTarget settings settings :=
  ⟨_, _, rfl⟩

namespace Run

variable (outside : Outside) {pairing : Pairing outside.format outside.folder}

theorem paired_download (url : String) {settings other : Settings} (h : settings.timeout = other.timeout)
    (quiet verbose : Bool) :
    Paired pairing (download outside url settings quiet verbose)
      (download outside url other quiet verbose) Eq := by
  unfold download
  rw [h]
  obtain ⟨requests, result⟩ := Web.download outside.replies url other.timeout
  apply Paired.optional (paired_say _)
  refine (Paired.aside ⟨?_, ?_, ?_⟩).bind ?_
  iterate 3 exact fun _ => rfl
  rintro _ _ -
  dsimp only
  split
  . exact (paired_log verbose .debug _).bind fun _ _ _ =>
      Paired.optional (paired_say _) (Paired.pure rfl)
  . exact Paired.throw _
  . exact Paired.throw _
  . exact (paired_logAll verbose .warning _).bind fun _ _ _ => paired_fail _ _

theorem paired_reviewed (markdown title : String) {settings other : Settings}
    (h : settings.limits = other.limits) (verbose : Bool) :
    Paired pairing (reviewed markdown title settings verbose) (reviewed markdown title other verbose)
      Eq := by
  unfold reviewed
  rw [h]
  exact (paired_logAll verbose .debug _).bind fun _ _ _ => paired_orCrash _ _

theorem paired_exportFindings {files other : Files} (h : pairing.ofFiles files other)
    (findings : List Review.Finding) (path : Path) :
    Paired pairing (orCrash .notWritten (Review.exportFindings findings path files))
      (orCrash .notWritten (Review.exportFindings findings path other)) (Option.Rel pairing.ofFiles) := by
  unfold Review.exportFindings
  split
  . exact Paired.pure .none
  . unfold Files.write?
    rw [(pairing.places h).obstacle?]
    cases other.obstacle? path with
    | none => exact Paired.pure (.some (pairing.write h path _))
    | some error => exact Paired.throw _

theorem paired_exportReview (review : Review.Assessment) (path : Path) (quiet verbose : Bool) :
    Paired pairing (exportReview review path quiet verbose) (exportReview review path quiet verbose)
      Eq := by
  apply paired_files.bind
  intro files other hfiles
  apply (paired_exportFindings outside hfiles _ _).bind
  rintro _ _ (hwritten | _)
  . apply (paired_setFiles hwritten).bind
    rintro _ _ -
    exact (paired_log verbose .info _).bind fun _ _ _ =>
      Paired.optional (paired_say _) (Paired.pure rfl)
  . exact (paired_log verbose .info _).bind fun _ _ _ =>
      Paired.optional (paired_say _) (Paired.pure rfl)

theorem paired_validate (options : Validate)
    (hsettings : ∀ overrides, Paired pairing (settings outside overrides) (settings outside overrides)
      SameButTarget) :
    Paired pairing (validate outside options) (validate outside options) Eq := by
  apply (hsettings _).bind
  rintro settings _ ⟨spaceId, environmentId, rfl⟩
  apply (paired_applyOutput rfl _).bind
  rintro verbose _ rfl
  apply (paired_download outside _ rfl _ _).bind
  rintro markdown _ rfl
  apply (paired_reviewed outside _ _ rfl _).bind
  rintro review _ rfl
  apply (paired_orCrash _ _).bind
  rintro text _ rfl
  apply (paired_say _).bind
  rintro _ _ -
  exact Paired.onlyIf (paired_exportReview outside review _ _ _)
    (Paired.ite (Paired.pure rfl) (Paired.throw _))

theorem paired_address (options : Generate) :
    Paired pairing (address options) (address options) Eq := by
  unfold address
  split
  . exact Paired.pure rfl
  . apply (paired_say _).bind
    rintro _ _ -
    apply (paired_ask _).bind
    rintro line _ rfl
    exact Paired.ite (paired_fail _ _) (Paired.pure rfl)

theorem paired_checkFirst (options : Generate) (markdown title : String) {settings other : Settings}
    (h : SameButTarget settings other) (verbose : Bool) :
    Paired pairing (checkFirst options markdown title settings verbose)
      (checkFirst options markdown title other verbose) Eq := by
  obtain ⟨spaceId, environmentId, rfl⟩ := h
  apply Paired.ite
  . apply (paired_reviewed outside _ _ rfl _).bind
    rintro review _ rfl
    apply (paired_orCrash _ _).bind
    rintro text _ rfl
    apply (paired_say _).bind
    rintro _ _ -
    exact Paired.onlyIf (paired_exportReview outside review _ _ _)
      (Paired.ite (Paired.pure rfl) (paired_fail _ _))
  . exact Paired.ite (paired_complain _) (Paired.pure rfl)

theorem paired_generate (options : Generate)
    (hsettings : ∀ overrides, Paired pairing (settings outside overrides) (settings outside overrides)
      SameButTarget) :
    Paired pairing (generate outside options) (generate outside options) Eq := by
  apply (hsettings _).bind
  rintro settings _ ⟨spaceId, environmentId, rfl⟩
  apply (paired_applyOutput rfl _).bind
  rintro verbose _ rfl
  apply (paired_address outside options).bind
  rintro url _ rfl
  apply (paired_download outside _ rfl _ _).bind
  rintro markdown _ rfl
  apply (paired_checkFirst outside options _ _ ⟨spaceId, environmentId, rfl⟩ _).bind
  rintro _ _ -
  apply paired_files.bind
  intro files other hfiles
  apply (paired_write hfiles _ _).bind
  intro written otherWritten hwritten
  apply (paired_setFiles hwritten).bind
  rintro _ _ -
  exact (paired_log verbose .info _).bind fun _ _ _ => paired_say _

theorem paired_changeSetting (key value : String) :
    Paired pairing (changeSetting outside key value) (changeSetting outside key value) Eq := by
  apply paired_files.bind
  intro files other hfiles
  rcases pairing.update hfiles key (.str value) with
    ⟨record, hupdate, hotherUpdate⟩ | ⟨error, hupdate, hotherUpdate⟩
  . rw [hupdate, hotherUpdate]
    exact (paired_setFiles (pairing.write hfiles _ _)).bind fun _ _ _ => paired_say _
  . rw [hupdate, hotherUpdate]
    apply paired_files.bind
    intro files other hfiles
    apply (paired_setFiles (pairing.filesLeft hfiles error)).bind
    rintro _ _ -
    split
    . exact Paired.throw _
    . exact Paired.throw _
    . exact Paired.throw _
    . exact paired_fail _ _

theorem paired_storeGiven {related : Option String → Option String → Prop}
    (htoken : Paired pairing (token? outside) (token? outside) related) {token otherToken : String}
    (hsave : ∀ files other, pairing.ofFiles files other →
      pairing.ofFiles (Settings.saveToken outside.format outside.folder files (some token))
        (Settings.saveToken outside.format outside.folder other (some otherToken)))
    (hasSurplus : Bool) :
    Paired pairing (storeGiven outside hasSurplus token) (storeGiven outside hasSurplus otherToken)
      Eq := by
  apply Paired.onlyIf (Paired.throw _)
  apply htoken.bind
  rintro _ _ -
  apply paired_files.bind
  intro files other hfiles
  apply (paired_setFiles (hsave files other hfiles)).bind
  rintro _ _ -
  exact (paired_say _).bind fun _ _ _ => paired_say _

theorem paired_storeToken {related : Option String → Option String → Prop}
    (htoken : Paired pairing (token? outside) (token? outside) related) (token? : Option String)
    (hasSurplus : Bool) :
    Paired pairing (storeToken outside token? hasSurplus) (storeToken outside token? hasSurplus) Eq := by
  have hstore (token : String) :
      Paired pairing (storeGiven outside hasSurplus token) (storeGiven outside hasSurplus token) Eq :=
    paired_storeGiven outside htoken (fun _ _ hfiles => pairing.write hfiles _ _) hasSurplus
  rw [storeToken_eq]
  cases token? with
  | some token => exact hstore token
  | none =>
    apply (paired_asked _).bind
    rintro token _ rfl
    exact hstore token

theorem paired_clearCredentials (force : Bool) :
    Paired pairing (clearCredentials outside force) (clearCredentials outside force) Eq := by
  have hremove : Paired pairing (removeStored outside) (removeStored outside) Eq := by
    apply paired_files.bind
    intro files other hfiles
    exact (paired_setFiles (pairing.remove hfiles _)).bind fun _ _ _ => paired_say _
  rw [clearCredentials_eq]
  apply Paired.ite hremove
  apply (paired_asked _).bind
  rintro answer _ rfl
  exact Paired.optional paired_abort hremove

end Run

end MarkdownIntake.Command
