import MarkdownIntake.Proofs.Command.Import
import MarkdownIntake.Proofs.Command.ShowSame

/-!
This module contains what a push reveals of its token. All that it prints is the same for two tokens that
look alike, but a verbose run logs the command, and there the token is not hidden if another word is named
as the token option is.
-/

namespace MarkdownIntake.Import

/-- The token that is not hidden where the command of a push is logged. -/
def Target.revealed? (program : Program) (target : Target) (file : String) : Option String :=
  match push program target file with
  | .error _ => none
  | .ok _ =>
    if tokenOption ∈ [target.spaceId, target.environmentId, file] then
      target.managementToken.filter (!·.isEmpty)
    else
      none

def shownText (words : List String) : String :=
  "Running " ++ String.intercalate " " (masked words)

theorem exists_masked_eq_append {words : List String} (h : tokenOption ∈ words) (option : String) :
    ∃ before, before ≠ [] ∧ ∀ token, masked (words ++ [option, token]) = before ++ [token] := by
  induction words with
  | nil => simp at h
  | cons word rest ih =>
    by_cases hword : word = tokenOption
    . subst hword
      cases rest with
      | nil => exact ⟨[tokenOption, hiddenToken], by simp, fun token => masked_tokenOption_cons _ _⟩
      | cons next rest =>
        refine ⟨tokenOption :: hiddenToken :: rest ++ [option], by simp, fun token => ?_⟩
        simp [masked_tokenOption_cons]
    . obtain ⟨before, -, hmasked⟩ := ih ((List.mem_cons.mp h).resolve_left (Ne.symm hword))
      refine ⟨word :: before, by simp, fun token => ?_⟩
      rw [List.cons_append, masked_cons_of_ne hword, hmasked, List.cons_append]

section

variable {spaceId environmentId file : String}

theorem shownText_bareCommand_eq_iff (h : tokenOption ∈ [spaceId, environmentId, file])
    (token other : String) :
    shownText (bareCommand spaceId environmentId file ++ [tokenOption, token])
        = shownText (bareCommand spaceId environmentId file ++ [tokenOption, other])
      ↔
    token = other := by
  rw [← mem_bareCommand_iff] at h
  obtain ⟨before, hbefore, hmasked⟩ := exists_masked_eq_append h tokenOption
  rw [shownText, shownText, hmasked, hmasked, String.append_right_inj,
    String.intercalate_append_of_ne_nil hbefore (by simp),
    String.intercalate_append_of_ne_nil hbefore (by simp), String.append_right_inj,
    String.intercalate_singleton, String.intercalate_singleton]

theorem shownText_bareCommand_congr (h : tokenOption ∉ [spaceId, environmentId, file])
    (token other : String) :
    shownText (bareCommand spaceId environmentId file ++ [tokenOption, token])
      =
    shownText (bareCommand spaceId environmentId file ++ [tokenOption, other]) := by
  rw [shownText, shownText, masked_bareCommand h, masked_bareCommand h]

end

end MarkdownIntake.Import

namespace MarkdownIntake.Command

open MarkdownIntake.Import MarkdownIntake.Storage

/-! ### Two pushes with tokens that look alike -/

section

variable {spaceId environmentId file : String}

theorem isPassable_congr {token? other? : Option String} (h : Option.Rel Lookalike token? other?) :
    (Import.callOf (bareCommand spaceId environmentId file ++ tokenWords token?)).isPassable
      =
    (Import.callOf (bareCommand spaceId environmentId file ++ tokenWords other?)).isPassable := by
  cases h with
  | none => rfl
  | some h =>
    rw [Bool.eq_iff_iff, Import.isPassable_iff, Import.isPassable_iff]
    simp [List.reduceOption, h.hasZero]

theorem shownText_eq_iff {token? other? : Option String} (h : Option.Rel Lookalike token? other?) :
    shownText (bareCommand spaceId environmentId file ++ tokenWords token?)
        = shownText (bareCommand spaceId environmentId file ++ tokenWords other?)
      ↔
    (if tokenOption ∈ [spaceId, environmentId, file] then token? else none)
      = if tokenOption ∈ [spaceId, environmentId, file] then other? else none := by
  cases h with
  | none => simp
  | some h =>
    by_cases hoption : tokenOption ∈ [spaceId, environmentId, file]
    . rw [if_pos hoption, if_pos hoption, Option.some.injEq]
      exact shownText_bareCommand_eq_iff hoption _ _
    . rw [if_neg hoption, if_neg hoption]
      exact iff_of_true (shownText_bareCommand_congr hoption _ _) rfl

end

def withToken (target : Target) (token? : Option String) : Target :=
  { target with managementToken := token? }

/--
Two pushes that differ in such tokens cannot be made for the same reason, or both are made, and what is
logged before is the same exactly if the same token is revealed.
-/
theorem push_lookalike (program : Program) (target : Target) {other? : Option String}
    (h : Option.Rel Lookalike target.managementToken other?) (file : String) :
    (∃ error, push program target file = .error error
        ∧ push program (withToken target other?) file = .error error)
      ∨ ∃ words others,
        push program target file
            = .ok (Import.callOf words, pushResult words defaultTimeout program.ending)
          ∧ push program (withToken target other?) file
            = .ok (Import.callOf others, pushResult others defaultTimeout program.ending)
          ∧ (Import.callOf words).isPassable = (Import.callOf others).isPassable
          ∧ (shownText words = shownText others ↔
            target.revealed? program file = (withToken target other?).revealed? program file) := by
  obtain ⟨spaceId, environmentId, token?⟩ := target
  dsimp only [withToken] at h ⊢
  by_cases hinstalled : program.installed
  . by_cases hspace : spaceId = ""
    . exact .inl ⟨.noSpace, by simp [push, command, hinstalled, hspace, bind, Except.bind],
        by simp [push, command, hinstalled, hspace, bind, Except.bind]⟩
    . by_cases henvironment : environmentId = ""
      . exact .inl ⟨.noEnvironment,
          by simp [push, command, hinstalled, hspace, henvironment, bind, Except.bind],
          by simp [push, command, hinstalled, hspace, henvironment, bind, Except.bind]⟩
      . have hpush (token? : Option String) :
            push program { spaceId, environmentId, managementToken := token? } file
              =
            .ok (Import.callOf (bareCommand spaceId environmentId file
                ++ tokenWords (token?.filter (!·.isEmpty))),
              pushResult (bareCommand spaceId environmentId file
                ++ tokenWords (token?.filter (!·.isEmpty))) defaultTimeout program.ending) := by
          rw [push, if_pos hinstalled, Import.command_eq hspace henvironment]
          rfl
        refine .inr ⟨_, _, hpush token?, hpush other?, ?_, ?_⟩
        . exact isPassable_congr (Lookalike.filter_isEmpty h)
        . unfold Target.revealed?
          rw [hpush, hpush]
          exact shownText_eq_iff (Lookalike.filter_isEmpty h)
  . exact .inl ⟨.noProgram, by simp [push, hinstalled], by simp [push, hinstalled]⟩

namespace Run

variable (outside : Outside) {format : Settings.Format} {folder : Settings.Folder}

theorem showSame_logShown {words others : List String} {verbose : Bool}
    (h : verbose = true → shownText words = shownText others) (timeout : Int) (ending : Ending) :
    ShowSame format folder
      (log verbose .info
        ("Running " ++ String.intercalate " " (pushResult words timeout ending).shownCommand))
      (log verbose .info
        ("Running " ++ String.intercalate " " (pushResult others timeout ending).shownCommand)) Eq := by
  rw [shownCommand_pushResult, shownCommand_pushResult, ← shownText, ← shownText]
  cases verbose with
  | false => exact Paired.pure rfl
  | true =>
    rw [h rfl]
    exact paired_log true .info _

theorem showSame_pushTo {target : Target} {other? : Option String}
    (h : Option.Rel Lookalike target.managementToken other?) (path : Path) {verbose : Bool}
    (hrevealed : verbose = true →
      target.revealed? outside.program path.text
        = (withToken target other?).revealed? outside.program path.text) :
    ShowSame format folder (pushTo outside target path verbose)
      (pushTo outside (withToken target other?) path verbose) Eq := by
  unfold pushTo
  rcases push_lookalike outside.program target h path.text with
    ⟨error, hpush, hother⟩ | ⟨words, others, hpush, hother, hpassable, hshown⟩
  . rw [hpush, hother]
    have hstop : ShowSame format folder (orCrash .notPushed (.error error) : Run (Call × PushResult))
        (orCrash .notPushed (.error error)) fun _ _ => False :=
      Paired.throw _
    exact hstop.bind nofun
  . obtain ⟨hsuccess, herror⟩ :=
      pushResult_said_congr words others defaultTimeout outside.program.ending
    rw [hpush, hother]
    simp only [orCrash, pure_bind]
    apply (showSame_logShown (fun hverbose => hshown.mpr (hrevealed hverbose)) _ _).bind
    rintro _ _ -
    rw [hpassable, hsuccess, herror]
    apply Paired.optional (Paired.throw _)
    apply (showSame_addCall _ _).bind
    rintro _ _ -
    apply (paired_logAll verbose .warning _).bind
    rintro _ _ -
    apply (paired_say _).bind
    rintro _ _ -
    exact Paired.optional (paired_fail _ _) (paired_say _)

end Run

/-! ### What comes before a push -/

namespace Run

variable {α β γ : Type}

def GoesOn (whole : Run γ) (part : Run β) (next : β → Run γ) : Prop :=
  whole = part >>= next

namespace GoesOn

protected theorem pure (b : β) (next : β → Run γ) : GoesOn (next b) (pure b) next :=
  (pure_bind b next).symm

protected theorem bind {first : Run α} {whole : α → Run γ} {part : α → Run β} {next : β → Run γ}
    (h : ∀ a, GoesOn (whole a) (part a) next) : GoesOn (first >>= whole) (first >>= part) next := by
  unfold GoesOn
  rw [bind_assoc]
  exact bind_congr h

theorem optional {done : Prop} [Decidable done] {first : Run Unit} {whole : Unit → Run γ}
    {part : Unit → Run β} {next : β → Run γ} (h : ∀ r, GoesOn (whole r) (part r) next) :
    GoesOn (if done then whole () else first >>= fun r => whole r)
      (if done then part () else first >>= fun r => part r) next := by
  split
  . exact h ()
  . exact GoesOn.bind h

theorem onlyIf {condition : Prop} [Decidable condition] {first : Run Unit} {whole : Unit → Run γ}
    {part : Unit → Run β} {next : β → Run γ} (h : ∀ r, GoesOn (whole r) (part r) next) :
    GoesOn (if condition then first >>= fun r => whole r else whole ())
      (if condition then first >>= fun r => part r else part ()) next := by
  split
  . exact GoesOn.bind h
  . exact h ()

end GoesOn

def prepared (outside : Outside) (options : Import) : Run (Target × Path × Bool) :=
  withPrepared outside options fun target path verbose => pure (target, path, verbose)

theorem importFile_eq (outside : Outside) (options : Import) :
    importFile outside options
      =
    prepared outside options >>= fun ready => pushTo outside ready.1 ready.2.1 ready.2.2 := by
  apply GoesOn.bind
  intro _
  apply GoesOn.bind
  intro settings
  apply GoesOn.bind
  intro verbose
  apply GoesOn.bind
  intro files
  apply GoesOn.optional
  intro _
  apply GoesOn.onlyIf
  intro _
  apply GoesOn.optional
  intro _
  apply GoesOn.bind
  intro _
  apply GoesOn.bind
  intro files
  apply GoesOn.bind
  intro environment
  apply GoesOn.bind
  intro token?
  exact GoesOn.pure _ _

end Run

/-! ### What is logged -/

def KeepsLog {α : Type} (part : Run α) : Prop :=
  ∀ progress : Progress, progress.logged <+: ((ExceptT.run part).run progress).2.logged

namespace KeepsLog

variable {α β : Type}

protected theorem throw (stop : Stop) : KeepsLog (throw stop : Run α) :=
  fun _ => List.prefix_rfl

theorem modify {change : Progress → Progress}
    (h : ∀ progress, progress.logged <+: (change progress).logged) :
    KeepsLog (modify change : Run Unit) :=
  h

protected theorem bind {part : Run α} {next : α → Run β} (h : KeepsLog part)
    (hnext : ∀ a, KeepsLog (next a)) : KeepsLog (part >>= next) := by
  intro progress
  have hpart := h progress
  rw [Run.run_bind]
  generalize (ExceptT.run part).run progress = ended at hpart ⊢
  rcases ended with ⟨_ | a, later⟩
  . exact hpart
  . exact hpart.trans (hnext a later)

theorem optional {done : Prop} [Decidable done] {part : Run Unit} {next : Unit → Run β}
    (h : KeepsLog part) (hnext : KeepsLog (next ())) :
    KeepsLog (if done then next () else part >>= fun r => next r) := by
  split
  . exact hnext
  . exact h.bind fun _ => hnext

end KeepsLog

namespace Run

theorem keepsLog_say (text : String) : KeepsLog (say text) :=
  KeepsLog.modify fun _ => List.prefix_rfl

theorem keepsLog_complain (text : String) : KeepsLog (complain text) :=
  KeepsLog.modify fun _ => List.prefix_rfl

theorem keepsLog_fail {α : Type} (message : String) (hint : Option String) :
    KeepsLog (fail message hint : Run α) :=
  (keepsLog_complain _).bind fun _ => KeepsLog.throw _

theorem keepsLog_logAll (verbose : Bool) (level : Level) (texts : List String) :
    KeepsLog (logAll verbose level texts) := by
  unfold logAll
  split
  . exact KeepsLog.modify fun _ => List.prefix_append _ _
  . exact fun _ => List.prefix_rfl

theorem logged_log_bind {α : Type} {next : Unit → Run α} (h : KeepsLog (next ())) (level : Level)
    (text : String) (progress : Progress) :
    progress.logged ++ [{ level, text, place := progress.err.length }]
      <+: ((ExceptT.run (log true level text >>= next)).run progress).2.logged :=
  h { progress with
    logged := progress.logged ++ [{ level, text, place := progress.err.length }] }

theorem logged_pushTo {outside : Outside} {target : Target} {path : Path} {words : List String}
    (hpush : push outside.program target path.text
      = .ok (Import.callOf words, pushResult words defaultTimeout outside.program.ending))
    (progress : Progress) :
    progress.logged ++ [{ level := .info, text := shownText words, place := progress.err.length }]
      <+: ((ExceptT.run (pushTo outside target path true)).run progress).2.logged := by
  unfold pushTo
  rw [hpush]
  simp only [orCrash, pure_bind, shownCommand_pushResult]
  refine logged_log_bind ?_ .info _ progress
  apply KeepsLog.optional (KeepsLog.throw _)
  refine KeepsLog.bind (KeepsLog.modify fun _ => ?_) fun _ => ?_
  . exact List.prefix_rfl
  apply (keepsLog_logAll true .warning _).bind
  intro _
  apply (keepsLog_say _).bind
  intro _
  exact KeepsLog.optional (keepsLog_fail _ _) (keepsLog_say _)

theorem revealed?_eq_of_logged {outside : Outside} {target : Target} {other? : Option String}
    (h : Option.Rel Lookalike target.managementToken other?) (path : Path) {first second : Progress}
    (hopen : first.open = second.open)
    (hlogged : ((ExceptT.run (pushTo outside target path true)).run first).2.logged
      = ((ExceptT.run (pushTo outside (withToken target other?) path true)).run second).2.logged) :
    target.revealed? outside.program path.text
      =
    (withToken target other?).revealed? outside.program path.text := by
  rcases push_lookalike outside.program target h path.text with
    ⟨error, hpush, hother⟩ | ⟨words, others, hpush, hother, -, hshown⟩
  . rw [Target.revealed?, Target.revealed?, hpush, hother]
  . have hfirst := logged_pushTo hpush first
    have hsecond := logged_pushTo hother second
    rw [hlogged, Progress.logged_of_open hopen, Progress.err_of_open hopen] at hfirst
    have hsame := List.prefix_of_prefix_length_le hfirst hsecond (by simp)
    have heq := hsame.eq_of_length (by simp)
    simpa [hshown] using heq

end Run

end MarkdownIntake.Command
