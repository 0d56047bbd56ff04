import MarkdownIntake.Command.Configure
import MarkdownIntake.Proofs.Settings.Token

/-!
This module contains tokens that look alike when they are masked, and files that differ at most in such
tokens.
-/

namespace MarkdownIntake.Command

open MarkdownIntake.Storage

/-! ### Tokens -/

/-- Two tokens of more than eight characters have the first four and the last four in common. -/
structure SameEnds (token other : String) : Prop where
  long : 8 < token.toList.length
  otherLong : 8 < other.toList.length
  first : token.toList.take 4 = other.toList.take 4
  last : token.toList.drop (token.toList.length - 4) = other.toList.drop (other.toList.length - 4)
  /-- A word of a command line has no zero in it, so this says nothing of two such words. -/
  hasZero : Text.hasZero token = Text.hasZero other

theorem SameEnds.maskedToken {token other : String} (h : SameEnds token other) :
    Run.maskedToken token = Run.maskedToken other := by
  have hlong : 2 * Run.shownEnd < token.toList.length := h.long
  have hotherLong : 2 * Run.shownEnd < other.toList.length := h.otherLong
  have hfirst : token.toList.take Run.shownEnd = other.toList.take Run.shownEnd := h.first
  have hlast :
      token.toList.drop (token.toList.length - Run.shownEnd)
        =
      other.toList.drop (other.toList.length - Run.shownEnd) := h.last
  simp only [Run.maskedToken]
  rw [if_pos hlong, if_pos hotherLong, hfirst, hlast]

theorem SameEnds.symm {token other : String} (h : SameEnds token other) : SameEnds other token :=
  ⟨h.otherLong, h.long, h.first.symm, h.last.symm, h.hasZero.symm⟩

theorem SameEnds.ne_empty {token other : String} (h : SameEnds token other) : token ≠ "" := by
  rintro rfl
  exact absurd h.long (by decide)

def Lookalike (token other : String) : Prop :=
  token = other ∨ SameEnds token other

namespace Lookalike

variable {token other : String}

theorem maskedToken (h : Lookalike token other) : Run.maskedToken token = Run.maskedToken other := by
  rcases h with rfl | h
  . rfl
  . exact h.maskedToken

theorem eq_empty_iff (h : Lookalike token other) : token = "" ↔ other = "" := by
  rcases h with rfl | h
  . rfl
  . exact iff_of_false h.ne_empty h.symm.ne_empty

theorem hasZero (h : Lookalike token other) : Text.hasZero token = Text.hasZero other := by
  rcases h with rfl | h
  . rfl
  . exact h.hasZero

theorem filter_isEmpty {token? other? : Option String} (h : Option.Rel Lookalike token? other?) :
    Option.Rel Lookalike (token?.filter (!·.isEmpty)) (other?.filter (!·.isEmpty)) := by
  cases h with
  | none => exact .none
  | @some token other h =>
    by_cases htoken : token = ""
    . simp [Option.filter, htoken, h.eq_empty_iff.mp htoken]
    . simp [Option.filter, htoken, mt h.eq_empty_iff.mpr htoken, h]

end Lookalike

/-! ### Files that differ in a token -/

/--
Two states of the files differ at most in the file of the token, where the one has a token with the same
ends as that in the other.
-/
structure SameButToken (format : Settings.Format) (folder : Settings.Folder) (files other : Files) :
    Prop where
  places : files.SamePlaces other
  elsewhere : ∀ path : Path, path.place ≠ folder.credentialsFile.place →
    files.read? path = other.read? path
  token : files.read? folder.credentialsFile = other.read? folder.credentialsFile
    ∨ ∃ token otherToken, SameEnds token otherToken
      ∧ format.KeepsToken (some token) ∧ format.KeepsToken (some otherToken)
      ∧ files.read? folder.credentialsFile
          = some (format.render (Settings.tokenRecord (some token)))
      ∧ other.read? folder.credentialsFile
          = some (format.render (Settings.tokenRecord (some otherToken)))

namespace SameButToken

variable {format : Settings.Format} {folder : Settings.Folder} {files other : Files}

protected theorem refl (files : Files) : SameButToken format folder files files :=
  ⟨rfl, fun _ _ => rfl, .inl rfl⟩

protected theorem write (h : SameButToken format folder files other) (path : Path) (text : String) :
    SameButToken format folder (files.write path text) (other.write path text) where
  places := h.places.write path text text
  elsewhere := fun read hread => Files.read?_write_congr (h.elsewhere read hread) path text
  token := by
    by_cases hplace : folder.credentialsFile.place = path.place
    . rw [Files.read?_congr hplace, Files.read?_congr hplace, Files.read?_write, Files.read?_write]
      exact .inl rfl
    . rw [Files.read?_write_of_ne hplace, Files.read?_write_of_ne hplace]
      exact h.token

protected theorem remove (h : SameButToken format folder files other) (path : Path) :
    SameButToken format folder (files.remove path) (other.remove path) where
  places := h.places.remove path
  elsewhere := fun read hread => Files.read?_remove_congr (h.elsewhere read hread) path
  token := by
    by_cases hplace : folder.credentialsFile.place = path.place
    . rw [Files.read?_congr hplace, Files.read?_congr hplace, Files.read?_remove, Files.read?_remove]
      exact .inl rfl
    . rw [Files.read?_remove_of_ne hplace, Files.read?_remove_of_ne hplace]
      exact h.token

theorem saveToken (h : SameButToken format folder files other) {token otherToken : String}
    (hends : SameEnds token otherToken) (hkeeps : format.KeepsToken (some token))
    (hotherKeeps : format.KeepsToken (some otherToken)) :
    SameButToken format folder (Settings.saveToken format folder files (some token))
      (Settings.saveToken format folder other (some otherToken)) where
  places := h.places.write _ _ _
  elsewhere := by
    intro path hpath
    exact ((Files.read?_write_of_ne hpath _ _).trans (h.elsewhere path hpath)).trans
      (Files.read?_write_of_ne hpath _ _).symm
  token :=
    .inr ⟨token, otherToken, hends, hkeeps, hotherKeeps, Files.read?_write .., Files.read?_write ..⟩

theorem load (h : SameButToken format folder files other) :
    Settings.load format folder files = Settings.load format folder other :=
  Settings.load_congr (h.elsewhere _ folder.place_ne)

theorem update (h : SameButToken format folder files other) (key : String) (value : Json.Value) :
    (∃ record, Settings.update format folder files key value
        = .ok (Settings.store format folder files record)
      ∧ Settings.update format folder other key value
        = .ok (Settings.store format folder other record))
      ∨ (∃ error, Settings.update format folder files key value = .error error
        ∧ Settings.update format folder other key value = .error error) :=
  Settings.update_congr h.load key value

theorem filesLeft (h : SameButToken format folder files other) (error : Settings.ChangeError) :
    SameButToken format folder (error.filesLeft folder files) (error.filesLeft folder other) := by
  unfold Settings.ChangeError.filesLeft
  split
  . exact h.write _ _
  . exact h

theorem exists? (h : SameButToken format folder files other) (path : Path) :
    files.exists? path = other.exists? path := by
  simp only [Files.exists?, h.places.isSome_read?, h.places.isFolder]

theorem loadToken (h : SameButToken format folder files other) (environment : Environment) :
    (∃ error, Settings.loadToken format folder files environment = .error error
        ∧ Settings.loadToken format folder other environment = .error error)
      ∨ ∃ token? otherToken?, Option.Rel Lookalike token? otherToken?
        ∧ Settings.loadToken format folder files environment = .ok token?
        ∧ Settings.loadToken format folder other environment = .ok otherToken? := by
  rcases h.token with hsame | ⟨token, otherToken, hends, hkeeps, hotherKeeps, hread, hotherRead⟩
  . rw [Settings.loadToken_congr hsame]
    cases Settings.loadToken format folder other environment with
    | error error => exact .inl ⟨error, rfl, rfl⟩
    | ok token? =>
      refine .inr ⟨token?, token?, ?_, rfl, rfl⟩
      cases token? with
      | none => exact .none
      | some token => exact .some (.inl rfl)
  . have hload := Settings.loadToken_of_read? hkeeps hread
    have hotherLoad := Settings.loadToken_of_read? hotherKeeps hotherRead
    refine .inr ⟨_, _, ?_, Settings.loadToken_eq hload environment,
      Settings.loadToken_eq hotherLoad environment⟩
    cases environment.nonempty? Settings.tokenVariable with
    | none => exact .some (.inr hends)
    | some value => exact .some (.inl rfl)

end SameButToken

end MarkdownIntake.Command
