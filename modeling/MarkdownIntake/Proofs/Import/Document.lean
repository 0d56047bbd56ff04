import MarkdownIntake.Import.Document

/-!
This module contains what an import document says about its entry.
-/

namespace MarkdownIntake.Import

open MarkdownIntake.Json

/-- The document has one entry, with a title and a text under a locale, and a version if it is published. -/
def CarriesEntry (document : Value) (title markdown locale : String) (publish : Bool) : Prop :=
  ∃ entry system fields, document.get? "entries" = some (.arr [entry])
    ∧ entry.get? "sys" = some system ∧ entry.get? "fields" = some fields
    ∧ fields.get? "internalTitle" = some (.obj [(locale, .str title)])
    ∧ fields.get? "markdown" = some (.obj [(locale, .str markdown)])
    ∧ (system.get? "publishedVersion").isSome = publish

theorem Entry.systemJson_publishedVersion (entry : Entry) :
    (entry.systemJson.get? "publishedVersion").isSome = entry.publish := by
  cases hpublish : entry.publish
  all_goals simp [systemJson, Value.get?, hpublish]

theorem Entry.carriesEntry (entry : Entry) :
    CarriesEntry entry.document entry.title entry.markdown entry.locale entry.publish := by
  refine ⟨_, entry.systemJson, _, rfl, rfl, rfl, rfl, rfl, ?_⟩
  exact entry.systemJson_publishedVersion

end MarkdownIntake.Import
