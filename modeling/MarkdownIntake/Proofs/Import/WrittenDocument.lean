import MarkdownIntake.Proofs.Import.Document
import MarkdownIntake.Proofs.Json.Reader
import MarkdownIntake.Proofs.Storage.Files

/-!
This module contains what a reader gets out of the file that an import document was written to.
-/

namespace MarkdownIntake.Import

open MarkdownIntake.Json MarkdownIntake.Storage

theorem isWhole_contentTypeJson (id : String) : (contentTypeJson id).IsWhole := by
  simp [contentTypeJson, fieldJson]

theorem Entry.isWhole_systemJson (entry : Entry) : entry.systemJson.IsWhole := by
  cases hpublish : entry.publish
  all_goals simp [systemJson, hpublish]

theorem Entry.isWhole_document (entry : Entry) : entry.document.IsWhole := by
  cases hcontentType : entry.withContentType
  all_goals
    simp [document, hcontentType, entry.isWhole_systemJson, isWhole_contentTypeJson]

/-- The file is a text in the notation of JSON, which denotes the document and nothing else. -/
theorem written_document_readBack (entry : Entry) {files final : Files} {path : Path}
    (h : files.write? path entry.documentText = .ok final) :
    ∃ text, final.read? path = some text
      ∧ TextDenotes text.toList entry.document
      ∧ (∀ v, TextDenotes text.toList v → v = entry.document)
      ∧ Value.parse? text = some entry.document
      ∧ CarriesEntry entry.document entry.title entry.markdown entry.locale entry.publish := by
  have hdenotes := textDenotes_render_string entry.isWhole_document .document
  refine ⟨entry.documentText, ?_, hdenotes, fun v hv => hv.unique hdenotes,
    parse?_of_textDenotes hdenotes, entry.carriesEntry⟩
  rw [Files.eq_write_of_write? h, Files.read?_write]

def awkwardEntry : Entry where
  title := "\"\\"
  markdown := "\u2028😀\x01"

theorem written_document_readBack_awkwardEntry :
    let path := Path.ofText "import.json"
    ∃ final, ({} : Files).write? path awkwardEntry.documentText = .ok final
      ∧ ∃ text, final.read? path = some text
        ∧ TextDenotes text.toList awkwardEntry.document
        ∧ (∀ v, TextDenotes text.toList v → v = awkwardEntry.document)
        ∧ Value.parse? text = some awkwardEntry.document
        ∧ CarriesEntry awkwardEntry.document "\"\\" "\u2028😀\x01" "en-US" true := by
  have hfree : ({} : Files).obstacle? (Path.ofText "import.json") = none := by decide +kernel
  have hwrite : ({} : Files).write? (Path.ofText "import.json") awkwardEntry.documentText
      = .ok (({} : Files).write (Path.ofText "import.json") awkwardEntry.documentText) := by
    rw [Files.write?, hfree]
  exact ⟨_, hwrite, written_document_readBack awkwardEntry hwrite⟩

end MarkdownIntake.Import
