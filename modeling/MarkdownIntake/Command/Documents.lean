import MarkdownIntake.Command.Basic
import MarkdownIntake.Command.Run
import MarkdownIntake.Document.Title
import MarkdownIntake.Import.Document
import MarkdownIntake.Markdown.Reading
import MarkdownIntake.Review.Export
import MarkdownIntake.Review.Report
import MarkdownIntake.Storage.EnvironmentFile

/-!
This module contains the runs that work with a document: it is downloaded, reviewed, and turned into
an import document.
-/

namespace MarkdownIntake.Command

open MarkdownIntake.Console MarkdownIntake.Document MarkdownIntake.Import MarkdownIntake.Number
open MarkdownIntake.Review MarkdownIntake.Storage MarkdownIntake.Text

namespace Run

def download (outside : Outside) (url : String) (settings : Settings) (quiet verbose : Bool) :
    Run String := do
  unless quiet do say (progressNotice s!"Fetching markdown from {url}")
  let (requests, result) := Web.download outside.replies url settings.timeout
  modify fun progress => { progress with requests := progress.requests ++ requests }
  match result with
  | .ok markdown =>
    log verbose .debug s!"Fetched {markdown.length} characters from {url}"
    unless quiet do
      say (successNotice s!"Successfully fetched {grouped markdown.length} characters")
    return markdown
  | .error (.badAddress error) => crash (.badAddress error)
  | .error (.unreadable code) => crash (.unreadable code)
  | .error error =>
    logAll verbose .warning (error.note? url).toList
    fail error.message error.detail?

def reviewed (markdown title : String) (settings : Settings) (verbose : Bool) : Run Assessment := do
  let forest := Markdown.readDocument markdown
  let outcome := review markdown title settings.limits (.ok forest)
  logAll verbose .debug (notes forest outcome)
  orCrash .notReviewed outcome

def exportReview (review : Assessment) (path : Path) (quiet verbose : Bool) : Run Unit := do
  match ← orCrash .notWritten (exportFindings review.findings path (← files)) with
  | none =>
    log verbose .info "No validation errors to export"
    unless quiet do say (infoNotice "No errors to export.")
  | some files =>
    setFiles files
    log verbose .info s!"Exported {review.findings.length} validation error(s) to {path.text}"
    unless quiet do say (exportSummary review path.text)

def validate (outside : Outside) (options : Validate) : Run Unit := do
  let settings ← settings outside { format := options.format, timeout := options.timeout }
  let verbose ← applyOutput settings options.verbose
  let isJson := settings.output.format = "json"
  let markdown ← download outside options.url settings isJson verbose
  let review ← reviewed markdown (title markdown defaultTitle) settings verbose
  say (← orCrash .notReported (report review (if isJson then .json else .text) verbose))
  if options.exports then
    exportReview review (options.findingsFile.getD settings.errorsPath) isJson verbose
  unless review.success do throw (.exit 1)

def stroke : String :=
  String.ofList (List.replicate 60 '─')

def address (options : Generate) : Run String := do
  match options.url.filter (!·.isEmpty) with
  | some url => return url
  | none =>
    say (print "\n📦 Generate Contentful Import File" ++ print stroke)
    let url := trimmed (← ask "📎 Enter the markdown URL")
    if url.isEmpty then fail "URL is required" else return url

def checkFirst (options : Generate) (markdown title : String) (settings : Settings) (verbose : Bool) :
    Run Unit := do
  if options.validates then
    let review ← reviewed markdown title settings verbose
    say (← orCrash .notReported (report review .text verbose))
    if options.exportsFindings then
      exportReview review (options.findingsFile.getD settings.errorsPath) false verbose
    unless review.success do fail "Validation failed. Fix issues before generating import."
  else if options.exportsFindings then
    complain (warningNotice "--export-errors requires --validate flag to be set.")

def yesNo (b : Bool) : String :=
  if b then "True" else "False"

def generate (outside : Outside) (options : Generate) : Run Unit := do
  let settings ← settings outside {
    contentType := options.contentType
    locale := options.locale
    publish := options.publish
    timeout := options.timeout }
  let verbose ← applyOutput settings options.verbose
  let url ← address options
  let markdown ← download outside url settings false verbose
  let title := title markdown defaultTitle
  checkFirst options markdown title settings verbose
  let entry : Entry := {
    title
    markdown
    contentType := settings.entry.contentType
    locale := settings.entry.locale
    publish := settings.entry.publish
    withContentType := options.withContentType }
  let path := options.importFile.getD settings.importPath
  setFiles (← orCrash .notWritten ((← files).write? path entry.documentText))
  log verbose .info s!"Wrote import document with 1 entry(ies) to {path.text}"
  say <|
    successNotice "Import file successfully generated!"
      ++ infoNotice s!"Location: {path.text}"
      ++ infoNotice s!"Title: \"{title}\""
      ++ infoNotice s!"Publish on import: {yesNo settings.entry.publish}"
      ++ infoNotice "Next step: run 'mdimport import' to import it into Contentful."

def loadEnvironment (path : Path) : Run Unit := do
  match (← files).read? path with
  | none => return ()
  | some text =>
    let (error?, loaded) := (← environment).load text
    setEnvironment loaded
    match error? with
    | none => return ()
    | some error => crash (.notDefined error)

def pushTo (outside : Outside) (target : Target) (path : Path) (verbose : Bool) : Run Unit := do
  let (call, result) ← orCrash .notPushed (push outside.program target path.text)
  log verbose .info ("Running " ++ String.intercalate " " result.shownCommand)
  unless call.isPassable do crash (.notPushed .zeroInWord)
  modify fun progress => { progress with calls := progress.calls ++ [call] }
  logAll verbose .warning (outside.program.ending.note? call.timeout).toList
  say (print stroke)
  unless result.success do
    fail ("Import failed: " ++ result.error.getD "") (some "Check the Contentful CLI messages above.")
  say (successNotice "Import completed successfully!")

/-- Make ready what an import works with, and go on with that. -/
def withPrepared (outside : Outside) (options : Import) (next : Target → Path → Bool → Run α) :
    Run α := do
  loadEnvironment options.environmentFile
  let settings ← settings outside {
    spaceId := options.spaceId
    environmentId := options.environmentId }
  let verbose ← applyOutput settings options.verbose
  let path := options.importFile.getD settings.importPath
  unless (← files).exists? path do
    fail s!"{path.text} not found" (some "Generate it first with: mdimport generate --url <markdown-url>")
  let spaceId := settings.entry.spaceId.getD ""
  if spaceId.isEmpty then
    fail "No Contentful space ID configured"
      (some ("Set CONTENTFUL_SPACE_ID in .env, pass --space-id, "
        ++ "or run 'mdimport config set contentful.space_id <id>'"))
  unless outside.program.installed do
    fail "Contentful CLI not found" (some "Install it with: npm install -g contentful-cli")
  say <| printAll
    [ "📦 Starting Contentful import...",
      s!"   Space ID: {spaceId}",
      s!"   Environment: {settings.entry.environmentId}",
      s!"   Import file: {path.text}",
      stroke ]
  let managementToken ← orCrash .notLoaded <|
    Settings.managementToken outside.format outside.folder (← files) (← environment)
      options.managementToken
  next { spaceId, environmentId := settings.entry.environmentId, managementToken } path verbose

def importFile (outside : Outside) (options : Import) : Run Unit :=
  withPrepared outside options (pushTo outside)

end Run

end MarkdownIntake.Command
