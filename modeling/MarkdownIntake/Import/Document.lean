import MarkdownIntake.Json.Printer
import MarkdownIntake.Text.Case

/-!
This module contains import documents: the JSON that carries one entry, and with it the type of the
entry if that is to be created as well.
-/

namespace MarkdownIntake.Import

open MarkdownIntake.Json MarkdownIntake.Text

def defaultContentType : String := "post"

def defaultLocale : String := "en-US"

structure Entry where
  title : String
  markdown : String
  contentType : String := defaultContentType
  locale : String := defaultLocale
  publish : Bool := true
  withContentType : Bool := false
deriving Repr, DecidableEq

def fieldJson (id name kind : String) : Value :=
  .obj
    [ ("id", .str id),
      ("name", .str name),
      ("type", .str kind),
      ("localized", .bool false),
      ("required", .bool true),
      ("validations", .arr []),
      ("disabled", .bool false),
      ("omitted", .bool false) ]

def contentTypeJson (id : String) : Value :=
  .obj
    [ ("sys", .obj [("id", .str id), ("type", .str "ContentType")]),
      ("name", .str (String.ofList (capitalize id.toList))),
      ("description", .str ""),
      ("displayField", .str "internalTitle"),
      ("fields", .arr
        [ fieldJson "internalTitle" "Internal Title" "Symbol",
          fieldJson "markdown" "Markdown" "Text" ]) ]

def Entry.systemJson (entry : Entry) : Value :=
  let link :=
    [("type", Value.str "Link"), ("linkType", .str "ContentType"), ("id", .str entry.contentType)]
  .obj <|
    [("type", .str "Entry"), ("contentType", .obj [("sys", .obj link)])]
      ++ (if entry.publish then [("publishedVersion", .int 1)] else [])

def Entry.document (entry : Entry) : Value :=
  .obj
    [ ("contentTypes", .arr (if entry.withContentType then [contentTypeJson entry.contentType] else [])),
      ("entries", .arr
        [ .obj
          [ ("sys", entry.systemJson),
            ("fields", .obj
              [ ("internalTitle", .obj [(entry.locale, .str entry.title)]),
                ("markdown", .obj [(entry.locale, .str entry.markdown)]) ]) ] ]),
      ("assets", .arr []),
      ("locales", .arr []) ]

def Entry.documentText (entry : Entry) : String :=
  entry.document.render Style.document

end MarkdownIntake.Import
