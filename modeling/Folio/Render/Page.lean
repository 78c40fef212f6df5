import Folio.Render.Authors
import Folio.Render.Fragment

/-! Rendering a document to a page that stands on its own. The document's tree is rendered first;
the page around it is written afterwards, because only then is it known which of the trailers for
formulas, code and diagrams are needed. -/
namespace Folio.Render

open Assets (Catalogue Runtime)
open Markup (Attributes Writer Writing)
open Folio.Tree (Document Loaded)

def element (tag : String) (attrs : Attributes) (body : Writing Unit) : Writing Unit := do
  Writer.startTag tag attrs
  body
  Writer.endTag

def writeText (text : String) : Writing Unit := Writer.writeRaw (.str text)

def ofClass (name : String) : Attributes := [("class", .str name)]

def writeStyle (css : String) : Writing Unit := element "style" [] (writeText css)

def writeHead (catalogue : Catalogue) (title : Value) : Writing Unit :=
  element "head" [] do
    Writer.orphanTag "meta" [("charset", .str "utf-8")]
    Writer.orphanTag "meta"
      [("name", .str "viewport"), ("content", .str "width=device-width, initial-scale=1")]
    Writer.inlineTag "title" [] title
    writeStyle catalogue.normalizeCss
    writeStyle catalogue.styleCss

def writeAuthors (catalogue : Catalogue) : List Value → Writing Unit
  | [] => pure ()
  | first :: rest =>
    element "div" (ofClass "docinfo") do
      writeText catalogue.authorIcon
      let names ← MonadExcept.ofExcept (joinNames first rest)
      Writer.writeContent names

def writeHeader (catalogue : Catalogue) (document : Document) : Writing Unit :=
  element "header" [] do
    Writer.inlineTag "p" [("id", .str "doctitle")] document.title
    writeAuthors catalogue document.authors

def licenseSentence (license : String) : String :=
  "This work is available under the " ++ license ++ " license"

def writeLicense (catalogue : Catalogue) : Value → Writing Unit
  | .null => pure ()
  | license =>
    element "div" [("class", .str "docinfo discreet"), ("id", .str "license")] do
      Writer.orphanTag "hr" []
      writeText catalogue.licenseIcon
      let name ← MonadExcept.ofExcept license.shown
      Writer.writeContent (.str (licenseSentence name))

def writeMain (catalogue : Catalogue) (license : Value) (fragment : String) : Writing Unit :=
  element "div" (ofClass "main-content") do
    element "div" (ofClass (sectionClass 1)) (writeText fragment)
    writeLicense catalogue license

def writeEntry (entry : SummaryEntry) : Writing Unit := do
  let anchor ← MonadExcept.ofExcept entry.anchor.shown
  let level ← MonadExcept.ofExcept entry.level.shown
  Writer.inlineTag "a" [("href", .str ("#" ++ anchor)), ("class", .str ("lvl" ++ level))] entry.name

def writeEntries : List SummaryEntry → Writing Unit
  | [] => pure ()
  | entry :: rest => do
    writeEntry entry
    writeEntries rest

def writeSummary (options : Options.Page) (summary : List SummaryEntry) : Writing Unit :=
  if options.summary.truthy && !summary.isEmpty then
    element "div" (ofClass "summary-container") do
      element "div" (ofClass "summary") do
        Writer.inlineTag "p" [] (.str options.summaryTitle)
        element "div" (ofClass "summary-content") (writeEntries summary)
  else pure ()

def writeKatex (catalogue : Catalogue) (state : State) : Writing Unit := do
  writeStyle catalogue.katexCss
  element "script" [] do
    writeText catalogue.katexJs
    writeText state.katexContent

def writeGrammars (catalogue : Catalogue) : List Value → Writing Unit
  | [] => pure ()
  | .str language :: rest => do
    match catalogue.grammar? language with
    | some script => writeText script
    | none => pure ()
    writeGrammars catalogue rest
  | _ :: rest => writeGrammars catalogue rest

def writePrism (catalogue : Catalogue) (state : State) : Writing Unit := do
  writeStyle catalogue.prismCss
  element "script" [] do
    writeText catalogue.prismJs
    writeGrammars catalogue state.languages

def themeLiteral (theme : Options.Theme) : String := Text.ScriptLiteral.encoded theme.name

def mermaidStatement (options : Options.Page) : String :=
  "mermaid.initialize(\x7btheme: window.matchMedia('(prefers-color-scheme: dark)').matches ? " ++
    themeLiteral options.darkTheme ++ " : " ++ themeLiteral options.lightTheme ++ "\x7d)"

def writeMermaid (setting : Setting) : Writing Unit := do
  element "script" [] (writeText setting.catalogue.mermaidJs)
  element "script" [] (writeText (mermaidStatement setting.options))

def placeholderNotice (runtime : Runtime) : Notice where
  severity := .warning
  channel := .pages
  message := "Asset " ++ runtime.name ++
    " is a placeholder; the page will load without that library"

def warnOfPlaceholders (catalogue : Catalogue) : List Runtime → Rendering Unit
  | [] => pure ()
  | runtime :: rest => do
    if catalogue.isMissing runtime then Rendering.note (placeholderNotice runtime)
    warnOfPlaceholders catalogue rest

def trailer (catalogue : Catalogue) (needed : Bool) (runtimes : List Runtime)
    (written : Writing Unit) : Rendering Unit :=
  if needed then do
    warnOfPlaceholders catalogue runtimes
    Rendering.write written
  else pure ()

def writeTrailers (setting : Setting) (state : State) : Rendering Unit := do
  let catalogue := setting.catalogue
  trailer catalogue state.features.katex [.katexCss, .katexJs] (writeKatex catalogue state)
  trailer catalogue state.features.prism [.prismJs] (writePrism catalogue state)
  trailer catalogue state.features.mermaid [.mermaidJs] (writeMermaid setting)

/-- Everything from the first tag to the end of the visible content; `html` and `body` stay open. -/
def writeUpper (setting : Setting) (document : Document) (state : State) (fragment : String) :
    Writing Unit := do
  Writer.orphanTag "!DOCTYPE html" []
  Writer.startTag "html" []
  writeHead setting.catalogue document.title
  Writer.startTag "body" []
  writeHeader setting.catalogue document
  element "div" (ofClass "flex-container") do
    writeMain setting.catalogue document.license fragment
    writeSummary setting.options state.summary

def pageNotice (title : Value) (state : State) : Notice where
  severity := .debug
  channel := .pages
  message := "Rendered document " ++ title.quoted ++ ": " ++
    Number.digitsText state.summary.length ++ " heading(s), katex=" ++
    flagText state.features.katex ++ " prism=" ++ flagText state.features.prism ++
    " mermaid=" ++ flagText state.features.mermaid

def renderPage (setting : Setting) (document : Document) : Rendering String := do
  let fragment ← renderFragment setting document.root.node
  modify fun session => { session with writer := .empty }
  let state := (← get).state
  Rendering.write (writeUpper setting document state fragment)
  writeTrailers setting state
  Rendering.write Writer.endTag
  Rendering.write Writer.endTag
  Rendering.note (pageNotice document.title state)
  Rendering.write Writer.finish

def page (setting : Setting) (loaded : Loaded) : Outcome :=
  match loaded with
  | .document document => (renderPage setting document).outcome .fresh
  | .node tree => (throw (.lacks tree.kind.name "root") : Rendering String).outcome .fresh

/-- Whether a name stands for something that a page is rendered from. Everything else that is named
replaces an option. -/
def isGiven (name : String) : Bool := name == "document" || name == "options"

def settle (options : Option Options) (overrides : Fields) : Except Fault Options.Page := do
  if let some name := (overrides.map Prod.fst).find? isGiven then
    throw (.repeatedArgument "render_document" name)
  let options := options.getD (.default .page)
  let options ← if overrides.isEmpty then .ok options else options.update overrides
  Options.forPage "document" (some options)

/-- A page with the options that were settled on; without any nothing is rendered. -/
def pageOf (catalogue : Catalogue) (settled : Except Fault Options.Page) (loaded : Loaded) :
    Outcome :=
  match settled with
  | .error fault => ⟨.error fault, .fresh, []⟩
  | .ok options => page ⟨options, catalogue⟩ loaded

end Folio.Render
