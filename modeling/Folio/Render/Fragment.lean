import Folio.Links
import Folio.Render.Session
import Folio.Text.ScriptLiteral
import Folio.Tree.Node

/-! Rendering a tree to a fragment of markup. Nodes are written in reading order, and what the page
around them will need is gathered on the way: every heading enters the summary before its section is
written, and a language is recorded before anything is said about a grammar it lacks. -/
namespace Folio.Render

open Markup (Attributes Writer)
open Folio.Tree (Branch Leaf Loaded Node)

def missingGrammarNotice (language : Value) : Notice where
  severity := .warning
  channel := .fragments
  message := "No Prism plugin for language " ++ language.quoted ++ "; code will not be highlighted"

def codeClass (language canonical : String) : String :=
  if canonical == "" then "language-none" else "language-" ++ Text.trimmed language

def renderCode (setting : Setting) (language source : Value) : Rendering Unit := do
  let written ← MonadExcept.ofExcept (language.text? "strip")
  let canonical := Assets.canonical written
  let isNew ← Rendering.gather fun state => state.registerLanguage (.str canonical)
  if isNew && (setting.catalogue.grammar? canonical).isNone then
    if setting.options.failOnMissingPlugin.truthy then throw (.missingGrammar language canonical)
    else Rendering.note (missingGrammarNotice language)
  Rendering.write (Writer.startTag "pre" [])
  Rendering.write (Writer.inlineTag "code" [("class", .str (codeClass written canonical))] source)
  Rendering.write Writer.endTag

def truthText (b : Bool) : String := if b then "true" else "false"

def mathStatement (source : String) (index : Nat) (display throwOnError : Bool) : String :=
  "katex.render(" ++ Text.ScriptLiteral.encoded source ++
    ", document.querySelector('[data-katex-index=\"" ++ Number.digitsText index ++
    "\"]'), \x7bdisplayMode: " ++ truthText display ++ ", throwOnError: " ++
    truthText throwOnError ++ "\x7d);"

def mathTag (display : Bool) : String := if display then "div" else "span"

def mathClass (display : Bool) : String :=
  if display then "katex-math katex-display" else "katex-math"

def renderMath (setting : Setting) (source : Value) (display : Bool) : Rendering Unit := do
  let index ← Rendering.gather State.nextMathId
  Rendering.write (Writer.inlineTag (mathTag display)
    [("class", .str (mathClass display)), ("data-katex-index", .str (Number.digitsText index))]
    source)
  let text ← MonadExcept.ofExcept (source.text? "replace")
  let statement := mathStatement text index display setting.options.throwOnError.truthy
  Rendering.record fun state => state.registerMath (.str statement)

def renderLeaf (setting : Setting) : Leaf → Rendering Unit
  | .codeBlock language source => renderCode setting language source
  | .mathExpr source display => renderMath setting source display
  | .diagram source => do
    Rendering.record State.registerDiagram
    Rendering.write (Writer.inlineTag "div" [("class", .str "mermaid")] source)
  | .thematicBreak => Rendering.write (Writer.orphanTag "hr" [])
  | .text content => Rendering.write (Writer.writeContent content)
  | .inlineCode content => Rendering.write (Writer.inlineTag "code" [] content)

/-- Headings deeper than the sixth level have no element of their own. -/
def headingTag (level : Nat) : String := "h" ++ Number.digitsText (min level 6)

def sectionClass (level : Nat) : String := "container-lvl" ++ Number.digitsText level

/-- Writes what a branch puts before its children, and gives the element that holds them, if any. -/
def enter (hasChildren : Bool) : Branch → Rendering (Option (String × Attributes))
  | .container cssClass =>
    pure (if cssClass.truthy then some ("div", [("class", cssClass)]) else none)
  | .heading level anchor title => do
    Rendering.write (Writer.inlineTag (headingTag level) [("id", anchor)] title)
    Rendering.record fun state => state.addSummaryEntry ⟨.int level, anchor, title⟩
    if hasChildren then
      let inner := level + 1
      if !Number.isWritable inner then throw (.tooManyDigits none)
      pure (some ("div", [("class", .str (sectionClass inner))]))
    else pure none
  | .paragraph => pure (some ("p", []))
  | .blockQuote => pure (some ("blockquote", []))
  | .list ordered => pure (some (if ordered then "ol" else "ul", []))
  | .listItem => pure (some ("li", []))
  | .emphasis => pure (some ("em", []))
  | .strong => pure (some ("strong", []))
  | .link url => do
    let target ← Rendering.heed (Links.sanitize url)
    pure (some ("a", [("href", .str target)]))

mutual

def renderNode (setting : Setting) : Node → Rendering Unit
  | .leaf item _ => renderLeaf setting item
  | .branch frame children _ => do
    match ← enter (!children.isEmpty) frame with
    | none => renderNodes setting children
    | some (tag, attrs) =>
      Rendering.write (Writer.startTag tag attrs)
      renderNodes setting children
      Rendering.write Writer.endTag

def renderNodes (setting : Setting) : List Node → Rendering Unit
  | [] => pure ()
  | node :: rest => do
    renderNode setting node
    renderNodes setting rest

end

def flagText (b : Bool) : String := if b then "True" else "False"

def featuresText (features : Features) : String :=
  "FeatureFlags(katex=" ++ flagText features.katex ++ ", prism=" ++ flagText features.prism ++
    ", mermaid=" ++ flagText features.mermaid ++ ")"

def fragmentNotice (state : State) : Notice where
  severity := .debug
  channel := .fragments
  message := "Rendered fragment: " ++ Number.digitsText state.summary.length ++
    " summary entries, features " ++ featuresText state.features ++ ", prism languages " ++
    (Value.list state.languages).quoted

def renderFragment (setting : Setting) (node : Node) : Rendering String := do
  renderNode setting node
  let fragment ← Rendering.write Writer.finish
  let session ← get
  Rendering.note (fragmentNotice session.state)
  pure fragment

/-- A document is no node, and only nodes can be rendered to a fragment. -/
def renderLoaded (setting : Setting) : Loaded → Rendering String
  | .node tree => renderFragment setting tree
  | .document _ => throw (.lacks Tree.Kind.document.name "accept")

def fragment (setting : Setting) (loaded : Loaded) (state : State) : Outcome :=
  (renderLoaded setting loaded).outcome state

end Folio.Render
