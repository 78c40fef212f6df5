import Folio.Assets.Language

/-! The catalogue of everything a page brings along: style sheets, scripts, icons and the grammars
of the highlighter by language. -/
namespace Folio.Assets

structure Catalogue where
  normalizeCss : String
  styleCss : String
  katexCss : String
  katexJs : String
  prismCss : String
  prismJs : String
  mermaidJs : String
  authorIcon : String
  licenseIcon : String
  grammars : List (String × String)

def closings : List Char → Nat
  | '*' :: '/' :: rest => closings rest + 1
  | _ :: rest => closings rest
  | [] => 0

/-- Whether a style sheet or script is nothing but one comment. -/
def isPlaceholder (text : String) : Bool :=
  let inner := Text.trim text.toList
  ['/', '*'].isPrefixOf inner && ['*', '/'].isSuffixOf inner && closings inner == 1

/-- The libraries that a checkout holds placeholders for. -/
inductive Runtime where
  | katexCss | katexJs | prismJs | mermaidJs
  deriving DecidableEq

def Runtime.all : List Runtime := [.katexCss, .katexJs, .prismJs, .mermaidJs]

def Runtime.name : Runtime → String
  | .katexCss => "katex_css"
  | .katexJs => "katex_js"
  | .prismJs => "prism_js"
  | .mermaidJs => "mermaid_js"

namespace Catalogue

def runtime (catalogue : Catalogue) : Runtime → String
  | .katexCss => catalogue.katexCss
  | .katexJs => catalogue.katexJs
  | .prismJs => catalogue.prismJs
  | .mermaidJs => catalogue.mermaidJs

def isMissing (catalogue : Catalogue) (runtime : Runtime) : Bool :=
  isPlaceholder (catalogue.runtime runtime)

def placeholders (catalogue : Catalogue) : List Runtime := Runtime.all.filter catalogue.isMissing

def grammar? (catalogue : Catalogue) (language : String) : Option String :=
  catalogue.grammars.lookup (canonical language)

def grammarOf (catalogue : Catalogue) (language : Value) : Except Fault (Option String) :=
  (language.text? "strip").map catalogue.grammar?

def languages (catalogue : Catalogue) : List String :=
  (catalogue.grammars.map Prod.fst).mergeSort fun left right => !decide (right < left)

def texts (catalogue : Catalogue) : List (String × String) := [
  ("normalize_css", catalogue.normalizeCss), ("style_css", catalogue.styleCss),
  ("katex_css", catalogue.katexCss), ("katex_js", catalogue.katexJs),
  ("prism_css", catalogue.prismCss), ("prism_js", catalogue.prismJs),
  ("mermaid_js", catalogue.mermaidJs), ("author_icon", catalogue.authorIcon),
  ("license_icon", catalogue.licenseIcon)]

def grammarsOf (fields : Fields) : List (String × String) :=
  fields.filterMap fun (language, script) =>
    match script with
    | .str script => some (language, script)
    | _ => none

/-- Puts a text, or the whole table of grammars, in place of what stood under that name. -/
def replace (catalogue : Catalogue) : String × Value → Catalogue
  | ("normalize_css", .str text) => { catalogue with normalizeCss := text }
  | ("style_css", .str text) => { catalogue with styleCss := text }
  | ("katex_css", .str text) => { catalogue with katexCss := text }
  | ("katex_js", .str text) => { catalogue with katexJs := text }
  | ("prism_css", .str text) => { catalogue with prismCss := text }
  | ("prism_js", .str text) => { catalogue with prismJs := text }
  | ("mermaid_js", .str text) => { catalogue with mermaidJs := text }
  | ("author_icon", .str text) => { catalogue with authorIcon := text }
  | ("license_icon", .str text) => { catalogue with licenseIcon := text }
  | ("prism_plugins", .object fields) => { catalogue with grammars := grammarsOf fields }
  | _ => catalogue

def replaceAll (catalogue : Catalogue) (fields : Fields) : Catalogue :=
  fields.foldl replace catalogue

end Catalogue
end Folio.Assets
