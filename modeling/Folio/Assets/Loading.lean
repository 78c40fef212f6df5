import Folio.Assets.Catalogue
import Folio.Files.Directory
import Folio.Noted
import Folio.Text.Lines

/-! Filling a catalogue from a directory. Grammars are read first, in the order of their names; of
the nine required files the first that cannot be read decides the error. -/
namespace Folio.Assets

open Files (Directory Path)

def grammarFolder : Path := ["js", "prism"]

def grammarStart : List Char := "prism-".toList

def grammarEnd : List Char := ".js".toList

/-- The language whose grammar a name announces: what stands between its fixed start and end. -/
def grammarLanguage? (name : String) : Option String :=
  let chars := name.toList
  let middle := (chars.drop grammarStart.length).take
    (chars.length - grammarStart.length - grammarEnd.length)
  if chars == grammarStart ++ middle ++ grammarEnd then some (String.ofList middle) else none

def readBytes (bytes : List UInt8) : Except Fault String :=
  match Text.Utf8.decode bytes with
  | .ok text => .ok (String.ofList (Text.unifyLineEnds text))
  | .error mishap => .error (.badUtf8 mishap)

def readFile (directory : Directory) (path : Path) : Except Fault String := do
  match ← directory.read? path with
  | some bytes => readBytes bytes
  | none => .error (.missingFile path.text)

def readGrammars (directory : Directory) : List String → Except Fault (List (String × String))
  | [] => .ok []
  | name :: rest =>
    match grammarLanguage? name with
    | none => readGrammars directory rest
    | some language => do
      let script ← readFile directory (grammarFolder ++ [name])
      let grammars ← readGrammars directory rest
      .ok ((language, script) :: grammars)

def readCatalogue (directory : Directory) : Except Fault Catalogue := do
  let grammars ← readGrammars directory (directory.namesIn grammarFolder)
  let normalizeCss ← readFile directory ["css", "normalize.css"]
  let styleCss ← readFile directory ["css", "style.css"]
  let katexCss ← readFile directory ["css", "katex.css"]
  let katexJs ← readFile directory ["js", "katex.js"]
  let prismCss ← readFile directory ["css", "prism.css"]
  let prismJs ← readFile directory ["js", "prism.js"]
  let mermaidJs ← readFile directory ["js", "mermaid.js"]
  let authorIcon ← readFile directory ["icons", "profile.svg"]
  let licenseIcon ← readFile directory ["icons", "ereader.svg"]
  .ok { normalizeCss, styleCss, katexCss, katexJs, prismCss, prismJs, mermaidJs, authorIcon,
        licenseIcon, grammars }

def loaded (catalogue : Catalogue) : Notice where
  severity := .debug
  channel := .assets
  message := "Loaded assets from " ++ Path.root ++ " with Prism grammars: " ++
    ", ".intercalate catalogue.languages

def stubbed (catalogue : Catalogue) : Notice where
  severity := .debug
  channel := .assets
  message := "Placeholder runtimes in " ++ Path.root ++ ": " ++
    ", ".intercalate (catalogue.placeholders.map Runtime.name)

def loadCatalogue (directory : Directory) : Noted Catalogue := do
  let catalogue ← MonadExcept.ofExcept (readCatalogue directory)
  Noted.note (loaded catalogue)
  if !catalogue.placeholders.isEmpty then Noted.note (stubbed catalogue)
  pure catalogue

end Folio.Assets
