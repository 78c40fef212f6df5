import Folio.Options.Page

/-! What is said about each field of the options, for listings of them. -/
namespace Folio.Options

def help (text importance : String) : Fields :=
  [("help", .str text), ("importance", .str importance)]

def themeHelp (text : String) : Fields := [
  ("help", .str text), ("choices", Theme.names), ("importance", .str "advanced")]

def helpFor : String → Fields
  | "fail_on_missing_plugin" =>
    help ("Raise MissingAssetError when a code language has no Prism plugin instead of logging " ++
      "a warning") "advanced"
  | "summary" => help "Include the summary panel listing document headings" "core"
  | "summary_title" => help "Caption of the summary panel" "advanced"
  | "mermaid_dark_theme" => themeHelp "Mermaid theme for dark color schemes"
  | "mermaid_light_theme" => themeHelp "Mermaid theme for light color schemes"
  | "katex_throw_on_error" =>
    help "Abort KaTeX typesetting on the first invalid expression" "advanced"
  | _ => []

/-- Every field of a kind of options in order: its name, its default and what is said about it. -/
def reference (kind : Kind) : List (String × Value × Fields) :=
  (Options.default kind).fields.map fun (name, value) => (name, value, helpFor name)

end Folio.Options
