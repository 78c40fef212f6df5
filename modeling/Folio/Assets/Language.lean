import Folio.Fault
import Folio.Text.Blank
import Folio.Text.Lowercase

/-! The languages of code blocks. Whatever the author wrote is cut free of white space, put in lower
case, and led to the name of its grammar. -/
namespace Folio.Assets

def aliases : List (String × String) := [
  ("py", "python"), ("python3", "python"), ("rs", "rust"), ("sh", "bash"), ("shell", "bash"),
  ("zsh", "bash"), ("js", "javascript"), ("mjs", "javascript"), ("yml", "yaml"), ("h", "c")]

def canonical (language : String) : String :=
  let plain := Text.lowered (Text.trimmed language)
  (aliases.lookup plain).getD plain

def canonicalOf (language : Value) : Except Fault String := (language.text? "strip").map canonical

end Folio.Assets
