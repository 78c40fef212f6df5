import Folio.Noted
import Folio.Text.Blank
import Folio.Text.Lowercase

/-! Where links may lead. A target whose scheme could run script is replaced by an empty fragment,
and notice is given. Readers of a page skip controls and white space in a scheme and do not mind its
case, so neither counts here. -/
namespace Folio.Links

open Text (isBlank lower)

def dangerousSchemes : List String := [
  "javascript:", "vbscript:", "data:text/html", "data:text/javascript",
  "data:application/javascript", "data:application/x-javascript"]

def isIgnored (c : Char) : Bool := c.toNat ≤ 0x20 || c == '\x7F' || isBlank c

def normalized (url : List Char) : List Char := lower (url.filter fun c => !isIgnored c)

def isDangerous (url : List Char) : Bool :=
  dangerousSchemes.any fun scheme => scheme.toList.isPrefixOf (normalized url)

def neutral : String := "#"

def warning (url : String) : Notice where
  severity := .warning
  channel := .links
  message := "Neutralized link with unsafe scheme: " ++
    String.ofList ((Text.Quoted.encode url.toList).take 40)

def target (url : String) : String := if isDangerous url.toList then neutral else url

def scannable : Value → Except Fault String
  | .str url => .ok url
  | value => .error (.notScannable value.kind)

def sanitize (url : Value) : Noted String := do
  let url ← MonadExcept.ofExcept (scannable url)
  if isDangerous url.toList then Noted.note (warning url)
  pure (target url)

end Folio.Links
