import Folio.Fault
import Folio.Text.Entity

/-! The text of a tag: a name and attributes in order, each value escaped between double quotes. -/
namespace Folio.Markup

abbrev Attributes := List (String × Value)

def escape (text : Value) : Except Fault String :=
  (text.text? "replace").map Text.Entity.encoded

def attributeText (name : String) (value : Value) : Except Fault String := do
  let escaped ← escape value
  .ok (name ++ "=\"" ++ escaped ++ "\"")

def attributes : Attributes → Except Fault (List String)
  | [] => .ok []
  | (name, value) :: rest => do
    let first ← attributeText name value
    let others ← attributes rest
    .ok (first :: others)

def between (parts : List String) : String := "<" ++ " ".intercalate parts ++ ">"

def openingTag (name : String) (attrs : Attributes) : Except Fault String := do
  let parts ← attributes attrs
  .ok (between (name :: parts))

def closingTag (name : String) : String := "</" ++ name ++ ">"

end Folio.Markup
