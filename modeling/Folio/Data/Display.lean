import Folio.Data.Value
import Folio.Number.Shortest
import Folio.Text.Quoted

/-! A value as messages show it: quoted, with every text between quotes, or displayed, where a text
stands for itself. A value has such a text only if none of the whole numbers in it has too many
digits. -/
namespace Folio.Value

def floatNames : Number.Shortest.Names where
  nan := ['n', 'a', 'n']
  infinity := ['i', 'n', 'f']

def joined (parts : List String) : String := ", ".intercalate parts

mutual

def quoted : Value → String
  | .null => "None"
  | .bool true => "True"
  | .bool false => "False"
  | .int n => Number.decimalText n
  | .float x => String.ofList (Number.Shortest.text floatNames x)
  | .str s => Text.Quoted.encoded s
  | .list items => "[" ++ joined (quotedItems items) ++ "]"
  | .object fields => "\x7b" ++ joined (quotedFields fields) ++ "\x7d"

def quotedItems : List Value → List String
  | [] => []
  | item :: rest => quoted item :: quotedItems rest

def quotedFields : Fields → List String
  | [] => []
  | (key, value) :: rest => (Text.Quoted.encoded key ++ ": " ++ quoted value) :: quotedFields rest

end

def display : Value → String
  | .str s => s
  | value => quoted value

@[simp] theorem display_str (s : String) : display (.str s) = s := rfl

mutual

def isWritable : Value → Bool
  | .int n => Number.isWritable n.natAbs
  | .list items => allWritable items
  | .object fields => fieldsWritable fields
  | .null | .bool _ | .float _ | .str _ => true

def allWritable : List Value → Bool
  | [] => true
  | item :: rest => isWritable item && allWritable rest

def fieldsWritable : Fields → Bool
  | [] => true
  | (_, value) :: rest => isWritable value && fieldsWritable rest

end

end Folio.Value
