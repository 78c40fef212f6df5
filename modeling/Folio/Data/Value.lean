import Folio.Number.Binary64

/-! Plain data as it arrives from outside: the seven kinds of value, what counts as true, when two
values are alike, and what a value yields item by item. -/
namespace Folio

open Number (Binary64)

/-- An object keeps its fields in the order in which they came. -/
inductive Value where
  | null
  | bool (b : Bool)
  | int (n : Int)
  | float (x : Binary64)
  | str (s : String)
  | list (items : List Value)
  | object (fields : List (String × Value))

abbrev Fields := List (String × Value)

namespace Value

inductive Kind where
  | null | bool | int | float | str | list | object
  deriving DecidableEq

def Kind.name : Kind → String
  | .null => "NoneType"
  | .bool => "bool"
  | .int => "int"
  | .float => "float"
  | .str => "str"
  | .list => "list"
  | .object => "dict"

def kind : Value → Kind
  | .null => .null
  | .bool _ => .bool
  | .int _ => .int
  | .float _ => .float
  | .str _ => .str
  | .list _ => .list
  | .object _ => .object

/-- Nothing, zero and whatever is empty count as false. -/
def truthy : Value → Bool
  | .null => false
  | .bool b => b
  | .int n => n != 0
  | .float x => !x.isZero
  | .str s => s != ""
  | .list items => !items.isEmpty
  | .object fields => !fields.isEmpty

-- Booleans are the whole numbers 0 and 1, and numbers are compared by value across their kinds.
def numberAlike : Value → Value → Bool
  | .float x, .float y => x.equals y
  | .float x, .int n => x.equalsInt n
  | .float x, .bool b => x.equalsInt b.toNat
  | .int n, .float y => y.equalsInt n
  | .int n, .int m => n == m
  | .int n, .bool b => n == b.toNat
  | .bool b, .float y => y.equalsInt b.toNat
  | .bool b, .int m => (b.toNat : Int) == m
  | .bool b, .bool c => b == c
  | _, _ => false

mutual

/-- Equality that looks through number kinds and the order of an object's fields. -/
def alike : Value → Value → Bool
  | .null, .null => true
  | .str s, .str t => s == t
  | .list items, .list others => itemsAlike items others
  | .object fields, .object others =>
    fields.length == others.length && fieldsAlike fields others
  | left, right => numberAlike left right

def itemsAlike : List Value → List Value → Bool
  | [], [] => true
  | item :: rest, other :: others => alike item other && itemsAlike rest others
  | _, _ => false

def fieldsAlike : Fields → Fields → Bool
  | [], _ => true
  | (key, value) :: rest, others =>
    (match others.lookup key with
      | some other => alike value other
      | none => false) && fieldsAlike rest others

end

/-- What a value yields when it is gone through: items, characters or field names. -/
def elements? : Value → Option (List Value)
  | .list items => some items
  | .str s => some (s.toList.map fun c => .str (String.singleton c))
  | .object fields => some (fields.map fun field => .str field.1)
  | _ => none

end Value
end Folio
