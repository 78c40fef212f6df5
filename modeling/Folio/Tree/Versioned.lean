import Folio.Json.Printer
import Folio.Json.Reader
import Folio.Tree.Interchange

/-! The interchange form as a JSON text, under a number for the version of the form. A text that
gives no version is taken for the current one. -/
namespace Folio.Tree

def version : Int := 1

def versionField : String := "schema_version"

def dropField (name : String) : Fields → Fields
  | [] => []
  | (key, value) :: rest => if key == name then rest else (key, value) :: dropField name rest

def loadObject (strict : Bool) (fields : Fields) : Noted Loaded :=
  let found := field versionField (.int version) fields
  if found.alike (.int version) then load strict (.object (dropField versionField fields))
  else throw (Fault.unsupportedVersion found).raised

def loadText (strict : Bool) : Value → Noted Loaded
  | .str text =>
    match Json.read text with
    | .ok (.object fields) => loadObject strict fields
    | .ok value => throw (.notAnObject value.kind)
    | .error (.mishap mishap) => throw (.badJson mishap)
    | .error (.tooManyDigits count) => throw (.tooManyDigits (some count))
  | value => throw (.notJsonText value.kind)

def versioned : Value → Value
  | .object fields => .object ((versionField, .int version) :: fields)
  | value => value

def Loaded.print (layout : Json.Layout) (loaded : Loaded) : String :=
  Json.print layout (versioned loaded.write)

/-- Counts are kept in 64 bits with a sign. -/
def isCount (n : Int) : Bool := -(Number.twoTo 63 : Int) ≤ n && n < (Number.twoTo 63 : Int)

def spaces (room : Nat) (n : Int) : Except Fault (List Char) :=
  if !isCount n then .error .countTooGreat
  else if room < n then .error .outOfMemory
  else .ok (List.replicate n.toNat ' ')

/-- The layout that an indent asks for: a count of spaces, where less than one leaves only the line
ends, or the unit itself. There is room in memory for so many spaces and no more. -/
def layoutOf (room : Nat) : Value → Except Fault Json.Layout
  | .null => .ok .line
  | .int n => (spaces room n).map .indented
  | .bool b => .ok (.indented (List.replicate b.toNat ' '))
  | .str unit => .ok (.indented unit.toList)
  | value => .error (.badIndent value.kind)

def Loaded.text (room : Nat) (indent : Value) (loaded : Loaded) : Except Fault String := do
  let layout ← layoutOf room indent
  if loaded.write.isWritable then .ok (loaded.print layout) else .error (.tooManyDigits none)

end Folio.Tree
