import Folio.Data.Value
import Folio.Number.Shortest
import Folio.Text.Hex

/-! Writing a JSON text, on one line or indented. Texts keep every character but quotes, backslashes
and controls. -/
namespace Folio.Json

/-- Either everything on one line, or one entry a line behind a unit of indent for each level. -/
inductive Layout where
  | line
  | indented (unit : List Char)

def floatNames : Number.Shortest.Names where
  nan := ['N', 'a', 'N']
  infinity := ['I', 'n', 'f', 'i', 'n', 'i', 't', 'y']

def printChar (c : Char) : List Char :=
  match c with
  | '"' => ['\\', '"']
  | '\\' => ['\\', '\\']
  | '\x08' => ['\\', 'b']
  | '\x0C' => ['\\', 'f']
  | '\n' => ['\\', 'n']
  | '\r' => ['\\', 'r']
  | '\t' => ['\\', 't']
  | c => if c.toNat < 0x20 then '\\' :: 'u' :: Text.hexPadded 4 c.toNat else [c]

def printString (s : String) : List Char := '"' :: s.toList.flatMap printChar ++ ['"']

namespace Layout

def newLine (layout : Layout) (depth : Nat) : List Char :=
  match layout with
  | .line => []
  | .indented unit => '\n' :: (List.replicate depth unit).flatten

def separator (layout : Layout) (depth : Nat) : List Char :=
  match layout with
  | .line => [',', ' ']
  | .indented _ => ',' :: layout.newLine depth

end Layout

mutual

def printValue (layout : Layout) (depth : Nat) : Value → List Char
  | .null => ['n', 'u', 'l', 'l']
  | .bool true => ['t', 'r', 'u', 'e']
  | .bool false => ['f', 'a', 'l', 's', 'e']
  | .int n => Number.decimal n
  | .float x => Number.Shortest.text floatNames x
  | .str s => printString s
  | .list [] => ['[', ']']
  | .list (item :: rest) =>
    '[' :: layout.newLine (depth + 1) ++ printValue layout (depth + 1) item ++
      printItems layout (depth + 1) rest ++ layout.newLine depth ++ [']']
  | .object [] => ['{', '}']
  | .object ((key, value) :: rest) =>
    '{' :: layout.newLine (depth + 1) ++ printString key ++ [':', ' '] ++
      printValue layout (depth + 1) value ++ printFields layout (depth + 1) rest ++
      layout.newLine depth ++ ['}']

def printItems (layout : Layout) (depth : Nat) : List Value → List Char
  | [] => []
  | item :: rest =>
    layout.separator depth ++ printValue layout depth item ++ printItems layout depth rest

def printFields (layout : Layout) (depth : Nat) : Fields → List Char
  | [] => []
  | (key, value) :: rest =>
    layout.separator depth ++ printString key ++ [':', ' '] ++ printValue layout depth value ++
      printFields layout depth rest

end

def print (layout : Layout) (value : Value) : String :=
  String.ofList (printValue layout 0 value)

end Folio.Json
