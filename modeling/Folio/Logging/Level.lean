import Folio.Fault

/-! Levels of records by number and by name. -/
namespace Folio.Logging

/-- A level is a whole number or a truth value, which weighs one if it is true. -/
inductive Level where
  | number (n : Int)
  | flag (b : Bool)
  deriving DecidableEq

namespace Level

def weight : Level → Int
  | .number n => n
  | .flag b => b.toNat

def value : Level → Value
  | .number n => .int n
  | .flag b => .bool b

def ofValue? : Value → Option Level
  | .int n => some (.number n)
  | .bool b => some (.flag b)
  | _ => none

theorem ofValue?_value (level : Level) : ofValue? level.value = some level := by
  cases level <;> rfl

def names : List (Int × String) := [
  (50, "CRITICAL"), (40, "ERROR"), (30, "WARNING"), (20, "INFO"), (10, "DEBUG"), (0, "NOTSET")]

/-- The name that goes with a level's weight; a level without one is shown as it was given. -/
def name (level : Level) : String :=
  (names.lookup level.weight).getD ("Level " ++ level.value.display)

def isNamed (level : Level) : Bool :=
  (names.lookup level.weight).isSome || level.value.isWritable

end Level

inductive Constant where
  | level (n : Int)
  | text (text : String)
  | table (shown : String)

def basicFormat : String := "%(levelname)s:%(name)s:%(message)s"

def styleTable : String :=
  "\x7b'%': (<class 'logging.PercentStyle'>, '%(levelname)s:%(name)s:%(message)s'), '\x7b': " ++
    "(<class 'logging.StrFormatStyle'>, '\x7blevelname\x7d:\x7bname\x7d:\x7bmessage\x7d'), '$': " ++
    "(<class 'logging.StringTemplateStyle'>, '$\x7blevelname\x7d:$\x7bname\x7d:" ++
    "$\x7bmessage\x7d')\x7d"

def constants : List (String × Constant) := [
  ("CRITICAL", .level 50), ("FATAL", .level 50), ("ERROR", .level 40), ("WARNING", .level 30),
  ("WARN", .level 30), ("INFO", .level 20), ("DEBUG", .level 10), ("NOTSET", .level 0),
  ("BASIC_FORMAT", .text basicFormat), ("_STYLES", .table styleTable)]

/-- Capitals of the letters whose capitals are ASCII. No other character can become part of one of
the names above, so all others stay as they are. -/
def capitals (c : Char) : List Char :=
  match c with
  | 'ß' => ['S', 'S']
  | 'ı' => ['I']
  | 'ſ' => ['S']
  | '\uFB00' => ['F', 'F']
  | '\uFB01' => ['F', 'I']
  | '\uFB02' => ['F', 'L']
  | '\uFB03' => ['F', 'F', 'I']
  | '\uFB04' => ['F', 'F', 'L']
  | '\uFB05' => ['S', 'T']
  | '\uFB06' => ['S', 'T']
  | c => [c.toUpper]

def capitalized (text : String) : String := String.ofList (text.toList.flatMap capitals)

def defaultLevel : Level := .number 20

/-- The level that a value asks for: what is a level as it is, a known name by its meaning, and the
default for anything else. Two of the known names mean no level and are refused. -/
def resolve (value : Value) : Except Fault Level :=
  match Level.ofValue? value with
  | some level => .ok level
  | none => do
    let shown ← value.shown
    match constants.lookup (capitalized shown) with
    | some (.level n) => .ok (.number n)
    | some (.text text) => .error (.unknownLevel text)
    | some (.table shown) => .error (.badLevel shown)
    | none => .ok defaultLevel

end Folio.Logging
