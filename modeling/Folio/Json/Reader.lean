import Folio.Data.Value
import Folio.Json.Mishap
import Folio.Text.Hex

/-! Reading a JSON text. Every reader takes the remaining characters and gives back a result with
what remains after it, or the cause of a failure with what remains at the place of it. A whole
number of too many digits ends the reading where it stands. The three names of numbers that are not
finite are read as numbers; of fields with one name the last value counts, in the place of the
first. -/
namespace Folio.Json

open Number (Binary64 isDigit ofDigits)

inductive Stop where
  | mishap (cause : Cause) (rest : List Char)
  | tooManyDigits (count : Nat)

abbrev Reading (α : Type) := Except Stop (α × List Char)

def stop {α : Type} (cause : Cause) (rest : List Char) : Except Stop α :=
  .error (.mishap cause rest)

def isSpace (c : Char) : Bool := c == ' ' || c == '\t' || c == '\n' || c == '\r'

def skipSpace (text : List Char) : List Char := text.dropWhile isSpace

def simpleEscape? : Char → Option Char
  | '"' => some '"'
  | '\\' => some '\\'
  | '/' => some '/'
  | 'b' => some '\x08'
  | 'f' => some '\x0C'
  | 'n' => some '\n'
  | 'r' => some '\r'
  | 't' => some '\t'
  | _ => none

def isHighHalf (n : Nat) : Bool := 0xD800 ≤ n && n ≤ 0xDBFF

def isLowHalf (n : Nat) : Bool := 0xDC00 ≤ n && n ≤ 0xDFFF

/-- A half without its partner is no character and reads as the replacement character. -/
def charOf (n : Nat) : Char := if isHighHalf n || isLowHalf n then '\uFFFD' else Char.ofNat n

def joinHalves (high low : Nat) : Char :=
  Char.ofNat (0x10000 + (high - 0xD800) * 0x400 + (low - 0xDC00))

def prepend (c : Char) : Reading (List Char) → Reading (List Char)
  | .ok (cs, rest) => .ok (c :: cs, rest)
  | .error e => .error e

/-- The characters up to the closing quote; `start` is what remains at the opening one. A spelled
unit needs at least one character after its four digits, and two halves in a row are one character.
-/
def readString (start : List Char) : List Char → Reading (List Char)
  | [] => stop .openString start
  | '"' :: rest => .ok ([], rest)
  | '\\' :: 'u' :: a :: b :: c :: d :: e :: rest =>
    match Text.hexNumber? [a, b, c, d] with
    | none => stop .unit ('u' :: a :: b :: c :: d :: e :: rest)
    | some high =>
      match e, rest with
      | '\\', 'u' :: a' :: b' :: c' :: d' :: e' :: rest' =>
        if isHighHalf high then
          match Text.hexNumber? [a', b', c', d'] with
          | none => stop .unit ('u' :: a' :: b' :: c' :: d' :: e' :: rest')
          | some low =>
            if isLowHalf low then prepend (joinHalves high low) (readString start (e' :: rest'))
            else prepend (charOf high)
              (readString start ('\\' :: 'u' :: a' :: b' :: c' :: d' :: e' :: rest'))
        else prepend (charOf high)
          (readString start ('\\' :: 'u' :: a' :: b' :: c' :: d' :: e' :: rest'))
      | e, rest => prepend (charOf high) (readString start (e :: rest))
  | ['\\'] => stop .openString start
  | '\\' :: c :: rest =>
    if c == 'u' then stop .unit (c :: rest)
    else
      match simpleEscape? c with
      | some plain => prepend plain (readString start rest)
      | none => stop .escape ('\\' :: c :: rest)
  | c :: rest =>
    if c.toNat < 0x20 then stop .control (c :: rest) else prepend c (readString start rest)
termination_by text => text.length

def wholePart? : List Char → Option (List Char × List Char)
  | '0' :: rest => some (['0'], rest)
  | c :: rest =>
    if isDigit c then some (c :: rest.takeWhile isDigit, rest.dropWhile isDigit) else none
  | [] => none

/-- A point counts only with a digit after it. -/
def fractionPart : List Char → Option (List Char) × List Char
  | '.' :: c :: rest =>
    if isDigit c then (some (c :: rest.takeWhile isDigit), rest.dropWhile isDigit)
    else (none, '.' :: c :: rest)
  | text => (none, text)

def signedDigits? (text : List Char) : Option (Int × List Char) :=
  let (negative, text) :=
    match text with
    | '-' :: rest => (true, rest)
    | '+' :: rest => (false, rest)
    | rest => (false, rest)
  match text.takeWhile isDigit with
  | [] => none
  | ds => some (if negative then -(ofDigits ds : Int) else ofDigits ds, text.dropWhile isDigit)

/-- An exponent mark counts only with a digit after it or after its sign. -/
def exponentPart (text : List Char) : Option Int × List Char :=
  match text with
  | c :: rest =>
    if c == 'e' || c == 'E' then
      match signedDigits? rest with
      | some (n, rest) => (some n, rest)
      | none => (none, text)
    else (none, text)
  | [] => (none, [])

def wholeNumber (negative : Bool) (whole : List Char) : Except Stop Value :=
  if Number.digitLimit < whole.length then .error (.tooManyDigits whole.length)
  else
    let n : Int := ofDigits whole
    .ok (.int (if negative then -n else n))

def readUnsigned? (negative : Bool) (text : List Char) :
    Option (Except Stop Value × List Char) := do
  let (whole, rest) ← wholePart? text
  let (fraction, rest) := fractionPart rest
  let (exponent, rest) := exponentPart rest
  match fraction, exponent with
  | none, none => some (wholeNumber negative whole, rest)
  | fraction, exponent =>
    let places := fraction.getD []
    let power := exponent.getD 0 - places.length
    let x := Binary64.ofDecimal negative (ofDigits (whole ++ places)) power
    some (.ok (.float x), rest)

def readNumber? : List Char → Option (Except Stop Value × List Char)
  | '-' :: rest => readUnsigned? true rest
  | text => readUnsigned? false text

def afterWord? : List Char → List Char → Option (List Char)
  | [], text => some text
  | c :: word, d :: text => if c == d then afterWord? word text else none
  | _ :: _, [] => none

def words : List (String × Value) := [
  ("null", .null), ("true", .bool true), ("false", .bool false), ("NaN", .float .nan),
  ("Infinity", .float (.infinite false)), ("-Infinity", .float (.infinite true))]

def readWord? (text : List Char) : Option (Value × List Char) :=
  words.findSome? fun (word, value) => (afterWord? word.toList text).map fun rest => (value, rest)

def readPlain (text : List Char) : Reading Value :=
  match readWord? text with
  | some found => .ok found
  | none =>
    match readNumber? text with
    | some (number, rest) => number.map fun value => (value, rest)
    | none => stop .noValue text

def put (fields : Fields) (key : String) (value : Value) : Fields :=
  match fields with
  | [] => [(key, value)]
  | (k, v) :: rest => if k == key then (k, value) :: rest else (k, v) :: put rest key value

/-- Fields with one name become one: the first one's place, the last one's value. -/
def collapse (fields : Fields) : Fields :=
  fields.foldl (fun seen field => put seen field.1 field.2) []

def readName : List Char → Reading String
  | '"' :: rest => (readString ('"' :: rest) rest).map fun (cs, rest) => (String.ofList cs, rest)
  | text => stop .noName text

mutual

/-- Readers that nest count down `fuel`, of which twice the length of the text is enough. -/
def readValue : Nat → List Char → Reading Value
  | 0, text => stop .noValue text
  | fuel + 1, text =>
    match text with
    | '"' :: rest =>
      (readString ('"' :: rest) rest).map fun (cs, rest) => (.str (String.ofList cs), rest)
    | '[' :: rest =>
      match skipSpace rest with
      | ']' :: rest => .ok (.list [], rest)
      | rest => (readItems fuel rest).map fun (items, rest) => (.list items, rest)
    | '{' :: rest =>
      match skipSpace rest with
      | '}' :: rest => .ok (.object [], rest)
      | rest => (readFields fuel rest).map fun (fields, rest) => (.object (collapse fields), rest)
    | text => readPlain text

def readItems : Nat → List Char → Except Stop (List Value × List Char)
  | 0, text => stop .noValue text
  | fuel + 1, text => do
    let (item, rest) ← readValue fuel text
    match skipSpace rest with
    | ']' :: rest => .ok ([item], rest)
    | ',' :: rest =>
      let (items, rest) ← readItems fuel (skipSpace rest)
      .ok (item :: items, rest)
    | rest => stop .noComma rest

def readFields : Nat → List Char → Except Stop (Fields × List Char)
  | 0, text => stop .noName text
  | fuel + 1, text => do
    let (key, rest) ← readName text
    match skipSpace rest with
    | ':' :: rest =>
      let (value, rest) ← readValue fuel (skipSpace rest)
      match skipSpace rest with
      | '}' :: rest => .ok ([(key, value)], rest)
      | ',' :: rest =>
        let (fields, rest) ← readFields fuel (skipSpace rest)
        .ok ((key, value) :: fields, rest)
      | rest => stop .noComma rest
    | rest => stop .noColon rest

end

def readWhole (text : List Char) : Except Stop Value := do
  match text with
  | '\uFEFF' :: _ => stop .byteOrderMark text
  | _ =>
    let (value, rest) ← readValue (2 * text.length + 2) (skipSpace text)
    match skipSpace rest with
    | [] => .ok value
    | rest => stop .extra rest

def read (text : String) : Except Failure Value :=
  match readWhole text.toList with
  | .ok value => .ok value
  | .error (.mishap cause rest) => .error (.mishap (.at cause text.toList rest))
  | .error (.tooManyDigits count) => .error (.tooManyDigits count)

end Folio.Json
