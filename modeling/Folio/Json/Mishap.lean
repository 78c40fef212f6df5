/-! What can be wrong with a JSON text, and where. -/
namespace Folio.Json

inductive Cause where
  | byteOrderMark
  | noValue
  | noName
  | noColon
  | noComma
  | openString
  | control
  | escape
  | unit
  | extra

def Cause.text : Cause → String
  | .byteOrderMark => "Unexpected UTF-8 BOM (decode using utf-8-sig)"
  | .noValue => "Expecting value"
  | .noName => "Expecting property name enclosed in double quotes"
  | .noColon => "Expecting ':' delimiter"
  | .noComma => "Expecting ',' delimiter"
  | .openString => "Unterminated string starting at"
  | .control => "Invalid control character at"
  | .escape => "Invalid \\escape"
  | .unit => "Invalid \\uXXXX escape"
  | .extra => "Extra data"

/-- Lines and columns count from one, the offset from zero, all in characters. -/
structure Mishap where
  cause : Cause
  line : Nat
  column : Nat
  offset : Nat

def Mishap.at (cause : Cause) (text rest : List Char) : Mishap :=
  let offset := text.length - rest.length
  let before := text.take offset
  { cause
    line := before.count '\n' + 1
    column := (before.reverse.takeWhile (· != '\n')).length + 1
    offset }

/-- Why a text could not be read: it breaks the rules somewhere, or it has a whole number of more
digits than are read. -/
inductive Failure where
  | mishap (mishap : Mishap)
  | tooManyDigits (count : Nat)

end Folio.Json
