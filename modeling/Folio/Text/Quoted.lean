import Folio.Text.Hex
import Folio.Text.Hidden

/-! A text as it is quoted in messages: between single quotes, or between double quotes when that
saves an escape, with every hidden character spelled by number. -/
namespace Folio.Text.Quoted

def mark (text : List Char) : Char :=
  if text.contains '\'' && !text.contains '"' then '"' else '\''

def spelled (n : Nat) : List Char :=
  if n < 0x100 then '\\' :: 'x' :: hexPadded 2 n
  else if n < 0x10000 then '\\' :: 'u' :: hexPadded 4 n
  else '\\' :: 'U' :: hexPadded 8 n

def encodeChar (quote c : Char) : List Char :=
  if c == quote || c == '\\' then ['\\', c]
  else if c == '\n' then ['\\', 'n']
  else if c == '\r' then ['\\', 'r']
  else if c == '\t' then ['\\', 't']
  else if isHidden c then spelled c.toNat
  else [c]

def encode (text : List Char) : List Char :=
  let quote := mark text
  quote :: text.flatMap (encodeChar quote) ++ [quote]

def encoded (text : String) : String := String.ofList (encode text.toList)

end Folio.Text.Quoted
