import Folio.Text.Hex

/-! A text as a double-quoted literal for inline script. Only printable ASCII is written, and the
three characters that mean something to markup are spelled by number, so the literal can neither
close the element around it nor open a comment. -/
namespace Folio.Text.ScriptLiteral

def unit (n : Nat) : List Char := '\\' :: 'u' :: hexPadded 4 n

/-- Above U+FFFF a character is a pair of units. -/
def spelled (n : Nat) : List Char :=
  if n < 0x10000 then unit n
  else
    let rest := n - 0x10000
    unit (0xD800 + rest / 0x400) ++ unit (0xDC00 + rest % 0x400)

def asciiChar (c : Char) : List Char :=
  match c with
  | '"' => ['\\', '"']
  | '\\' => ['\\', '\\']
  | '\x08' => ['\\', 'b']
  | '\x0C' => ['\\', 'f']
  | '\n' => ['\\', 'n']
  | '\r' => ['\\', 'r']
  | '\t' => ['\\', 't']
  | c => if 0x20 ≤ c.toNat && c.toNat ≤ 0x7E then [c] else spelled c.toNat

def isMarkup (c : Char) : Bool := c == '<' || c == '>' || c == '&'

def literalChar (c : Char) : List Char :=
  if isMarkup c then unit c.toNat else asciiChar c

def encode (text : List Char) : List Char := '"' :: text.flatMap literalChar ++ ['"']

def encoded (text : String) : String := String.ofList (encode text.toList)

end Folio.Text.ScriptLiteral
