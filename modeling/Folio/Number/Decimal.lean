/-! Whole numbers: their decimal digits, and the powers that numbers with a point are scaled by. -/
namespace Folio.Number

def twoTo (n : Nat) : Nat := Nat.pow 2 n

def tenTo (n : Nat) : Nat := Nat.pow 10 n

theorem tenTo_succ (n : Nat) : tenTo (n + 1) = tenTo n * 10 := rfl

def digits (n : Nat) : List Char := Nat.toDigits 10 n

def decimal : Int → List Char
  | .ofNat n => digits n
  | .negSucc n => '-' :: digits (n + 1)

def isDigit (c : Char) : Bool := '0' ≤ c && c ≤ '9'

def ofDigits (text : List Char) : Nat :=
  text.foldl (fun n c => 10 * n + (c.toNat - 48)) 0

/-- Whole numbers of more digits are neither read nor written. -/
def digitLimit : Nat := 4300

def isWritable (n : Nat) : Bool := n < tenTo digitLimit

def digitsText (n : Nat) : String := String.ofList (digits n)

def decimalText (n : Int) : String := String.ofList (decimal n)

end Folio.Number
