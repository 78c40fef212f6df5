/-! White space in the Unicode sense, and texts cut free of it at both ends. -/
namespace Folio.Text

def isBlank (c : Char) : Bool :=
  let n := c.toNat
  (0x09 ≤ n && n ≤ 0x0D) || (0x1C ≤ n && n ≤ 0x20) || n == 0x85 || n == 0xA0 || n == 0x1680 ||
    (0x2000 ≤ n && n ≤ 0x200A) || n == 0x2028 || n == 0x2029 || n == 0x202F || n == 0x205F ||
    n == 0x3000

def dropBlanks (text : List Char) : List Char := text.dropWhile isBlank

def trim (text : List Char) : List Char := (dropBlanks (dropBlanks text).reverse).reverse

def trimmed (text : String) : String := String.ofList (trim text.toList)

theorem dropBlanks_eq_nil_iff (text : List Char) :
    dropBlanks text = [] ↔ text.all isBlank = true := by
  induction text with
  | nil => simp [dropBlanks]
  | cons c rest ih =>
    by_cases blank : isBlank c = true
    · simp [dropBlanks, blank, ← ih]
    · simp [dropBlanks, blank]

theorem all_dropBlanks (text : List Char) : (dropBlanks text).all isBlank = text.all isBlank := by
  induction text with
  | nil => rfl
  | cons c rest ih =>
    by_cases blank : isBlank c = true
    · simpa [dropBlanks, blank] using ih
    · simp [dropBlanks, blank]

theorem trim_eq_nil_iff (text : List Char) : trim text = [] ↔ text.all isBlank = true := by
  rw [trim, List.reverse_eq_nil_iff, dropBlanks_eq_nil_iff, List.all_reverse, all_dropBlanks]

end Folio.Text
