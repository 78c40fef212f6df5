import Folio.Text.CaseRanges

/-! Lower case of a whole text. All but two characters map on their own: a capital I with a dot
becomes two characters, and a capital sigma looks at the letters around it. -/
namespace Folio.Text

def CaseRun.holds (run : CaseRun) (n : Nat) : Bool :=
  run.first ≤ n && n ≤ run.last && (n - run.first) % run.stride == 0

def lowerCodePoint (n : Nat) : Nat :=
  match caseRuns.find? (·.holds n) with
  | some run => ((n : Int) + run.shift).toNat
  | none => n

def lowerChar (c : Char) : Char := Char.ofNat (lowerCodePoint c.toNat)

def inRanges (ranges : List (Nat × Nat)) (c : Char) : Bool :=
  ranges.any fun range => range.1 ≤ c.toNat && c.toNat ≤ range.2

def isCased (c : Char) : Bool := inRanges casedRanges c

def isPassedOver (c : Char) : Bool := inRanges passedRanges c

def meetsCased (text : List Char) : Bool :=
  match text.dropWhile isPassedOver with
  | [] => false
  | c :: _ => isCased c

-- A capital sigma is final when a cased letter stands before it and none after it.
def lowerAt (before : List Char) (c : Char) (after : List Char) : List Char :=
  if c == '\u03A3' then
    if meetsCased before && !meetsCased after then ['\u03C2'] else ['\u03C3']
  else if c == '\u0130' then ['i', '\u0307']
  else [lowerChar c]

/-- `before` holds the characters already passed, nearest first. -/
def lowerFrom (before : List Char) : List Char → List Char
  | [] => []
  | c :: after => lowerAt before c after ++ lowerFrom (c :: before) after

def lower (text : List Char) : List Char := lowerFrom [] text

def lowered (text : String) : String := String.ofList (lower text.toList)

end Folio.Text
