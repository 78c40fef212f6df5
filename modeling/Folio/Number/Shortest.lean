import Folio.Number.Binary64

/-! The shortest decimal that reads back as a given number. Decimals are tried on coarser grids
first; on the first grid where one of the number's two neighbours reads back, the nearer neighbour
is taken, and the even one when both are as near. -/
namespace Folio.Number.Shortest

/-- The decimals that read back as one number lie between two bounds around it; all three are
counted in units of `2 ^ exponent`. The bounds themselves read back when `closed`. -/
structure Span where
  low : Nat
  middle : Nat
  high : Nat
  closed : Bool
  exponent : Int

-- Just above a power of two the numbers below lie twice as dense.
def spanOf (significand : Nat) (exponent : Int) : Span where
  low :=
    if significand == twoTo 52 && Binary64.leastExponent < exponent then 4 * significand - 1
    else 4 * significand - 2
  middle := 4 * significand
  high := 4 * significand + 2
  closed := significand % 2 == 0
  exponent := exponent - 2

def onGrid? (span : Span) (power : Int) : Option Nat :=
  let step := tenTo power.toNat * twoTo (-span.exponent).toNat
  let unit := twoTo span.exponent.toNat * tenTo (-power).toNat
  let within (n : Nat) : Bool :=
    (span.low * unit < n * step && n * step < span.high * unit) ||
      (span.closed && (n * step == span.low * unit || n * step == span.high * unit))
  let below := span.middle * unit / step
  let above := below + 1
  let gapBelow := span.middle * unit - below * step
  let gapAbove := above * step - span.middle * unit
  match within below, within above with
  | true, true =>
    if gapBelow < gapAbove then some below
    else if gapAbove < gapBelow then some above
    else some (below + below % 2)
  | true, false => some below
  | false, true => some above
  | false, false => none

/-- Searches ever finer grids, at most `tries` of them. -/
def search (span : Span) : Nat → Int → Nat × Int
  | 0, power => (span.middle * twoTo span.exponent.toNat, power)
  | tries + 1, power =>
    match onGrid? span power with
    | some coefficient => (coefficient, power)
    | none => search span tries (power - 1)

def decimalOf (significand : Nat) (exponent : Int) : Nat × Int :=
  let order : Int := significand.log2 + 1 + exponent
  search (spanOf significand exponent) 25 (Int.fdiv (order * 30103) 100000 + 1)

structure Names where
  nan : List Char
  infinity : List Char

def exponentText (n : Int) : List Char :=
  let sign := if n < 0 then '-' else '+'
  let ds := digits n.natAbs
  'e' :: sign :: (if ds.length < 2 then '0' :: ds else ds)

/-- Positional from `10 ^ -4` up to `10 ^ 16`, with a digit on either side of the point; scientific
outside. -/
def layout (coefficient : Nat) (power : Int) : List Char :=
  let ds := digits coefficient
  let point : Int := ds.length + power
  if -4 < point && point ≤ 16 then
    if 0 ≤ power then ds ++ List.replicate power.toNat '0' ++ ['.', '0']
    else if 0 < point then ds.take point.toNat ++ '.' :: ds.drop point.toNat
    else '0' :: '.' :: (List.replicate (-point).toNat '0' ++ ds)
  else
    let fraction := ds.drop 1
    ds.take 1 ++ (if fraction.isEmpty then [] else '.' :: fraction) ++ exponentText (point - 1)

def sign (negative : Bool) : List Char := if negative then ['-'] else []

def text (names : Names) : Binary64 → List Char
  | .nan => names.nan
  | .infinite negative => sign negative ++ names.infinity
  | .finite negative significand exponent =>
    sign negative ++
      if significand == 0 then ['0', '.', '0']
      else
        let (coefficient, power) := decimalOf significand exponent
        layout coefficient power

end Folio.Number.Shortest
