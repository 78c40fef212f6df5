import Folio.Number.Shortest
import Folio.Proofs.Number.Binary64

/-! The shortest decimal of a number is read back as that number. Some grid is reached on which a
neighbour reads back, as the last that is tried is finer than the span around the number is wide. -/
namespace Folio.Number.Shortest

open Binary64 (Near leastExponent greatestExponent)

/-- The values that read back: those between the bounds, and the bounds themselves when closed. -/
def Span.Covers (span : Span) (value : ℚ) : Prop :=
  span.low * 2 ^ span.exponent < value ∧ value < span.high * 2 ^ span.exponent ∨
    span.closed = true ∧
      (value = span.low * 2 ^ span.exponent ∨ value = span.high * 2 ^ span.exponent)

def gridStep (span : Span) (power : Int) : Nat :=
  tenTo power.toNat * twoTo (-span.exponent).toNat

def spanUnit (span : Span) (power : Int) : Nat :=
  twoTo span.exponent.toNat * tenTo (-power).toNat

def gridScale (span : Span) (power : Int) : ℚ :=
  tenTo (-power).toNat * twoTo (-span.exponent).toNat

theorem gridStep_pos (span : Span) (power : Int) : 0 < gridStep span power :=
  Nat.mul_pos (tenTo_pos _) (twoTo_pos _)

theorem spanUnit_pos (span : Span) (power : Int) : 0 < spanUnit span power :=
  Nat.mul_pos (twoTo_pos _) (tenTo_pos _)

theorem gridScale_pos (span : Span) (power : Int) : 0 < gridScale span power := by
  have tens : (0 : ℚ) < tenTo (-power).toNat := by exact_mod_cast tenTo_pos _
  have twos : (0 : ℚ) < twoTo (-span.exponent).toNat := by exact_mod_cast twoTo_pos _
  exact mul_pos tens twos

theorem gridStep_eq (span : Span) (power : Int) :
    (gridStep span power : ℚ) = 10 ^ power * gridScale span power := by
  have tens : (tenTo (-power).toNat : ℚ) ≠ 0 := by exact_mod_cast (tenTo_pos _).ne'
  rw [ten_zpow, gridStep, gridScale]
  push_cast
  field_simp

theorem spanUnit_eq (span : Span) (power : Int) :
    (spanUnit span power : ℚ) = 2 ^ span.exponent * gridScale span power := by
  have twos : (twoTo (-span.exponent).toNat : ℚ) ≠ 0 := by exact_mod_cast (twoTo_pos _).ne'
  rw [two_zpow, spanUnit, gridScale]
  push_cast
  field_simp

section Comparison

variable (span : Span) (power : Int) (bound count : Nat)

theorem bound_lt_iff : bound * spanUnit span power < count * gridStep span power ↔
    (bound : ℚ) * 2 ^ span.exponent < count * 10 ^ power := by
  rw [← mul_lt_mul_iff_of_pos_right (gridScale_pos span power), mul_assoc, mul_assoc,
    ← spanUnit_eq, ← gridStep_eq]
  exact_mod_cast Iff.rfl

theorem lt_bound_iff : count * gridStep span power < bound * spanUnit span power ↔
    (count : ℚ) * 10 ^ power < bound * 2 ^ span.exponent := by
  rw [← mul_lt_mul_iff_of_pos_right (gridScale_pos span power), mul_assoc, mul_assoc,
    ← spanUnit_eq, ← gridStep_eq]
  exact_mod_cast Iff.rfl

theorem eq_bound_iff : count * gridStep span power = bound * spanUnit span power ↔
    (count : ℚ) * 10 ^ power = bound * 2 ^ span.exponent := by
  rw [← mul_left_inj' (gridScale_pos span power).ne', mul_assoc, mul_assoc, ← spanUnit_eq,
    ← gridStep_eq]
  exact_mod_cast Iff.rfl

end Comparison

/-- Whether a decimal on a grid reads back. -/
def Span.takes (span : Span) (power : Int) (count : Nat) : Bool :=
  (span.low * spanUnit span power < count * gridStep span power &&
      count * gridStep span power < span.high * spanUnit span power) ||
    (span.closed && (count * gridStep span power == span.low * spanUnit span power ||
      count * gridStep span power == span.high * spanUnit span power))

theorem takes_iff (span : Span) (power : Int) (count : Nat) :
    span.takes power count = true ↔ span.Covers (count * 10 ^ power) := by
  simp only [Span.takes, Bool.or_eq_true, Bool.and_eq_true, decide_eq_true_eq, beq_iff_eq,
    bound_lt_iff, lt_bound_iff, eq_bound_iff]
  exact Iff.rfl

/-- The neighbour below on a grid; the one above is the next. -/
def neighbour (span : Span) (power : Int) : Nat :=
  span.middle * spanUnit span power / gridStep span power

theorem takes_of_onGrid? {span : Span} {power : Int} {count : Nat}
    (found : onGrid? span power = some count) : span.takes power count = true := by
  simp only [onGrid?] at found
  split at found
  · next below above =>
    split at found
    · obtain rfl := Option.some.inj found
      exact below
    · split at found
      · obtain rfl := Option.some.inj found
        exact above
      · -- The even one of two neighbours is either of them.
        obtain rfl := Option.some.inj found
        change span.takes power (neighbour span power + neighbour span power % 2) = true
        rcases Nat.mod_two_eq_zero_or_one (neighbour span power) with even | odd
        · rw [even]
          exact below
        · rw [odd]
          exact above
  · next below _ =>
    obtain rfl := Option.some.inj found
    exact below
  · next above =>
    obtain rfl := Option.some.inj found
    exact above
  · exact absurd found (by simp)

theorem takes_neighbour {span : Span} {power : Int} (low : span.low < span.middle)
    (high : span.middle < span.high) (fine : (10 : ℚ) ^ power ≤ 2 ^ span.exponent) :
    span.takes power (neighbour span power) = true := by
  have narrow : gridStep span power ≤ spanUnit span power := by
    have decided := not_congr (bound_lt_iff span power 1 1)
    simp only [Nat.cast_one, one_mul, not_lt] at decided
    exact decided.mpr fine
  have parts := Nat.div_add_mod' (span.middle * spanUnit span power) (gridStep span power)
  have small := Nat.mod_lt (span.middle * spanUnit span power) (gridStep_pos span power)
  have lower : (span.low + 1) * spanUnit span power ≤ span.middle * spanUnit span power :=
    Nat.mul_le_mul_right _ low
  have upper : span.middle * spanUnit span power < span.high * spanUnit span power :=
    Nat.mul_lt_mul_of_pos_right high (spanUnit_pos span power)
  rw [Nat.add_mul, Nat.one_mul] at lower
  have within : span.low * spanUnit span power < neighbour span power * gridStep span power ∧
      neighbour span power * gridStep span power < span.high * spanUnit span power := by
    rw [neighbour]
    omega
  simp [Span.takes, within]

theorem onGrid?_isSome {span : Span} {power : Int}
    (taken : span.takes power (neighbour span power) = true) :
    ∃ count, onGrid? span power = some count := by
  simp only [onGrid?]
  split
  · split
    · exact ⟨_, rfl⟩
    · split <;> exact ⟨_, rfl⟩
  · exact ⟨_, rfl⟩
  · exact ⟨_, rfl⟩
  · next absent _ => exact absurd (taken.symm.trans absent) (by simp)

theorem covers_search {span : Span} (low : span.low < span.middle) (high : span.middle < span.high)
    (tries : Nat) (power : Int)
    (fine : (10 : ℚ) ^ (power - tries) ≤ 2 ^ span.exponent) :
    span.Covers ((search span (tries + 1) power).1 * 10 ^ (search span (tries + 1) power).2) := by
  induction tries generalizing power with
  -- The last grid is fine enough for a neighbour on it to read back.
  | zero =>
    obtain ⟨count, found⟩ := onGrid?_isSome (takes_neighbour low high (by simpa using fine))
    rw [search, found]
    exact (takes_iff _ _ _).mp (takes_of_onGrid? found)
  | succ tries ih =>
    rw [search]
    split
    · next count found => exact (takes_iff _ _ _).mp (takes_of_onGrid? found)
    · refine ih (power - 1) ?_
      convert fine using 2
      omega

theorem Span.Covers.units {significand : Nat} {exponent : Int} {value : ℚ}
    (covers : (spanOf significand exponent).Covers value) :
    (spanOf significand exponent).low / 4 < value / 2 ^ exponent ∧
        value / 2 ^ exponent < significand + 1 / 2 ∨
      significand % 2 = 0 ∧ (value / 2 ^ exponent = (spanOf significand exponent).low / 4 ∨
        value / 2 ^ exponent = significand + 1 / 2) := by
  have unit : (0 : ℚ) < 2 ^ exponent := by positivity
  have shift : (2 : ℚ) ^ (spanOf significand exponent).exponent = 1 / 4 * 2 ^ exponent := by
    simp only [spanOf]
    rw [zpow_sub₀ (by norm_num)]
    norm_num
    ring
  have top : ((spanOf significand exponent).high : ℚ) * (1 / 4) = significand + 1 / 2 := by
    simp only [spanOf]
    push_cast
    ring
  have closed : (spanOf significand exponent).closed = true ↔ significand % 2 = 0 := by
    simp [spanOf]
  rwa [Span.Covers, shift, ← mul_assoc, ← mul_assoc, top, mul_one_div, ← lt_div_iff₀ unit,
    ← div_lt_iff₀ unit, ← div_eq_iff unit.ne', ← div_eq_iff unit.ne', closed] at covers

theorem near_of_covers {significand : Nat} {exponent : Int} {value : ℚ}
    (covers : (spanOf significand exponent).Covers value) : Near significand exponent value := by
  have least : (4 * significand : ℚ) ≤ (spanOf significand exponent).low + 2 := by
    have whole : 4 * significand ≤ (spanOf significand exponent).low + 2 := by
      simp only [spanOf]
      split <;> omega
    exact_mod_cast whole
  have dense : significand = twoTo 52 → leastExponent < exponent →
      (4 * significand : ℚ) ≤ (spanOf significand exponent).low + 1 := by
    intro power inner
    have whole : 4 * significand ≤ (spanOf significand exponent).low + 1 := by
      simp only [spanOf]
      rw [if_pos (by simp [power, inner])]
      omega
    exact_mod_cast whole
  rcases covers.units with ⟨above, below⟩ | ⟨even, bottom | top⟩
  · exact ⟨by linarith, below.le, .inr ⟨by linarith, below⟩,
      fun power inner => by linarith [dense power inner]⟩
  · have most : ((spanOf significand exponent).low : ℚ) ≤ 4 * significand := by
      have whole : (spanOf significand exponent).low ≤ 4 * significand := by
        simp only [spanOf]
        split <;> omega
      exact_mod_cast whole
    exact ⟨by linarith, by linarith, .inl even, fun power inner => by linarith [dense power inner]⟩
  · exact ⟨by linarith, top.le, .inl even, fun _ _ => by linarith⟩

theorem near_decimalOf {negative : Bool} {significand : Nat} {exponent : Int}
    (lowest : (Binary64.finite negative significand exponent).Lowest) (nonzero : significand ≠ 0) :
    Near significand exponent ((decimalOf significand exponent).1 *
      10 ^ (decimalOf significand exponent).2) := by
  obtain ⟨small, least, most, _⟩ := lowest
  simp only [leastExponent, greatestExponent] at least most
  have bits : significand.log2 < 53 := (Nat.log2_lt nonzero).mpr small
  refine near_of_covers (covers_search ?_ ?_ 24 _ ?_)
  · simp only [spanOf]
    split <;> omega
  · simp [spanOf]
  · rw [Int.fdiv_eq_ediv_of_nonneg _ (by decide)]
    refine ten_zpow_le_two_zpow ?_ ?_ <;> simp only [spanOf] <;> omega

end Folio.Number.Shortest
