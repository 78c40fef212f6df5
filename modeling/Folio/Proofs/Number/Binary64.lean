import Folio.Number.Binary64
import Folio.Proofs.Number.Decimal
import Mathlib.Data.Nat.Log
import Mathlib.Tactic.NormNum

/-! Decimals are rounded to the nearest number: a number in lowest form is what comes of every
decimal that lies no further from it than half the way to the next one, and whatever comes of a
decimal is in lowest form. -/
namespace Folio.Number.Binary64

/-- In range, with 53 bits or at the least exponent. -/
def Lowest : Binary64 → Prop
  | .finite _ significand exponent =>
    significand < twoTo 53 ∧ leastExponent ≤ exponent ∧ exponent ≤ greatestExponent ∧
      (twoTo 52 ≤ significand ∨ exponent = leastExponent)
  | _ => True

theorem lowest_zero (negative : Bool) : (zero negative).Lowest := by
  simp [zero, Lowest, twoTo_pos, leastExponent, greatestExponent]

theorem roundHalfEven_eq {numerator denominator whole : Nat} (positive : 0 < denominator)
    (above : 2 * (whole * denominator) ≤ 2 * numerator + denominator)
    (below : 2 * numerator ≤ 2 * (whole * denominator) + denominator)
    (tie : whole % 2 = 0 ∨ 2 * (whole * denominator) < 2 * numerator + denominator ∧
      2 * numerator < 2 * (whole * denominator) + denominator) :
    roundHalfEven numerator denominator = whole := by
  have parts := Nat.div_add_mod' numerator denominator
  have small := Nat.mod_lt numerator positive
  simp only [roundHalfEven]
  generalize numerator / denominator = quotient at parts ⊢
  generalize numerator % denominator = remainder at parts small ⊢
  -- The quotient is the whole number itself or the one before it.
  obtain rfl | rfl : whole = quotient ∨ whole = quotient + 1 := by
    have upper : whole < quotient + 2 := by
      refine Nat.lt_of_mul_lt_mul_right (a := denominator) ?_
      rw [Nat.add_mul]
      omega
    have lower : quotient < whole + 1 := by
      refine Nat.lt_of_mul_lt_mul_right (a := denominator) ?_
      rw [Nat.add_mul]
      omega
    omega
  · split
    · rfl
    · split
      · omega
      · rcases tie with even | strict <;> omega
  · rw [Nat.add_mul] at above below tie
    split
    · omega
    · split
      · rfl
      · rcases tie with even | strict <;> omega

theorem le_roundHalfEven {numerator denominator bound : Nat} (positive : 0 < denominator)
    (reached : bound * denominator ≤ numerator) : bound ≤ roundHalfEven numerator denominator := by
  have least : bound ≤ numerator / denominator := (Nat.le_div_iff_mul_le positive).mpr reached
  simp only [roundHalfEven]
  split
  · exact least
  · split <;> omega

theorem roundHalfEven_le {numerator denominator bound : Nat} (positive : 0 < denominator)
    (short : numerator < bound * denominator) : roundHalfEven numerator denominator ≤ bound := by
  have most : numerator / denominator < bound := (Nat.div_lt_iff_lt_mul positive).mpr short
  simp only [roundHalfEven]
  split
  · omega
  · split <;> omega

theorem roundHalfEven_of_near {numerator denominator whole : Nat} (positive : 0 < denominator)
    (above : (whole : ℚ) - 1 / 2 ≤ numerator / denominator)
    (below : (numerator : ℚ) / denominator ≤ whole + 1 / 2)
    (tie : whole % 2 = 0 ∨ (whole : ℚ) - 1 / 2 < numerator / denominator ∧
      (numerator : ℚ) / denominator < whole + 1 / 2) :
    roundHalfEven numerator denominator = whole := by
  have scale : (0 : ℚ) < denominator := by exact_mod_cast positive
  refine roundHalfEven_eq positive ?_ ?_ (tie.imp_right fun strict => ⟨?_, ?_⟩)
  · rw [le_div_iff₀ scale] at above
    have doubled : (2 * (whole * denominator) : ℚ) ≤ 2 * numerator + denominator := by linarith
    exact_mod_cast doubled
  · rw [div_le_iff₀ scale] at below
    have doubled : (2 * numerator : ℚ) ≤ 2 * (whole * denominator) + denominator := by linarith
    exact_mod_cast doubled
  · have strictly := (lt_div_iff₀ scale).mp strict.1
    have doubled : (2 * (whole * denominator) : ℚ) < 2 * numerator + denominator := by linarith
    exact_mod_cast doubled
  · have strictly := (div_lt_iff₀ scale).mp strict.2
    have doubled : (2 * numerator : ℚ) < 2 * (whole * denominator) + denominator := by linarith
    exact_mod_cast doubled

theorem scaled_div (numerator denominator : Nat) (exponent : Int) :
    ((numerator * twoTo (-exponent).toNat : Nat) : ℚ) /
        ((denominator * twoTo exponent.toNat : Nat) : ℚ) =
      numerator / denominator / 2 ^ exponent := by
  push_cast
  rw [two_zpow, div_div_div_eq]

theorem two_zpow_le_log2 {n : Nat} (positive : n ≠ 0) : (2 : ℚ) ^ (n.log2 : Int) ≤ n := by
  rw [zpow_natCast]
  exact_mod_cast Nat.log2_self_le positive

theorem lt_two_zpow_log2 (n : Nat) : (n : ℚ) < 2 ^ ((n.log2 : Int) + 1) := by
  have bound : n < 2 ^ (n.log2 + 1) := Nat.lt_log2_self
  exact_mod_cast bound

theorem binaryOrder_bounds {numerator denominator : Nat} (some : numerator ≠ 0)
    (positive : denominator ≠ 0) :
    (2 : ℚ) ^ binaryOrder numerator denominator ≤ numerator / denominator ∧
      (numerator : ℚ) / denominator < 2 ^ (binaryOrder numerator denominator + 1) := by
  have scale : (0 : ℚ) < denominator := by exact_mod_cast Nat.pos_of_ne_zero positive
  have two : (2 : ℚ) ≠ 0 := by norm_num
  -- The guess is right or one too much.
  have least : (2 : ℚ) ^ ((numerator.log2 : Int) - denominator.log2 - 1) ≤ numerator / denominator := by
    rw [le_div_iff₀ scale]
    calc (2 : ℚ) ^ ((numerator.log2 : Int) - denominator.log2 - 1) * denominator
        ≤ 2 ^ ((numerator.log2 : Int) - denominator.log2 - 1) * 2 ^ ((denominator.log2 : Int) + 1) := by
          have upper := (lt_two_zpow_log2 denominator).le
          gcongr
      _ = 2 ^ (numerator.log2 : Int) := by
          rw [← zpow_add₀ two]
          congr 1
          omega
      _ ≤ numerator := two_zpow_le_log2 some
  have most : (numerator : ℚ) / denominator < 2 ^ ((numerator.log2 : Int) - denominator.log2 + 1) := by
    rw [div_lt_iff₀ scale]
    calc (numerator : ℚ)
        < 2 ^ ((numerator.log2 : Int) + 1) := lt_two_zpow_log2 numerator
      _ = 2 ^ ((numerator.log2 : Int) - denominator.log2 + 1) * 2 ^ (denominator.log2 : Int) := by
          rw [← zpow_add₀ two]
          congr 1
          omega
      _ ≤ 2 ^ ((numerator.log2 : Int) - denominator.log2 + 1) * denominator := by
          have lower := two_zpow_le_log2 positive
          gcongr
  simp only [binaryOrder]
  generalize (numerator.log2 : Int) - denominator.log2 = guess at least most ⊢
  have decided : numerator * twoTo (-guess).toNat < denominator * twoTo guess.toNat ↔
      (numerator : ℚ) / denominator < 2 ^ guess := by
    have units : (0 : ℚ) < (denominator * twoTo guess.toNat : Nat) := by
      exact_mod_cast Nat.mul_pos (Nat.pos_of_ne_zero positive) (twoTo_pos _)
    have power : (0 : ℚ) < 2 ^ guess := by positivity
    rw [← div_lt_one power, ← scaled_div, div_lt_one units]
    exact_mod_cast Iff.rfl
  split
  · next less =>
    rw [decided] at less
    exact ⟨least, by simpa using less⟩
  · next more =>
    rw [decided, not_lt] at more
    exact ⟨more, most⟩

/-- A value that is rounded to `significand * 2 ^ exponent`, counted in units of `2 ^ exponent`. It
is no more than half a unit away, and at half a unit the significand is even. -/
structure Near (significand : Nat) (exponent : Int) (value : ℚ) : Prop where
  above : (significand : ℚ) - 1 / 2 ≤ value / 2 ^ exponent
  below : value / 2 ^ exponent ≤ significand + 1 / 2
  tie : significand % 2 = 0 ∨ (significand : ℚ) - 1 / 2 < value / 2 ^ exponent ∧
    value / 2 ^ exponent < significand + 1 / 2
  /-- Just above a power of two the numbers below lie twice as dense. -/
  dense : significand = twoTo 52 → leastExponent < exponent →
    (significand : ℚ) - 1 / 4 ≤ value / 2 ^ exponent

theorem Near.ne_zero {significand coefficient : Nat} {exponent power : Int}
    (near : Near significand exponent (coefficient * 10 ^ power)) (nonzero : significand ≠ 0) :
    coefficient ≠ 0 := by
  rintro rfl
  have one : (1 : ℚ) ≤ significand := by exact_mod_cast Nat.one_le_iff_ne_zero.mpr nonzero
  have above := near.above
  rw [Nat.cast_zero, zero_mul, zero_div] at above
  linarith

theorem ofRatio_of_rounded {numerator denominator significand : Nat} {exponent : Int}
    (negative : Bool)
    (order : max (binaryOrder numerator denominator - 52) leastExponent = exponent)
    (rounded : roundHalfEven (numerator * twoTo (-exponent).toNat)
      (denominator * twoTo exponent.toNat) = significand)
    (small : significand < twoTo 53) (inRange : exponent ≤ greatestExponent) :
    ofRatio negative numerator denominator = .finite negative significand exponent := by
  have other : (significand == twoTo 53) = false := by simpa using Nat.ne_of_lt small
  simp [ofRatio, order, rounded, other, Int.not_lt.mpr inRange]

theorem ofRatio_of_carried {numerator denominator : Nat} {exponent : Int} (negative : Bool)
    (order : max (binaryOrder numerator denominator - 52) leastExponent = exponent)
    (rounded : roundHalfEven (numerator * twoTo (-exponent).toNat)
      (denominator * twoTo exponent.toNat) = twoTo 53)
    (inRange : exponent + 1 ≤ greatestExponent) :
    ofRatio negative numerator denominator = .finite negative (twoTo 52) (exponent + 1) := by
  simp [ofRatio, order, rounded, Int.not_lt.mpr inRange]

theorem binaryOrder_eq {numerator denominator : Nat} (some : numerator ≠ 0)
    (positive : denominator ≠ 0) (order : Int) (least : (2 : ℚ) ^ order ≤ numerator / denominator)
    (most : (numerator : ℚ) / denominator < 2 ^ (order + 1)) :
    binaryOrder numerator denominator = order := by
  obtain ⟨lower, upper⟩ := binaryOrder_bounds some positive
  have up := (zpow_lt_zpow_iff_right₀ (by norm_num : (1 : ℚ) < 2)).mp (least.trans_lt upper)
  have down := (zpow_lt_zpow_iff_right₀ (by norm_num : (1 : ℚ) < 2)).mp (lower.trans_lt most)
  omega

theorem binaryOrder_lt {numerator denominator : Nat} {order : Int} (some : numerator ≠ 0)
    (positive : denominator ≠ 0) (most : (numerator : ℚ) / denominator < 2 ^ order) :
    binaryOrder numerator denominator < order :=
  (zpow_lt_zpow_iff_right₀ (by norm_num : (1 : ℚ) < 2)).mp
    ((binaryOrder_bounds some positive).1.trans_lt most)

theorem lt_zpow_of_units {value : ℚ} {exponent : Int} {bits : Nat}
    (fewer : value / 2 ^ exponent < twoTo bits) : value < 2 ^ (exponent + bits) := by
  have power : (0 : ℚ) < 2 ^ exponent := by positivity
  rw [div_lt_iff₀ power, cast_twoTo, ← zpow_natCast, ← zpow_add₀ (by norm_num)] at fewer
  rwa [Int.add_comm]

theorem zpow_le_of_units {value : ℚ} {exponent : Int} {bits : Nat}
    (more : twoTo bits ≤ value / 2 ^ exponent) : 2 ^ (exponent + bits) ≤ value := by
  have power : (0 : ℚ) < 2 ^ exponent := by positivity
  rw [le_div_iff₀ power, cast_twoTo, ← zpow_natCast, ← zpow_add₀ (by norm_num)] at more
  rwa [Int.add_comm]

section OfRatio

variable {negative : Bool} {significand numerator denominator : Nat} {exponent : Int}

theorem ofRatio_of_near_within (lowest : (Binary64.finite negative significand exponent).Lowest)
    (some : numerator ≠ 0) (positive : denominator ≠ 0)
    (near : Near significand exponent (numerator / denominator))
    (reached : exponent = leastExponent ∨
      (twoTo 52 : ℚ) ≤ numerator / denominator / 2 ^ exponent) :
    ofRatio negative numerator denominator = .finite negative significand exponent := by
  obtain ⟨small, least, most, _⟩ := lowest
  refine ofRatio_of_rounded negative ?_ ?_ small most
  -- In its own exponent the number has at most 53 bits, which settles the order of the value.
  · have bounded : (numerator : ℚ) / denominator < 2 ^ (exponent + 53 : Int) := by
      refine lt_zpow_of_units (near.below.trans_lt ?_)
      have next : (significand : ℚ) + 1 ≤ twoTo 53 := by exact_mod_cast small
      linarith
    have upper := binaryOrder_lt some positive bounded
    rcases reached with bottom | full
    · omega
    · have exact := binaryOrder_eq some positive (exponent + 52) (zpow_le_of_units full)
        (by rwa [Int.add_assoc])
      omega
  · have units : 0 < denominator * twoTo exponent.toNat :=
      Nat.mul_pos (Nat.pos_of_ne_zero positive) (twoTo_pos _)
    refine roundHalfEven_of_near units ?_ ?_ ?_ <;> rw [scaled_div]
    · exact near.above
    · exact near.below
    · exact near.tie

theorem ofRatio_of_near_below (lowest : (Binary64.finite negative significand exponent).Lowest)
    (some : numerator ≠ 0) (positive : denominator ≠ 0)
    (near : Near significand exponent (numerator / denominator)) (inner : exponent ≠ leastExponent)
    (short : (numerator : ℚ) / denominator / 2 ^ exponent < twoTo 52) :
    ofRatio negative numerator denominator = .finite negative significand exponent := by
  obtain ⟨_, least, most, full⟩ := lowest
  have full := full.resolve_right inner
  obtain rfl : significand = twoTo 52 := by
    have close : (significand : ℚ) < twoTo 52 + 1 := by linarith [near.above]
    have close : significand < twoTo 52 + 1 := by exact_mod_cast close
    omega
  have lower := near.dense rfl (by omega)
  -- Counted in the units of the numbers below, the value lies just below twice as many.
  have halved : (numerator : ℚ) / denominator / 2 ^ (exponent - 1) =
      2 * (numerator / denominator / 2 ^ exponent) := by
    rw [zpow_sub_one₀ (by norm_num)]
    field_simp
  have double : (twoTo 53 : ℚ) = 2 * twoTo 52 := by norm_num [twoTo]
  have same : exponent = exponent - 1 + 1 := (Int.sub_add_cancel exponent 1).symm
  rw [same]
  -- There it is rounded up to one bit too many, and the carry leads back to the number.
  refine ofRatio_of_carried negative ?_ ?_ (by omega)
  · have below := lt_zpow_of_units short
    have above : (2 : ℚ) ^ (exponent - 1 + 52) ≤ numerator / denominator := by
      refine zpow_le_of_units ?_
      rw [halved]
      have large : (1 : ℚ) ≤ twoTo 52 := by exact_mod_cast twoTo_pos 52
      linarith
    have exact := binaryOrder_eq some positive (exponent + 51)
      (by convert above using 2; omega) (by convert below using 2; omega)
    omega
  · have units : 0 < denominator * twoTo (exponent - 1).toNat :=
      Nat.mul_pos (Nat.pos_of_ne_zero positive) (twoTo_pos _)
    refine roundHalfEven_of_near units ?_ ?_ (.inl (by decide)) <;> rw [scaled_div, halved, double]
    · linarith
    · linarith

theorem ofRatio_of_near (lowest : (Binary64.finite negative significand exponent).Lowest)
    (some : numerator ≠ 0) (positive : denominator ≠ 0)
    (near : Near significand exponent (numerator / denominator)) :
    ofRatio negative numerator denominator = .finite negative significand exponent := by
  by_cases bottom : exponent = leastExponent
  · exact ofRatio_of_near_within lowest some positive near (.inl bottom)
  · rcases le_or_gt (twoTo 52 : ℚ) (numerator / denominator / 2 ^ exponent) with full | short
    · exact ofRatio_of_near_within lowest some positive near (.inr full)
    · exact ofRatio_of_near_below lowest some positive near bottom short

end OfRatio

theorem decimal_ratio (coefficient : Nat) (power : Int) :
    ((coefficient * tenTo power.toNat : Nat) : ℚ) / (tenTo (-power).toNat : Nat) =
      coefficient * 10 ^ power := by
  push_cast
  rw [ten_zpow, mul_div_assoc]

theorem decimal_size_bounds {coefficient : Nat} (some : coefficient ≠ 0) (power : Int) :
    (10 : ℚ) ^ ((digits coefficient).length + power - 1) ≤ coefficient * 10 ^ power ∧
      (coefficient : ℚ) * 10 ^ power < 10 ^ ((digits coefficient).length + power) := by
  have scale : (0 : ℚ) < 10 ^ power := by positivity
  have count := digits_length_pos coefficient
  constructor
  · have least : ((tenTo ((digits coefficient).length - 1) : Nat) : ℚ) ≤ coefficient := by
      exact_mod_cast tenTo_le_of_digits some
    have shift : ((digits coefficient).length : Int) + power - 1 =
        ((digits coefficient).length - 1 : Nat) + power := by omega
    rw [shift, zpow_add₀ (by norm_num), zpow_natCast, ← cast_tenTo]
    gcongr
  · have most : (coefficient : ℚ) < (tenTo (digits coefficient).length : Nat) := by
      exact_mod_cast lt_tenTo_digits coefficient
    rw [zpow_add₀ (by norm_num), zpow_natCast, ← cast_tenTo]
    gcongr

section OfDecimal

variable {negative : Bool} {significand : Nat} {exponent : Int} {value : ℚ}

theorem Near.least (near : Near significand exponent value) (nonzero : significand ≠ 0)
    (least : leastExponent ≤ exponent) : (2 : ℚ) ^ (-1075 : Int) ≤ value := by
  have unit : (0 : ℚ) < 2 ^ exponent := by positivity
  have one : (1 : ℚ) ≤ significand := by exact_mod_cast Nat.one_le_iff_ne_zero.mpr nonzero
  have half : (1 / 2 : ℚ) ≤ value / 2 ^ exponent := by linarith [near.above]
  calc (2 : ℚ) ^ (-1075 : Int)
      = 1 / 2 * 2 ^ (-1074 : Int) := by
        rw [show (-1075 : Int) = -1 + -1074 by rfl, zpow_add₀ (by norm_num)]
        norm_num
    _ ≤ 1 / 2 * 2 ^ exponent := by
        have units : (2 : ℚ) ^ (-1074 : Int) ≤ 2 ^ exponent :=
          zpow_le_zpow_right₀ (by norm_num) least
        linarith
    _ ≤ value := (le_div_iff₀ unit).mp half

theorem Near.most (near : Near significand exponent value) (small : significand < twoTo 53)
    (most : exponent ≤ greatestExponent) : value < 2 ^ (1024 : Int) := by
  have next : (significand : ℚ) + 1 ≤ twoTo 53 := by exact_mod_cast small
  have bounded : value < 2 ^ (exponent + 53 : Int) :=
    lt_zpow_of_units (near.below.trans_lt (by linarith))
  refine bounded.trans_le (zpow_le_zpow_right₀ (by norm_num) ?_)
  simp only [greatestExponent] at most
  omega

/-- Whatever is spelled for a value near a number is read as that number. -/
theorem ofDecimal_of_near {coefficient : Nat} {power : Int}
    (lowest : (Binary64.finite negative significand exponent).Lowest) (nonzero : significand ≠ 0)
    (near : Near significand exponent (coefficient * 10 ^ power)) :
    ofDecimal negative coefficient power = .finite negative significand exponent := by
  have lower := near.least nonzero lowest.2.1
  have upper := near.most lowest.1 lowest.2.2.1
  have some := near.ne_zero nonzero
  obtain ⟨least, most⟩ := decimal_size_bounds some power
  -- The value is within the range that its size tells.
  have notLarge : (digits coefficient).length + power ≤ 310 := by
    have bound : (2 : ℚ) ^ (1024 : Int) ≤ 10 ^ (310 : Int) :=
      two_zpow_le_ten_zpow (by norm_num) (by norm_num)
    have powers := least.trans_lt (upper.trans_le bound)
    have order := (zpow_lt_zpow_iff_right₀ (by norm_num : (1 : ℚ) < 10)).mp powers
    omega
  have notSmall : -330 ≤ (digits coefficient).length + power := by
    have bound : (10 : ℚ) ^ (-330 : Int) ≤ 2 ^ (-1075 : Int) :=
      ten_zpow_le_two_zpow (by norm_num) (by norm_num)
    have powers := (bound.trans lower).trans_lt most
    have order := (zpow_lt_zpow_iff_right₀ (by norm_num : (1 : ℚ) < 10)).mp powers
    omega
  rw [ofDecimal, if_neg (by simpa using some)]
  simp only [Int.not_lt.mpr notLarge, Int.not_lt.mpr notSmall, ↓reduceIte]
  refine ofRatio_of_near lowest ?_ (tenTo_pos _).ne' ?_
  · exact Nat.mul_ne_zero some (tenTo_pos _).ne'
  · rwa [decimal_ratio]

end OfDecimal

theorem rounded_bounds {numerator denominator : Nat} {exponent : Int} (some : numerator ≠ 0)
    (positive : denominator ≠ 0)
    (shift : max (binaryOrder numerator denominator - 52) leastExponent = exponent) :
    roundHalfEven (numerator * twoTo (-exponent).toNat) (denominator * twoTo exponent.toNat) ≤
        twoTo 53 ∧
      (exponent = leastExponent ∨ twoTo 52 ≤
        roundHalfEven (numerator * twoTo (-exponent).toNat) (denominator * twoTo exponent.toNat)) := by
  obtain ⟨least, most⟩ := binaryOrder_bounds some positive
  have units : 0 < denominator * twoTo exponent.toNat :=
    Nat.mul_pos (Nat.pos_of_ne_zero positive) (twoTo_pos _)
  have power : (0 : ℚ) < 2 ^ exponent := by positivity
  have scale : (0 : ℚ) < (denominator * twoTo exponent.toNat : Nat) := by exact_mod_cast units
  have scaled := scaled_div numerator denominator exponent
  constructor
  · refine roundHalfEven_le units ?_
    have bounded : (numerator : ℚ) / denominator < 2 ^ (exponent + 53) :=
      most.trans_le (zpow_le_zpow_right₀ (by norm_num) (by omega))
    rw [zpow_add₀ (by norm_num), mul_comm, ← div_lt_iff₀ power, ← scaled, div_lt_iff₀ scale] at bounded
    exact_mod_cast bounded
  · refine or_iff_not_imp_left.mpr fun inner => le_roundHalfEven units ?_
    have reached : (2 : ℚ) ^ (exponent + 52) ≤ numerator / denominator := by
      convert least using 2
      omega
    rw [zpow_add₀ (by norm_num), mul_comm, ← le_div_iff₀ power, ← scaled, le_div_iff₀ scale] at reached
    exact_mod_cast reached

theorem lowest_ofRatio (negative : Bool) {numerator denominator : Nat} (some : numerator ≠ 0)
    (positive : denominator ≠ 0) : (ofRatio negative numerator denominator).Lowest := by
  simp only [ofRatio]
  generalize shift : max (binaryOrder numerator denominator - 52) leastExponent = exponent
  obtain ⟨few, many⟩ := rounded_bounds some positive shift
  generalize roundHalfEven (numerator * twoTo (-exponent).toNat)
    (denominator * twoTo exponent.toNat) = rounded at few many ⊢
  have carry : twoTo 52 < twoTo 53 := by decide
  split
  · dsimp only
    split
    · trivial
    · next inRange => exact ⟨carry, by omega, by omega, .inl (Nat.le_refl _)⟩
  · next short =>
    have short : rounded ≠ twoTo 53 := by simpa using short
    dsimp only
    split
    · trivial
    · next inRange => exact ⟨by omega, by omega, by omega, many.symm⟩

theorem lowest_ofDecimal (negative : Bool) (coefficient : Nat) (power : Int) :
    (ofDecimal negative coefficient power).Lowest := by
  unfold ofDecimal
  split
  · exact lowest_zero negative
  · next some =>
    have some : coefficient ≠ 0 := by simpa using some
    dsimp only
    split
    · trivial
    · split
      · exact lowest_zero negative
      · exact lowest_ofRatio negative (Nat.mul_ne_zero some (tenTo_pos _).ne') (tenTo_pos _).ne'

end Folio.Number.Binary64
