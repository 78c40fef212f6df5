import Folio.Number.Decimal
import Mathlib.Algebra.Order.Field.Power
import Mathlib.Data.List.Induction
import Mathlib.Data.Rat.Defs
import Mathlib.Tactic.FieldSimp
import Mathlib.Tactic.Linarith
import Mathlib.Tactic.NormNum
import Mathlib.Tactic.Positivity
import Mathlib.Tactic.Ring

/-! Digits are read back as the number they were written for, and powers are kept whole: what stands
on either side of a comparison of whole numbers is one power of a fraction. -/
namespace Folio.Number

theorem ofDigits_digits (n : Nat) : ofDigits (digits n) = n := Nat.ofDigitChars_ten_toDigits

theorem ofDigits_append (left right : List Char) :
    ofDigits (left ++ right) = ofDigits left * tenTo right.length + ofDigits right := by
  change Nat.ofDigitChars 10 (left ++ right) 0 = _
  rw [Nat.ofDigitChars_append, Nat.ofDigitChars_eq_ofDigitChars_zero, Nat.mul_comm]
  rfl

theorem ofDigits_zeros (count : Nat) : ofDigits (List.replicate count '0') = 0 := by
  change Nat.ofDigitChars 10 (List.replicate count '0') 0 = 0
  rw [Nat.ofDigitChars_replicate_zero, Nat.mul_zero]

theorem ofDigits_lt {text : List Char} (all : ∀ c ∈ text, isDigit c = true) :
    ofDigits text < tenTo text.length := by
  induction text using List.reverseRecOn with
  | nil => decide
  | append_singleton text last ih =>
    have before := ih fun c member => all c (by simp [member])
    have digit := all last (by simp)
    simp only [isDigit, Bool.and_eq_true, decide_eq_true_eq, Char.le_def,
      UInt32.le_iff_toNat_le] at digit
    have value : ofDigits [last] ≤ 9 := by
      have upper : last.toNat ≤ 57 := digit.2
      simp only [ofDigits, List.foldl_cons, List.foldl_nil]
      omega
    have grown : tenTo (text.length + 1) = tenTo text.length * 10 := tenTo_succ _
    have one : tenTo 1 = 10 := rfl
    rw [ofDigits_append, List.length_append, List.length_singleton, grown, one]
    omega

theorem isDigit_eq (c : Char) : isDigit c = c.isDigit := by
  simp [isDigit, Char.isDigit, Char.le_def]

theorem isDigit_of_mem_digits {n : Nat} {c : Char} (member : c ∈ digits n) : isDigit c = true := by
  rw [isDigit_eq]
  exact Nat.isDigit_of_mem_toDigits (by decide) (by decide) member

theorem digits_length_pos (n : Nat) : 0 < (digits n).length := Nat.length_toDigits_pos

theorem digits_length_le_iff (n : Nat) {count : Nat} (some : 0 < count) :
    (digits n).length ≤ count ↔ n < tenTo count :=
  Nat.length_toDigits_le_iff (by decide) some

theorem digits_of_small {n : Nat} (small : n < 10) : digits n = [Nat.digitChar n] :=
  Nat.toDigits_of_lt_base small

theorem digits_head {n : Nat} (positive : n ≠ 0) :
    ∃ first rest, digits n = first :: rest ∧ isDigit first = true ∧ first ≠ '0' := by
  induction n using Nat.strongRecOn with
  | ind n ih =>
    by_cases small : n < 10
    · have all : ∀ n : Fin 10, n.val ≠ 0 →
          isDigit (Nat.digitChar n.val) = true ∧ Nat.digitChar n.val ≠ '0' := by decide
      obtain ⟨digit, nonzero⟩ := all ⟨n, small⟩ positive
      exact ⟨_, [], digits_of_small small, digit, nonzero⟩
    · obtain ⟨first, rest, shape, digit, nonzero⟩ := ih (n / 10) (by omega) (by omega)
      refine ⟨first, rest ++ [Nat.digitChar (n % 10)], ?_, digit, nonzero⟩
      rw [digits, Nat.toDigits_of_base_le (by decide) (by omega), ← digits, shape, List.cons_append]

theorem tenTo_le_of_digits {n : Nat} (positive : n ≠ 0) :
    tenTo ((digits n).length - 1) ≤ n := by
  by_cases more : 0 < (digits n).length - 1
  · by_contra less
    have fewer := (digits_length_le_iff n more).mpr (Nat.lt_of_not_le less)
    omega
  · have none : (digits n).length - 1 = 0 := by omega
    rw [none]
    exact Nat.one_le_iff_ne_zero.mpr positive

theorem lt_tenTo_digits (n : Nat) : n < tenTo (digits n).length :=
  (digits_length_le_iff n (digits_length_pos n)).mp (Nat.le_refl _)

theorem twoTo_pos (n : Nat) : 0 < twoTo n := Nat.two_pow_pos n

theorem tenTo_pos (n : Nat) : 0 < tenTo n := Nat.pow_pos (by decide)

theorem tenTo_le_tenTo {fewer more : Nat} (least : fewer ≤ more) : tenTo fewer ≤ tenTo more :=
  Nat.pow_le_pow_right (by decide) least

theorem cast_twoTo (n : Nat) : (twoTo n : ℚ) = 2 ^ n := by
  simp [twoTo]

theorem cast_tenTo (n : Nat) : (tenTo n : ℚ) = 10 ^ n := by
  simp [tenTo]

theorem zpow_eq_div {base : ℚ} (nonzero : base ≠ 0) (power : Int) :
    base ^ power = base ^ power.toNat / base ^ (-power).toNat := by
  have parts : power = (power.toNat : Int) - (-power).toNat := by omega
  conv_lhs => rw [parts]
  rw [zpow_sub₀ nonzero, zpow_natCast, zpow_natCast]

theorem two_zpow (power : Int) :
    (2 : ℚ) ^ power = twoTo power.toNat / twoTo (-power).toNat := by
  rw [cast_twoTo, cast_twoTo]
  exact zpow_eq_div (by norm_num) power

theorem ten_zpow (power : Int) :
    (10 : ℚ) ^ power = tenTo power.toNat / tenTo (-power).toNat := by
  rw [cast_tenTo, cast_tenTo]
  exact zpow_eq_div (by norm_num) power

theorem ten_zpow_le_two_zpow {places bits : Int} (up : 10 * places ≤ 3 * bits)
    (down : 93 * places ≤ 28 * bits) : (10 : ℚ) ^ places ≤ 2 ^ bits := by
  have powered : ∀ (base : ℚ) (count : Nat) (power : Int),
      (base ^ power) ^ count = (base ^ count) ^ power := by
    intro base count power
    rw [← zpow_natCast, ← zpow_mul, Int.mul_comm, zpow_mul, zpow_natCast]
  -- Three places are fewer than ten bits, and twenty-eight places more than ninety-three bits.
  rcases le_or_gt 0 places with positive | negative
  · refine (pow_le_pow_iff_left₀ (by positivity) (by positivity) (by norm_num : 3 ≠ 0)).mp ?_
    calc ((10 : ℚ) ^ places) ^ 3
        = (10 ^ 3) ^ places := powered 10 3 places
      _ ≤ (2 ^ 10) ^ places := zpow_le_zpow_left₀ positive (by norm_num) (by norm_num)
      _ = 2 ^ (10 * places) := by rw [zpow_mul]; rfl
      _ ≤ 2 ^ (3 * bits) := zpow_le_zpow_right₀ (by norm_num) up
      _ = (2 ^ bits) ^ 3 := by rw [powered, zpow_mul]; rfl
  · refine (pow_le_pow_iff_left₀ (by positivity) (by positivity) (by norm_num : 28 ≠ 0)).mp ?_
    have inverted : ((10 : ℚ) ^ 28)⁻¹ ≤ (2 ^ 93)⁻¹ := by norm_num
    calc ((10 : ℚ) ^ places) ^ 28
        = ((10 ^ 28)⁻¹) ^ (-places) := by rw [powered, inv_zpow', Int.neg_neg]
      _ ≤ ((2 ^ 93)⁻¹) ^ (-places) := zpow_le_zpow_left₀ (by omega) (by positivity) inverted
      _ = 2 ^ (93 * places) := by rw [inv_zpow', Int.neg_neg, zpow_mul]; rfl
      _ ≤ 2 ^ (28 * bits) := zpow_le_zpow_right₀ (by norm_num) down
      _ = (2 ^ bits) ^ 28 := by rw [powered, zpow_mul]; rfl

theorem two_zpow_le_ten_zpow {bits places : Int} (up : 28 * bits ≤ 93 * places)
    (down : 3 * bits ≤ 10 * places) : (2 : ℚ) ^ bits ≤ 10 ^ places := by
  have inverted : (10 : ℚ) ^ (-places) ≤ 2 ^ (-bits) :=
    ten_zpow_le_two_zpow (by omega) (by omega)
  rwa [zpow_neg, zpow_neg, inv_le_inv₀ (by positivity) (by positivity)] at inverted

end Folio.Number
