import Folio.Json.Printer
import Folio.Json.Reader
import Folio.Proofs.Number.Shortest

/-! A number is read back from its text, whole or not, whatever follows that is no part of a number.
The texts of numbers are put together of a whole part, places behind a point and an exponent, and so
they are read. -/
namespace Folio.Json

open Number (Binary64 digits isDigit ofDigits tenTo)
open Number.Shortest (exponentText layout)

/-- Nothing at the front of a text would be taken for a part of the number before it. -/
def EndsNumber (rest : List Char) : Prop :=
  ∀ c ∈ rest.head?, isDigit c = false ∧ c ≠ '.' ∧ c ≠ 'e' ∧ c ≠ 'E'

theorem endsNumber_nil : EndsNumber [] := by
  simp [EndsNumber]

def AllDigits (text : List Char) : Prop := ∀ c ∈ text, isDigit c = true

theorem allDigits_digits (n : Nat) : AllDigits (digits n) :=
  fun _ member => Number.isDigit_of_mem_digits member

theorem allDigits_zeros (count : Nat) : AllDigits (List.replicate count '0') := by
  intro c member
  rw [List.eq_of_mem_replicate member]
  decide

theorem AllDigits.append {left right : List Char} (first : AllDigits left)
    (second : AllDigits right) : AllDigits (left ++ right) := by
  intro c member
  exact (List.mem_append.mp member).elim (first c) (second c)

theorem takeWhile_digits {text rest : List Char} (all : AllDigits text)
    (ends : ∀ c ∈ rest.head?, isDigit c = false) : (text ++ rest).takeWhile isDigit = text := by
  rw [List.takeWhile_append_of_pos all]
  cases rest with
  | nil => simp
  | cons c rest => simp [ends c rfl]

theorem dropWhile_digits {text rest : List Char} (all : AllDigits text)
    (ends : ∀ c ∈ rest.head?, isDigit c = false) : (text ++ rest).dropWhile isDigit = rest := by
  rw [List.dropWhile_append_of_pos all]
  cases rest with
  | nil => simp
  | cons c rest => simp [ends c rfl]

def IsWhole (text : List Char) : Prop :=
  text = ['0'] ∨ ∃ first rest, text = first :: rest ∧ first ≠ '0' ∧ AllDigits text

theorem isWhole_digits (n : Nat) : IsWhole (digits n) := by
  by_cases zero : n = 0
  · subst zero
    exact .inl rfl
  · obtain ⟨first, rest, shape, _, nonzero⟩ := Number.digits_head zero
    exact .inr ⟨first, rest, shape, nonzero, allDigits_digits n⟩

theorem IsWhole.starts {text : List Char} (whole : IsWhole text) :
    ∃ first more, text = first :: more ∧ isDigit first = true := by
  obtain rfl | ⟨first, more, shape, _, all⟩ := whole
  · exact ⟨'0', [], rfl, rfl⟩
  · exact ⟨first, more, shape, all first (by simp [shape])⟩

theorem wholePart?_whole {text rest : List Char} (whole : IsWhole text)
    (ends : ∀ c ∈ rest.head?, isDigit c = false) : wholePart? (text ++ rest) = some (text, rest) := by
  obtain rfl | ⟨first, more, rfl, nonzero, all⟩ := whole
  · rfl
  · have digit := all first (by simp)
    have others : AllDigits more := fun c member => all c (by simp [member])
    rw [List.cons_append, wholePart?.eq_2 _ _ nonzero, if_pos digit, takeWhile_digits others ends,
      dropWhile_digits others ends]

theorem fractionPart_places {places rest : List Char} (some : places ≠ []) (all : AllDigits places)
    (ends : ∀ c ∈ rest.head?, isDigit c = false) :
    fractionPart ('.' :: places ++ rest) = (.some places, rest) := by
  cases places with
  | nil => exact absurd rfl some
  | cons first more =>
    have digit := all first (by simp)
    have others : AllDigits more := fun c member => all c (by simp [member])
    rw [List.cons_append, List.cons_append, fractionPart, if_pos digit,
      takeWhile_digits others ends, dropWhile_digits others ends]

theorem fractionPart_none {rest : List Char} (ends : ∀ c ∈ rest.head?, c ≠ '.') :
    fractionPart rest = (none, rest) := by
  rw [fractionPart.eq_2]
  rintro c more rfl
  exact ends '.' rfl rfl

theorem exponentPart_none {rest : List Char} (ends : ∀ c ∈ rest.head?, c ≠ 'e' ∧ c ≠ 'E') :
    exponentPart rest = (none, rest) := by
  cases rest with
  | nil => rfl
  | cons c rest =>
    have other := ends c rfl
    simp [exponentPart, other.1, other.2]

theorem signedDigits?_signed {digits rest : List Char} (some : digits ≠ [])
    (all : AllDigits digits) (ends : ∀ c ∈ rest.head?, isDigit c = false) (negative : Bool) :
    signedDigits? ((if negative then '-' else '+') :: digits ++ rest) =
      .some (if negative then -(ofDigits digits : Int) else ofDigits digits, rest) := by
  have taken := takeWhile_digits all ends
  have dropped := dropWhile_digits all ends
  obtain ⟨first, more, rfl⟩ := List.exists_cons_of_ne_nil some
  rw [List.cons_append] at taken dropped
  cases negative <;> simp [signedDigits?, taken, dropped]

theorem exponentText_eq (n : Int) : ∃ digits, digits ≠ [] ∧ AllDigits digits ∧
    ofDigits digits = n.natAbs ∧ exponentText n = 'e' :: (if n < 0 then '-' else '+') :: digits := by
  have zero : AllDigits ['0'] := by
    intro c member
    rw [List.mem_singleton.mp member]
    decide
  have all := allDigits_digits n.natAbs
  have read := Number.ofDigits_digits n.natAbs
  by_cases short : (digits n.natAbs).length < 2
  · refine ⟨'0' :: digits n.natAbs, by simp, zero.append all, ?_, ?_⟩
    · have padded := Number.ofDigits_append ['0'] (digits n.natAbs)
      rw [read] at padded
      simpa [ofDigits] using padded
    · simp [exponentText, short]
  · refine ⟨digits n.natAbs, Nat.toDigits_ne_nil, all, read, ?_⟩
    simp [exponentText, short]

theorem exponentPart_text {n : Int} {rest : List Char}
    (ends : ∀ c ∈ rest.head?, isDigit c = false) :
    exponentPart (exponentText n ++ rest) = (some n, rest) := by
  obtain ⟨places, some, all, read, shape⟩ := exponentText_eq n
  have signed := signedDigits?_signed some all ends (decide (n < 0))
  have value : (if n < 0 then -(ofDigits places : Int) else ofDigits places) = n := by
    rw [read]
    split <;> omega
  simp only [decide_eq_true_eq] at signed
  rw [value] at signed
  rw [List.cons_append] at signed
  simp [shape, exponentPart, signed]

/-- The parts of a number's text after its sign. -/
structure Spelling where
  whole : List Char
  places : Option (List Char)
  exponent : Option Int

namespace Spelling

structure Sound (spelling : Spelling) : Prop where
  whole : IsWhole spelling.whole
  places : ∀ places ∈ spelling.places, places ≠ [] ∧ AllDigits places

def placesText : Option (List Char) → List Char
  | none => []
  | some places => '.' :: places

def scaleText : Option Int → List Char
  | none => []
  | some n => exponentText n

def text (spelling : Spelling) : List Char :=
  spelling.whole ++ (placesText spelling.places ++ scaleText spelling.exponent)

def coefficient (spelling : Spelling) : Nat :=
  ofDigits (spelling.whole ++ spelling.places.getD [])

def power (spelling : Spelling) : Int :=
  spelling.exponent.getD 0 - (spelling.places.getD []).length

def read (negative : Bool) (spelling : Spelling) : Except Stop Value :=
  match spelling.places, spelling.exponent with
  | none, none => wholeNumber negative spelling.whole
  | _, _ => .ok (.float (Binary64.ofDecimal negative spelling.coefficient spelling.power))

theorem Sound.starts {spelling : Spelling} (sound : spelling.Sound) :
    ∃ first more, spelling.text = first :: more ∧ isDigit first = true := by
  obtain ⟨first, more, shape, digit⟩ := sound.whole.starts
  exact ⟨first, _, by rw [text, shape, List.cons_append], digit⟩

theorem readUnsigned?_text {spelling : Spelling} (sound : spelling.Sound) (negative : Bool)
    {rest : List Char} (ends : EndsNumber rest) :
    readUnsigned? negative (spelling.text ++ rest) = some (spelling.read negative, rest) := by
  obtain ⟨whole, places, exponent⟩ := spelling
  -- What follows the whole part does not go on with a digit, nor what follows the places.
  have scaleEnds : ∀ c ∈ (scaleText exponent ++ rest).head?, isDigit c = false ∧ c ≠ '.' := by
    intro c member
    cases exponent with
    | none => exact ⟨(ends c member).1, (ends c member).2.1⟩
    | some n =>
      obtain rfl : 'e' = c := by simpa [scaleText, exponentText] using member
      decide
  have placesEnds : ∀ c ∈ (placesText places ++ (scaleText exponent ++ rest)).head?,
      isDigit c = false := by
    intro c member
    cases places with
    | none => exact (scaleEnds c member).1
    | some places =>
      obtain rfl : '.' = c := by simpa [placesText] using member
      decide
  have first := wholePart?_whole sound.whole placesEnds
  have second : fractionPart (placesText places ++ (scaleText exponent ++ rest)) =
      (places, scaleText exponent ++ rest) := by
    cases places with
    | none => exact fractionPart_none fun c member => (scaleEnds c member).2
    | some places =>
      obtain ⟨some, all⟩ := sound.places places rfl
      exact fractionPart_places some all fun c member => (scaleEnds c member).1
  have third : exponentPart (scaleText exponent ++ rest) = (exponent, rest) := by
    cases exponent with
    | none => exact exponentPart_none fun c member => (ends c member).2.2
    | some n => exact exponentPart_text fun c member => (ends c member).1
  simp only [text, List.append_assoc, readUnsigned?, first, second, third, Option.bind_eq_bind,
    Option.bind_some]
  cases places <;> cases exponent <;> rfl

end Spelling

/-- A spelling of a value, and not of a whole number. -/
structure Spelling.Spells (spelling : Spelling) (text : List Char) (value : ℚ) : Prop where
  sound : spelling.Sound
  text_eq : spelling.text = text
  read_eq (negative : Bool) : spelling.read negative =
    .ok (.float (Binary64.ofDecimal negative spelling.coefficient spelling.power))
  value_eq : (spelling.coefficient : ℚ) * 10 ^ spelling.power = value

section Layouts

variable {first : Char} {more : List Char}

theorem spells_padded (nonzero : first ≠ '0') (all : AllDigits (first :: more)) (zeros : Nat) :
    Spelling.Spells ⟨first :: more ++ List.replicate zeros '0', some ['0'], none⟩
      (first :: more ++ List.replicate zeros '0' ++ ['.', '0'])
      (ofDigits (first :: more) * 10 ^ (zeros : Int)) where
  sound := {
    whole := .inr ⟨first, more ++ List.replicate zeros '0', rfl, nonzero,
      all.append (allDigits_zeros zeros)⟩
    places := by
      rintro places ⟨⟩
      exact ⟨by simp, allDigits_zeros 1⟩ }
  text_eq := by simp [Spelling.text, Spelling.placesText, Spelling.scaleText]
  read_eq _ := rfl
  value_eq := by
    have padded : ofDigits (first :: more ++ List.replicate zeros '0' ++ ['0']) =
        ofDigits (first :: more) * tenTo zeros * 10 := by
      rw [Number.ofDigits_append, Number.ofDigits_append, Number.ofDigits_zeros,
        List.length_replicate]
      rfl
    simp only [Spelling.coefficient, Spelling.power, Option.getD_some, Option.getD_none, padded]
    push_cast
    rw [Number.cast_tenTo]
    simp

theorem spells_parted (nonzero : first ≠ '0') (all : AllDigits (first :: more)) (count : Nat)
    (some : 0 < count) (fewer : count < (first :: more).length) :
    Spelling.Spells ⟨(first :: more).take count, .some ((first :: more).drop count), none⟩
      ((first :: more).take count ++ '.' :: (first :: more).drop count)
      (ofDigits (first :: more) * 10 ^ ((count : Int) - (first :: more).length)) where
  sound := {
    whole := by
      refine .inr ⟨first, more.take (count - 1), ?_, nonzero, fun c member => all c ?_⟩
      · obtain ⟨count, rfl⟩ := Nat.exists_eq_succ_of_ne_zero (Nat.ne_of_gt some)
        rfl
      · exact List.mem_of_mem_take member
    places := by
      rintro places ⟨⟩
      refine ⟨?_, fun c member => all c (List.mem_of_mem_drop member)⟩
      simpa using fewer }
  text_eq := by simp [Spelling.text, Spelling.placesText, Spelling.scaleText]
  read_eq _ := rfl
  value_eq := by
    simp only [Spelling.coefficient, Spelling.power, Option.getD_some, Option.getD_none,
      List.take_append_drop, List.length_drop]
    congr 2
    omega

theorem spells_small (all : AllDigits (first :: more)) (zeros : Nat) :
    Spelling.Spells ⟨['0'], some (List.replicate zeros '0' ++ first :: more), none⟩
      ('0' :: '.' :: (List.replicate zeros '0' ++ first :: more))
      (ofDigits (first :: more) * 10 ^ (-(zeros : Int) - (first :: more).length)) where
  sound := {
    whole := .inl rfl
    places := by
      rintro places ⟨⟩
      exact ⟨by simp, (allDigits_zeros zeros).append all⟩ }
  text_eq := by simp [Spelling.text, Spelling.placesText, Spelling.scaleText]
  read_eq _ := rfl
  value_eq := by
    have led : ofDigits (['0'] ++ (List.replicate zeros '0' ++ first :: more)) =
        ofDigits (first :: more) := by
      rw [Number.ofDigits_append, Number.ofDigits_append, Number.ofDigits_zeros]
      simp [ofDigits]
    simp only [Spelling.coefficient, Spelling.power, Option.getD_some, Option.getD_none, led,
      List.length_append, List.length_replicate]
    congr 2
    omega

theorem spells_scientific (nonzero : first ≠ '0') (all : AllDigits (first :: more)) (power : Int) :
    Spelling.Spells ⟨[first], if more.isEmpty then none else some more, some power⟩
      ([first] ++ (if more.isEmpty then [] else '.' :: more) ++ exponentText power)
      (ofDigits (first :: more) * 10 ^ (power - more.length)) where
  sound := {
    whole := .inr ⟨first, [], rfl, nonzero, fun c member => all c (by simp_all)⟩
    places := by
      intro places member
      split at member
      · exact absurd member (by simp)
      · next others =>
        obtain rfl := Option.some.inj member
        exact ⟨by simpa using others, fun c member => all c (by simp [member])⟩ }
  text_eq := by
    cases more <;> simp [Spelling.text, Spelling.placesText, Spelling.scaleText]
  read_eq _ := by
    cases more <;> rfl
  value_eq := by
    cases more <;> simp [Spelling.coefficient, Spelling.power]

end Layouts

/-- A decimal is laid out in parts that stand for its value. -/
theorem layout_spelling {coefficient : Nat} (nonzero : coefficient ≠ 0) (power : Int) :
    ∃ spelling : Spelling,
      spelling.Spells (layout coefficient power) (coefficient * 10 ^ power) := by
  obtain ⟨first, more, shape, _, leading⟩ := Number.digits_head nonzero
  have all := allDigits_digits coefficient
  have read := Number.ofDigits_digits coefficient
  rw [shape] at all read
  -- One spelling for each way of laying a decimal out.
  simp only [layout, shape]
  split
  · split
    · next whole =>
      have spelled := spells_padded leading all power.toNat
      rw [read, Int.toNat_of_nonneg whole] at spelled
      exact ⟨_, spelled⟩
    · split
      · next point =>
        have spelled := spells_parted leading all (((first :: more).length : Int) + power).toNat
          (by omega) (by omega)
        have shift : ((((first :: more).length : Int) + power).toNat : Int) -
            (first :: more).length = power := by omega
        rw [read, shift] at spelled
        exact ⟨_, spelled⟩
      · next point =>
        have spelled := spells_small all (-(((first :: more).length : Int) + power)).toNat
        have shift : -((-(((first :: more).length : Int) + power)).toNat : Int) -
            (first :: more).length = power := by omega
        rw [read, shift] at spelled
        exact ⟨_, spelled⟩
  · have spelled := spells_scientific leading all (((first :: more).length : Int) + power - 1)
    have shift : ((first :: more).length : Int) + power - 1 - more.length = power := by
      simp only [List.length_cons]
      omega
    rw [read, shift] at spelled
    exact ⟨_, spelled⟩

theorem readWord?_digit {first : Char} (rest : List Char) (digit : isDigit first = true) :
    readWord? (first :: rest) = none ∧ readWord? ('-' :: first :: rest) = none := by
  have others : first ≠ 'n' ∧ first ≠ 't' ∧ first ≠ 'f' ∧ first ≠ 'N' ∧ first ≠ 'I' ∧ first ≠ '-' := by
    refine ⟨?_, ?_, ?_, ?_, ?_, ?_⟩ <;> (rintro rfl; revert digit; decide)
  obtain ⟨n, t, f, N, I, minus⟩ := others
  constructor <;>
    simp [readWord?, words, afterWord?, n.symm, t.symm, f.symm, N.symm, I.symm, minus.symm]

theorem readPlain_signed {negative : Bool} {text rest : List Char} {value : Value}
    (starts : ∃ first more, text = first :: more ∧ isDigit first = true)
    (read : readUnsigned? negative (text ++ rest) = some (.ok value, rest)) :
    readPlain (Number.Shortest.sign negative ++ text ++ rest) = .ok (value, rest) := by
  obtain ⟨first, more, rfl, digit⟩ := starts
  obtain ⟨plain, signed⟩ := readWord?_digit (more ++ rest) digit
  cases negative with
  | true =>
    simp only [List.cons_append] at read
    simp [Number.Shortest.sign, readPlain, signed, readNumber?, read, Except.map]
  | false =>
    have unsigned : first ≠ '-' := by
      rintro rfl
      exact absurd digit (by decide)
    have number : readNumber? (first :: (more ++ rest)) =
        readUnsigned? false (first :: (more ++ rest)) := by
      rw [readNumber?.eq_2]
      rintro others ⟨⟩
      exact unsigned rfl
    simp only [List.cons_append] at read
    simp [Number.Shortest.sign, readPlain, plain, number, read, Except.map]

def WholeReadable (n : Int) : Prop := (digits n.natAbs).length ≤ Number.digitLimit

theorem decimal_eq (n : Int) :
    Number.decimal n = Number.Shortest.sign (decide (n < 0)) ++ digits n.natAbs := by
  cases n with
  | ofNat n =>
    have positive : ¬ Int.ofNat n < 0 := Int.not_lt.mpr (Int.natCast_nonneg n)
    simp [Number.decimal, Number.Shortest.sign]
  | negSucc n => simp [Number.decimal, Number.Shortest.sign]

theorem readPlain_int {n : Int} (readable : WholeReadable n) {rest : List Char}
    (ends : EndsNumber rest) : readPlain (Number.decimal n ++ rest) = .ok (.int n, rest) := by
  have whole := isWhole_digits n.natAbs
  have sound : Spelling.Sound ⟨digits n.natAbs, none, none⟩ := ⟨whole, by simp⟩
  have read := Spelling.readUnsigned?_text sound (decide (n < 0)) ends
  have value : Spelling.read (decide (n < 0)) ⟨digits n.natAbs, none, none⟩ = .ok (.int n) := by
    simp only [Spelling.read, wholeNumber, if_neg (Nat.not_lt.mpr readable),
      Number.ofDigits_digits, decide_eq_true_eq]
    congr 2
    split <;> omega
  rw [value] at read
  simp only [Spelling.text, Spelling.placesText, Spelling.scaleText, List.append_nil] at read
  rw [decimal_eq]
  exact readPlain_signed whole.starts read

theorem readPlain_spelled {negative : Bool} {spelling : Spelling} {text rest : List Char}
    {value : ℚ} {x : Binary64} (spells : spelling.Spells text value) (ends : EndsNumber rest)
    (same : Binary64.ofDecimal negative spelling.coefficient spelling.power = x) :
    readPlain (Number.Shortest.sign negative ++ text ++ rest) = .ok (.float x, rest) := by
  have read := Spelling.readUnsigned?_text spells.sound negative ends
  rw [spells.read_eq, same] at read
  rw [← spells.text_eq]
  exact readPlain_signed spells.sound.starts read

theorem readPlain_zero (negative : Bool) {rest : List Char} (ends : EndsNumber rest) :
    readPlain (Number.Shortest.sign negative ++ ['0', '.', '0'] ++ rest) =
      .ok (.float (Binary64.zero negative), rest) := by
  have places := allDigits_zeros 1
  have spells : Spelling.Spells ⟨['0'], some ['0'], none⟩ ['0', '.', '0'] 0 :=
    ⟨⟨.inl rfl, by rintro _ ⟨⟩; exact ⟨by simp, places⟩⟩, rfl, fun _ => rfl, by
      simp [Spelling.coefficient, ofDigits]⟩
  exact readPlain_spelled spells ends rfl

theorem readPlain_float {x : Binary64} (lowest : x.Lowest) {rest : List Char}
    (ends : EndsNumber rest) :
    readPlain (Number.Shortest.text floatNames x ++ rest) = .ok (.float x, rest) := by
  cases x with
  | nan => rfl
  | infinite negative => cases negative <;> rfl
  | finite negative significand exponent =>
    by_cases zero : significand = 0
    · subst zero
      -- A number without a significand is a zero at the least exponent.
      obtain ⟨_, _, _, full | rfl⟩ := lowest
      · exact absurd full (by decide)
      · exact readPlain_zero negative ends
    · have near := Number.Shortest.near_decimalOf lowest zero
      obtain ⟨spelling, spells⟩ := layout_spelling (near.ne_zero zero)
        (Number.Shortest.decimalOf significand exponent).2
      rw [← spells.value_eq] at near
      have read := readPlain_spelled spells ends (Binary64.ofDecimal_of_near lowest zero near)
      simpa [Number.Shortest.text, zero] using read

end Folio.Json
