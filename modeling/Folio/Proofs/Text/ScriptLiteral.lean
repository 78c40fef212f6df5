import Folio.Json.Reader
import Folio.Text.ScriptLiteral

/-! A script literal is read back as the text it stands for, whatever the text, and consists of
printable ASCII that means nothing to markup. A reader spells out one unit at a time, so characters
above U+FFFF come back from two units in a row. -/
namespace Folio.Text

theorem hexValue?_hexDigit {digit : Nat} (small : digit < 16) :
    hexValue? (hexDigit digit) = some digit := by
  have all : ∀ digit : Fin 16, hexValue? (hexDigit digit) = some digit.val := by decide
  exact all ⟨digit, small⟩

theorem hexNumber?_append (digits : List Char) (last : Char) :
    hexNumber? (digits ++ [last]) =
      (hexNumber? digits).bind fun n => (hexValue? last).map (16 * n + ·) := by
  simp [hexNumber?]

theorem hexNumber?_hexPadded (width n : Nat) :
    hexNumber? (hexPadded width n) = some (n % Nat.pow 16 width) := by
  induction width generalizing n with
  | zero => simp [hexPadded, hexNumber?, Nat.mod_one]
  | succ width ih =>
    have last := hexValue?_hexDigit (Nat.mod_lt n (by decide : 0 < 16))
    have more : Nat.pow 16 (width + 1) = 16 * Nat.pow 16 width := Nat.mul_comm _ _
    rw [hexPadded, hexNumber?_append, ih, last, more, Nat.mod_mul]
    simp [Nat.add_comm]

end Folio.Text

namespace Folio.Json

open Text (hexDigit hexPadded)
open Text.ScriptLiteral (asciiChar encode isMarkup literalChar spelled unit)

theorem hexPadded_four (n : Nat) :
    hexPadded 4 n = [hexDigit (n / 16 / 16 / 16 % 16), hexDigit (n / 16 / 16 % 16),
      hexDigit (n / 16 % 16), hexDigit (n % 16)] := rfl

theorem hexNumber?_four {n : Nat} (small : n < 0x10000) :
    Text.hexNumber? [hexDigit (n / 16 / 16 / 16 % 16), hexDigit (n / 16 / 16 % 16),
      hexDigit (n / 16 % 16), hexDigit (n % 16)] = some n := by
  rw [← hexPadded_four, Text.hexNumber?_hexPadded, Nat.mod_eq_of_lt small]

theorem readString_unit (start rest : List Char) (next : Char) {n : Nat} (small : n < 0x10000)
    (whole : n < 0xD800 ∨ 0xDFFF < n) :
    readString start (unit n ++ next :: rest) =
      prepend (Char.ofNat n) (readString start (next :: rest)) := by
  have high : isHighHalf n = false := by
    simp only [isHighHalf, Bool.and_eq_false_iff, decide_eq_false_iff_not]
    omega
  have low : isLowHalf n = false := by
    simp only [isLowHalf, Bool.and_eq_false_iff, decide_eq_false_iff_not]
    omega
  have plain : charOf n = Char.ofNat n := by simp [charOf, high, low]
  rw [unit, hexPadded_four]
  simp only [List.cons_append, List.nil_append]
  rw [readString.eq_3, hexNumber?_four small]
  split
  · simp_all
  · next found =>
    obtain rfl := Option.some.inj found
    split
    · simp [high, plain]
    · rw [plain]

theorem readString_pair (start rest : List Char) (next : Char) {n : Nat} (small : n < 0x100000) :
    readString start
        (unit (0xD800 + n / 0x400) ++ (unit (0xDC00 + n % 0x400) ++ next :: rest)) =
      prepend (Char.ofNat (0x10000 + n)) (readString start (next :: rest)) := by
  have high : isHighHalf (0xD800 + n / 0x400) = true := by
    simp only [isHighHalf, Bool.and_eq_true, decide_eq_true_eq]
    omega
  have low : isLowHalf (0xDC00 + n % 0x400) = true := by
    simp only [isLowHalf, Bool.and_eq_true, decide_eq_true_eq]
    omega
  have joined : joinHalves (0xD800 + n / 0x400) (0xDC00 + n % 0x400) = Char.ofNat (0x10000 + n) := by
    have sum : 0x10000 + (0xD800 + n / 0x400 - 0xD800) * 0x400 + (0xDC00 + n % 0x400 - 0xDC00) =
        0x10000 + n := by omega
    rw [joinHalves, sum]
  rw [unit, unit, hexPadded_four, hexPadded_four]
  simp only [List.cons_append, List.nil_append]
  rw [readString.eq_3, hexNumber?_four (by omega)]
  simp only [high, ↓reduceIte]
  rw [hexNumber?_four (by omega)]
  simp only [low, ↓reduceIte, joined]

theorem readString_spelled (start rest : List Char) (next c : Char) :
    readString start (spelled c.toNat ++ next :: rest) =
      prepend c (readString start (next :: rest)) := by
  -- No character is half of a pair by itself.
  have valid : c.toNat < 0xD800 ∨ 0xDFFF < c.toNat ∧ c.toNat < 0x110000 := c.valid
  by_cases small : c.toNat < 0x10000
  · rw [spelled, if_pos small, readString_unit start rest next small (by omega), Char.ofNat_toNat]
  · have paired := readString_pair start rest next (n := c.toNat - 0x10000) (by omega)
    have whole : 0x10000 + (c.toNat - 0x10000) = c.toNat := by omega
    rw [whole, Char.ofNat_toNat] at paired
    rw [spelled, if_neg small]
    simpa using paired

theorem readString_escape (start rest : List Char) (sign plain : Char) (spelledOut : sign ≠ 'u')
    (escape : simpleEscape? sign = some plain) :
    readString start ('\\' :: sign :: rest) = prepend plain (readString start rest) := by
  rw [readString.eq_5]
  · simp [spelledOut, escape]
  · intro _ _ _ _ _ _ same
    exact absurd same spelledOut

theorem readString_plain (start rest : List Char) (c : Char) (quote : c ≠ '"') (slash : c ≠ '\\')
    (visible : 0x20 ≤ c.toNat) :
    readString start (c :: rest) = prepend c (readString start rest) := by
  rw [readString.eq_6]
  · simp [Nat.not_lt.mpr visible]
  · exact quote
  · intro _ _ _ _ _ _ same
    exact absurd same slash
  · intro same
    exact absurd same slash
  · intro _ _ same
    exact absurd same slash

theorem readString_asciiChar (start rest : List Char) (next c : Char) :
    readString start (asciiChar c ++ next :: rest) =
      prepend c (readString start (next :: rest)) := by
  unfold asciiChar
  split
  case h_8 quote slash _ _ _ _ _ =>
    split
    · next visible =>
      simp only [Bool.and_eq_true, decide_eq_true_eq] at visible
      exact readString_plain start _ c quote slash visible.1
    · exact readString_spelled start rest next c
  all_goals exact readString_escape start _ _ _ (by decide) rfl

theorem readString_literalChar (start rest : List Char) (next c : Char) :
    readString start (literalChar c ++ next :: rest) =
      prepend c (readString start (next :: rest)) := by
  unfold literalChar
  split
  · next markup =>
    have known : c = '<' ∨ c = '>' ∨ c = '&' := by simpa [isMarkup, or_assoc] using markup
    have small : c.toNat < 0xD800 := by rcases known with rfl | rfl | rfl <;> decide
    rw [readString_unit start rest next (by omega) (Or.inl small), Char.ofNat_toNat]
  · exact readString_asciiChar start rest next c

/-- A text whose characters are read one by one, however each is spelled, is read up to its closing
quote, and what follows is left alone. -/
theorem readString_text {spell : Char → List Char}
    (each : ∀ start rest next c, readString start (spell c ++ next :: rest) =
      prepend c (readString start (next :: rest))) (start text rest : List Char) :
    readString start (text.flatMap spell ++ '"' :: rest) = .ok (text, rest) := by
  induction text with
  | nil => simp [readString]
  | cons c text ih =>
    -- A reader looks one character past a unit, and there is one: the closing quote at the latest.
    have inner : ∃ next others, text.flatMap spell ++ '"' :: rest = next :: others := by
      cases text.flatMap spell with
      | nil => exact ⟨_, _, rfl⟩
      | cons next others => exact ⟨_, _, rfl⟩
    obtain ⟨next, others, shape⟩ := inner
    rw [List.flatMap_cons, List.append_assoc, shape, each, ← shape, ih]
    rfl

theorem read_encoded (text : String) : read (Text.ScriptLiteral.encoded text) = .ok (.str text) := by
  have body := readString_text readString_literalChar (encode text.toList) text.toList []
  have whole : readWhole (encode text.toList) = .ok (.str text) := by
    have skipped : skipSpace (encode text.toList) = encode text.toList := rfl
    unfold readWhole
    rw [skipped]
    simp only [encode, List.cons_append] at body ⊢
    simp only [readValue, body]
    simp [skipSpace, Except.map, bind, Except.bind]
  simp [read, Text.ScriptLiteral.encoded, String.toList_ofList, whole]

end Folio.Json

namespace Folio.Text.ScriptLiteral

/-- Printable ASCII, without the three signs of markup. -/
def IsInert (c : Char) : Prop := 0x20 ≤ c.toNat ∧ c.toNat ≤ 0x7E ∧ isMarkup c = false

instance (c : Char) : Decidable (IsInert c) := inferInstanceAs (Decidable (_ ∧ _ ∧ _))

def Inert (text : List Char) : Prop := ∀ c ∈ text, IsInert c

instance (text : List Char) : Decidable (Inert text) :=
  decidable_of_iff (text.all fun c => decide (IsInert c)) (by simp [Inert])

theorem Inert.append {left right : List Char} (first : Inert left) (second : Inert right) :
    Inert (left ++ right) := by
  intro c member
  rcases List.mem_append.mp member with front | back
  · exact first c front
  · exact second c back

theorem Inert.join {left right : String} (first : Inert left.toList) (second : Inert right.toList) :
    Inert (left ++ right).toList := by
  rw [String.toList_append]
  exact first.append second

theorem inert_hexDigit {digit : Nat} (small : digit < 16) : IsInert (hexDigit digit) := by
  have all : ∀ digit : Fin 16, IsInert (hexDigit digit) := by decide
  exact all ⟨digit, small⟩

theorem inert_hexPadded (width n : Nat) : Inert (hexPadded width n) := by
  induction width generalizing n with
  | zero => simp [Inert, hexPadded]
  | succ width ih =>
    refine (ih _).append ?_
    intro c member
    obtain rfl := List.mem_singleton.mp member
    exact inert_hexDigit (Nat.mod_lt n (by decide))

theorem inert_unit (n : Nat) : Inert (unit n) := by
  have marked : Inert ['\\', 'u'] := by decide
  exact marked.append (inert_hexPadded 4 n)

theorem inert_spelled (n : Nat) : Inert (spelled n) := by
  unfold spelled
  split
  · exact inert_unit n
  · exact (inert_unit _).append (inert_unit _)

theorem inert_literalChar (c : Char) : Inert (literalChar c) := by
  unfold literalChar
  split
  · exact inert_unit _
  · next unmarked =>
    unfold asciiChar
    split
    case h_8 =>
      split
      · next visible =>
        simp only [Bool.and_eq_true, decide_eq_true_eq] at visible
        intro d member
        obtain rfl := List.mem_singleton.mp member
        exact ⟨visible.1, visible.2, by simpa using unmarked⟩
      · exact inert_spelled _
    all_goals decide

theorem inert_encode (text : List Char) : Inert (encode text) := by
  have quote : Inert ['"'] := by decide
  have body : Inert (text.flatMap literalChar) := by
    intro c member
    obtain ⟨plain, _, inside⟩ := List.mem_flatMap.mp member
    exact inert_literalChar plain c inside
  exact (quote.append body).append quote

theorem inert_encoded (text : String) : Inert (encoded text).toList := by
  rw [encoded, String.toList_ofList]
  exact inert_encode text.toList

end Folio.Text.ScriptLiteral
