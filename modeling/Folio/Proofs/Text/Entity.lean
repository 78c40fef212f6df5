import Folio.Text.Entity

/-! Escaped text keeps clear of markup and loses nothing. Reading the written forms back from left to
right recovers a text whatever it holds, entities and pieces of them included. -/
namespace Folio.Text.Entity

def decoded (text : String) : String := String.ofList (decode text.toList)

def isSpecial (c : Char) : Bool := c == '<' || c == '>' || c == '"' || c == '\''

-- Every written form ends with a semicolon, so what follows it cannot change how it is read.
theorem decode_encodeChar (c : Char) (rest : List Char) :
    decode (encodeChar c ++ rest) = c :: decode rest := by
  unfold encodeChar
  split
  · rfl
  · rfl
  · rfl
  · rfl
  · rfl
  · next ampersand _ _ _ _ =>
    rw [List.singleton_append, decode]
    all_goals
      intros
      exact ampersand (by assumption)

theorem decode_encode_append (text rest : List Char) :
    decode (encode text ++ rest) = text ++ decode rest := by
  induction text with
  | nil => rfl
  | cons c text ih =>
    simp only [encode, List.flatMap_cons, List.append_assoc, List.cons_append] at ih ⊢
    rw [decode_encodeChar, ih]

theorem decode_encode (text : List Char) : decode (encode text) = text := by
  have whole := decode_encode_append text []
  simpa [decode] using whole

@[simp] theorem decoded_encoded (text : String) : decoded (encoded text) = text := by
  simp [decoded, encoded, decode_encode]

theorem not_special_of_mem_encodeChar (c d : Char) (written : d ∈ encodeChar c) :
    isSpecial d = false := by
  have entity : ∀ text : List Char, (text.all fun c => !isSpecial c) = true → d ∈ text →
      isSpecial d = false := by
    intro text plain member
    simpa using List.all_eq_true.mp plain d member
  unfold encodeChar at written
  split at written
  · exact entity _ (by decide) written
  · exact entity _ (by decide) written
  · exact entity _ (by decide) written
  · exact entity _ (by decide) written
  · exact entity _ (by decide) written
  · next _ less greater double single =>
    rw [List.mem_singleton] at written
    subst written
    simp only [isSpecial, Bool.or_eq_false_iff, beq_eq_false_iff_ne]
    exact ⟨⟨⟨less, greater⟩, double⟩, single⟩

theorem not_special_of_mem_encode (text : List Char) (c : Char) (written : c ∈ encode text) :
    isSpecial c = false := by
  obtain ⟨source, _, member⟩ := List.mem_flatMap.mp written
  exact not_special_of_mem_encodeChar source c member

theorem encode_eq_nil_iff (text : List Char) : encode text = [] ↔ text = [] := by
  constructor
  · intro empty
    rw [← decode_encode text, empty, decode]
  · rintro rfl
    rfl

@[simp] theorem encoded_append (left right : String) :
    encoded (left ++ right) = encoded left ++ encoded right := by
  simp [encoded]

@[simp] theorem encoded_eq_empty_iff (text : String) : encoded text = "" ↔ text = "" := by
  rw [← String.toList_inj, ← String.toList_inj]
  simp [encoded, encode_eq_nil_iff]

end Folio.Text.Entity
