import Folio.Proofs.Markup.Writer
import Folio.Proofs.Text.Replacement

/-! Escaping a text in one pass, character by character, is replacing the five characters in the whole
text one after another. So a text may be written in any number of pieces: what stands in the output is
the same, each ampersand in it begins one of the five entities, and it reads back as the text. -/
namespace Folio.Text.Entity

/-- The ampersand comes first, as all that is put in for the others begins with one. -/
def entities : List (Char × String) := [
  ('&', "&amp;"), ('<', "&lt;"), ('>', "&gt;"), ('"', "&quot;"), ('\'', "&#x27;")]

theorem entities_settled : Settled entities := by decide

theorem encodeChar_eq_substitute (c : Char) : encodeChar c = substitute entities c := by
  unfold encodeChar
  split
  case h_6 ampersand less greater double single =>
    have missing : entities.lookup c = none := by
      simp only [entities, List.lookup_eq_none_iff, List.forall_mem_cons, bne_iff_ne]
      exact ⟨ampersand, less, greater, double, single, by simp⟩
    rw [substitute, missing]
  all_goals rfl

theorem encode_eq_flatMap (text : List Char) :
    encode text = text.flatMap (substitute entities) :=
  List.flatMap_congr fun c _ => encodeChar_eq_substitute c

theorem encoded_eq_replaceEach (text : String) : encoded text = replaceEach entities text := by
  rw [← String.toList_inj, toList_replaceEach entities_settled, ← encode_eq_flatMap]
  exact String.toList_ofList

theorem substitute_cases (c : Char) :
    (∃ entity ∈ entities, substitute entities c = entity.2.toList ∧
        '&' ∉ entity.2.toList.tail) ∨ '&' ∉ substitute entities c := by
  have fronted : ∀ entity ∈ entities, '&' ∉ entity.2.toList.tail := by decide
  rw [substitute]
  cases found : entities.lookup c with
  | some form =>
    obtain ⟨before, after, table, -⟩ := List.lookup_eq_some_iff.mp found
    have known : (c, form) ∈ entities := by simp [table]
    exact Or.inl ⟨(c, form), known, rfl, fronted _ known⟩
  | none =>
    refine Or.inr ?_
    rw [List.mem_singleton]
    rintro rfl
    exact absurd found (by decide)

theorem entity_at_ampersand {text before after : List Char}
    (found : encode text = before ++ '&' :: after) :
    ∃ entity ∈ entities, entity.2.toList <+: '&' :: after := by
  rw [encode_eq_flatMap] at found
  induction text generalizing before with
  | nil => simp at found
  | cons c text ih =>
    rw [List.flatMap_cons, List.append_eq_append_iff] at found
    rcases found with ⟨gap, -, rest⟩ | ⟨inside, first, rest⟩
    · exact ih rest
    · -- The ampersand stands in what is put for the first character, if anything of that is left.
      cases inside with
      | nil => exact @ih [] rest.symm
      | cons sign inside =>
        obtain ⟨rfl, rest⟩ := List.cons.inj rest
        rcases substitute_cases c with ⟨entity, known, same, fronted⟩ | without
        · cases before with
          | nil =>
            refine ⟨entity, known, ?_⟩
            rw [← same, first, rest]
            exact ⟨_, rfl⟩
          | cons head before =>
            rw [← same, first] at fronted
            exact absurd (by simp) fronted
        · rw [first] at without
          exact absurd (by simp) without

end Folio.Text.Entity

namespace Folio.Markup

open Text (replaceEach substitute)
open Text.Entity (decoded encoded entities isSpecial)

def writeContents : List String → Writing Unit
  | [] => pure ()
  | piece :: rest => do
    Writer.writeContent (.str piece)
    writeContents rest

theorem writes_contents (pieces : List String) (stack : List String) :
    Writes (writeContents pieces) stack stack (encoded (String.join pieces)) := by
  induction pieces with
  | nil => exact writes_pure stack
  | cons piece rest ih =>
    rw [String.join_cons, Text.Entity.encoded_append]
    exact (writes_content piece stack).seq ih

/-- An escaped text is the text with the five characters replaced throughout, one after another, and
just as well the text with each of its characters replaced on its own. It means nothing to markup but
by its entities, is read back whatever it holds, and is the same in however many pieces it is written. -/
theorem escaping_faithful (text : String) :
    encoded text = replaceEach entities text ∧
    (encoded text).toList = text.toList.flatMap (substitute entities) ∧
    (∀ other, encoded (text ++ other) = encoded text ++ encoded other) ∧
    (∀ c ∈ (encoded text).toList, isSpecial c = false) ∧
    (∀ before after, (encoded text).toList = before ++ '&' :: after →
      ∃ entity ∈ entities, entity.2.toList <+: '&' :: after) ∧
    decoded (encoded text) = text ∧
    ∀ pieces, String.join pieces = text → ∀ stack,
      Writes (writeContents pieces) stack stack (encoded text) := by
  have spelled : (encoded text).toList = Text.Entity.encode text.toList := String.toList_ofList
  refine ⟨Text.Entity.encoded_eq_replaceEach text, ?_, Text.Entity.encoded_append text, ?_, ?_,
    Text.Entity.decoded_encoded text, ?_⟩
  · rw [spelled, Text.Entity.encode_eq_flatMap]
  · rw [spelled]
    exact Text.Entity.not_special_of_mem_encode text.toList
  · intro before after found
    exact Text.Entity.entity_at_ampersand (spelled.symm.trans found)
  · rintro pieces rfl stack
    exact writes_contents pieces stack

/-- An entity that is there already, and pieces that cut it in two. -/
theorem escaping_faithful_tangled :
    replaceEach entities "&amp;'<" = "&amp;amp;&#x27;&lt;" ∧
      isSpecial ';' = false ∧
      (∃ entity ∈ entities, entity.2.toList <+: "&#x27;&lt;".toList) ∧
      decoded "&amp;amp;&#x27;&lt;" = "&amp;'<" ∧
      String.join ["&am", "p;'", "<"] = "&amp;'<" ∧
      Writes (writeContents ["&am", "p;'", "<"]) [] [] "&amp;amp;&#x27;&lt;" := by
  obtain ⟨replaced, -, -, clear, begun, read, written⟩ := escaping_faithful "&amp;'<"
  have escaped : encoded "&amp;'<" = "&amp;amp;&#x27;&lt;" := by decide
  have cut : String.join ["&am", "p;'", "<"] = "&amp;'<" := by decide
  rw [escaped] at replaced clear begun read written
  exact ⟨replaced.symm, clear ';' (by decide), begun "&amp;amp;".toList _ rfl, read, cut,
    written _ cut []⟩

end Folio.Markup
