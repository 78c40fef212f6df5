import Folio.Assets.Catalogue
import Folio.Proofs.Markup.Piece

/-! Placeholders are comments, but for texts in which the first slash of a comment is taken for its
end. The beginning, the end and the number of closings are looked at one by one, and the star of the
opening may serve for a closing too. -/
namespace Folio.Assets

open Markup (NoPair noPair_cons_iff)

theorem closings_eq_zero_iff (text : List Char) : closings text = 0 ↔ NoPair '*' '/' text := by
  fun_induction closings text with
  | case1 rest ih => simp [noPair_cons_iff]
  | case2 c rest other ih =>
    have apart : ¬ (c = '*' ∧ rest.head? = some '/') := by
      rintro ⟨rfl, next⟩
      obtain ⟨after, rfl⟩ := List.head?_eq_some_iff.mp next
      exact other after rfl rfl
    rw [ih, noPair_cons_iff]
    exact (and_iff_left apart).symm
  | case3 => simp [NoPair]

theorem closings_concat (body : List Char) :
    closings (body ++ ['*', '/']) = closings body + 1 := by
  fun_induction closings body with
  | case1 rest ih => simp [closings, ih]
  | case2 c rest other ih =>
    -- A star at the end of the body is not followed by a slash but by the star of the new closing.
    have apart : ∀ after, c = '*' → rest ++ ['*', '/'] = '/' :: after → False := by
      intro after star next
      cases rest with
      | nil => simp at next
      | cons d rest =>
        obtain ⟨rfl, -⟩ := List.cons.inj next
        exact other rest star rfl
    rw [List.cons_append, closings.eq_2 c (rest ++ ['*', '/']) apart, ih]
  | case3 => rfl

/-- One complete comment: after its opening it is closed once, at the very end. -/
def IsComment (text : List Char) : Prop :=
  ∃ body, text = '/' :: '*' :: (body ++ ['*', '/']) ∧ NoPair '*' '/' body

theorem delimited_iff (text : List Char) :
    ['/', '*'] <+: text ∧ ['*', '/'] <:+ text ↔
      text = ['/', '*', '/'] ∨ ∃ body, text = '/' :: '*' :: (body ++ ['*', '/']) := by
  constructor
  · rintro ⟨⟨rest, rfl⟩, ⟨front, same⟩⟩
    rcases front with _ | ⟨a, _ | ⟨b, body⟩⟩
    · simp at same
    · exact .inl (by simp_all)
    · obtain ⟨rfl, rfl, rfl⟩ : a = '/' ∧ b = '*' ∧ body ++ ['*', '/'] = rest := by
        simpa using same
      exact .inr ⟨body, rfl⟩
  · rintro (rfl | ⟨body, rfl⟩)
    · exact ⟨⟨['/'], rfl⟩, ⟨['/'], rfl⟩⟩
    · exact ⟨⟨body ++ ['*', '/'], rfl⟩, ⟨'/' :: '*' :: body, rfl⟩⟩

theorem closings_comment_iff (body : List Char) :
    closings ('/' :: '*' :: (body ++ ['*', '/'])) = 1 ↔
      NoPair '*' '/' body ∧ body.head? ≠ some '/' := by
  have counted := closings_concat ('/' :: '*' :: body)
  rw [List.cons_append, List.cons_append] at counted
  rw [counted, Nat.add_eq_right, closings_eq_zero_iff, noPair_cons_iff, noPair_cons_iff]
  simp

theorem halfComment_prefix_iff (body : List Char) :
    ['/', '*', '/'] <+: '/' :: '*' :: (body ++ ['*', '/']) ↔ body.head? = some '/' := by
  cases body with
  | nil => simp
  | cons c body => simp [List.cons_prefix_cons, eq_comm]

/-- A text is taken for a placeholder if it is one complete comment that does not begin with the three
signs of a half one, and if it is that half comment itself. -/
theorem isPlaceholder_iff (text : String) :
    isPlaceholder text = true ↔
      Text.trim text.toList = ['/', '*', '/'] ∨
        IsComment (Text.trim text.toList) ∧ ¬ ['/', '*', '/'] <+: Text.trim text.toList := by
  have judged : isPlaceholder text = true ↔
      (['/', '*'] <+: Text.trim text.toList ∧ ['*', '/'] <:+ Text.trim text.toList) ∧
        closings (Text.trim text.toList) = 1 := by
    simp [isPlaceholder]
  rw [judged, delimited_iff]
  generalize Text.trim text.toList = inner
  constructor
  · rintro ⟨half | ⟨body, rfl⟩, once⟩
    · exact .inl half
    · obtain ⟨free, apart⟩ := (closings_comment_iff body).mp once
      exact .inr ⟨⟨body, rfl, free⟩, fun start => apart ((halfComment_prefix_iff body).mp start)⟩
  · rintro (rfl | ⟨⟨body, rfl, free⟩, start⟩)
    · exact ⟨.inl rfl, rfl⟩
    · have apart : body.head? ≠ some '/' := fun next => start ((halfComment_prefix_iff body).mpr next)
      exact ⟨.inr ⟨body, rfl⟩, (closings_comment_iff body).mpr ⟨free, apart⟩⟩

/-- The half comment is no comment and passes for one; a comment that begins with it does not. -/
theorem halfComment_misjudged :
    (isPlaceholder "/*/" = true ∧ ¬ IsComment (Text.trim "/*/".toList)) ∧
      isPlaceholder "/*/ x */" = false ∧ IsComment (Text.trim "/*/ x */".toList) := by
  have half : ¬ IsComment ['/', '*', '/'] := by
    rintro ⟨body, same, -⟩
    have lengths := congrArg List.length same
    simp at lengths
  exact ⟨⟨by decide, half⟩, by decide, ['/', ' ', 'x', ' '], by decide, by decide⟩

end Folio.Assets
