import Folio.Logging.Hierarchy

/-! Loggers below the library's own one by their names. A name that continues one of them by a dot
and a part without dots leads up to it, whichever loggers are known: every name above it on the way
is of the same form. -/
namespace Folio.Logging.Hierarchy

inductive Below : String → Prop
  | own : Below ownName
  | part {upper part : String} (below : Below upper) (filled : part ≠ "")
      (whole : '.' ∉ part.toList) : Below (upper ++ "." ++ part)

inductive BelowBackwards : List Char → Prop
  | own : BelowBackwards (backwards ownName)
  | part {upper part : List Char} (below : BelowBackwards upper) (filled : part ≠ [])
      (whole : '.' ∉ part) : BelowBackwards (part ++ '.' :: upper)

theorem Below.backwards {name : String} (below : Below name) :
    BelowBackwards (backwards name) := by
  induction below with
  | own => exact .own
  | @part upper part below filled whole ih =>
    have shape : Hierarchy.backwards (upper ++ "." ++ part) =
        part.toList.reverse ++ '.' :: Hierarchy.backwards upper := by
      simp [Hierarchy.backwards, String.toList_append]
    rw [shape]
    refine .part ih ?_ ?_
    · simpa using filled
    · simpa using whole

theorem above_plain {part : List Char} (whole : '.' ∉ part) (rest : List Char) :
    above (part ++ rest) = above rest := by
  induction part with
  | nil => rfl
  | cons c part ih =>
    simp only [List.mem_cons, not_or] at whole
    obtain ⟨other, whole⟩ := whole
    rw [List.cons_append, above.eq_2 _ _ (by rintro _ _ rfl; exact absurd rfl other), ih whole]

theorem BelowBackwards.head {name : List Char} (below : BelowBackwards name) :
    ∃ c rest, name = c :: rest ∧ c ≠ '.' := by
  cases below with
  | own => exact ⟨'s', _, rfl, by decide⟩
  | @part upper part below filled whole =>
    cases part with
    | nil => exact absurd rfl filled
    | cons c part =>
      refine ⟨c, _, rfl, ?_⟩
      rintro rfl
      exact whole (by simp)

theorem above_part {upper part : List Char} (below : BelowBackwards upper) (whole : '.' ∉ part) :
    above (part ++ '.' :: upper) = upper :: above upper := by
  obtain ⟨c, rest, rfl, other⟩ := below.head
  rw [above_plain whole, above, above.eq_2 _ _ (by rintro _ _ rfl; exact absurd rfl other)]

theorem exists_found (stands : List Char → Bool) (own : stands (backwards ownName) = true)
    {name : List Char} (below : BelowBackwards name) :
    name = backwards ownName ∨
      ∃ upper, (above name).find? stands = some upper ∧ BelowBackwards upper := by
  induction below with
  | own => exact .inl rfl
  | @part upper part below filled whole ih =>
    right
    rw [above_part below whole, List.find?_cons]
    cases here : stands upper with
    | true => exact ⟨upper, rfl, below⟩
    | false =>
      rcases ih with rfl | found
      · rw [own] at here
        exact absurd here (by decide)
      · exact found

theorem leadsTo_of_below (known : List (List Char)) (name : List Char)
    (below : BelowBackwards name) : leadsTo (backwards ownName) known name = true := by
  have nearest := exists_found (fun upper => upper == backwards ownName || known.contains upper)
    (by simp) below
  fun_induction leadsTo (backwards ownName) known name with
  | case1 => rfl
  | case2 name other upper found ih =>
    rcases nearest with same | ⟨next, here, above⟩
    · exact absurd same other
    · obtain rfl := Option.some.inj (found.symm.trans here)
      exact ih above (exists_found _ (by simp) above)
  | case3 name other missing =>
    rcases nearest with same | ⟨next, here, above⟩
    · exact absurd same other
    · rw [here] at missing
      exact absurd missing (by simp)

theorem isOwn_of_below (known : List String) {name : String} (below : Below name) :
    isOwn known name = true :=
  leadsTo_of_below _ _ below.backwards

end Folio.Logging.Hierarchy
