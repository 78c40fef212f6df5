import Mathlib.Data.List.Forall2

/-! Results that may be errors, one after another: all of them are right, or the first error is the
error of the whole. -/
namespace Folio.Outcome

variable {ε α β : Type}

theorem map_eq_ok_iff {f : α → β} {outcome : Except ε α} {result : β} :
    outcome.map f = .ok result ↔ ∃ value, outcome = .ok value ∧ f value = result := by
  cases outcome with
  | error fault => simp [Except.map]
  | ok value => simp [Except.map]

theorem bind_eq_ok_iff {first : Except ε α} {next : α → Except ε β} {result : β} :
    first >>= next = .ok result ↔ ∃ value, first = .ok value ∧ next value = .ok result := by
  cases first with
  | error fault => simp [bind, Except.bind]
  | ok value => simp [bind, Except.bind]

theorem mapM_eq_ok_iff {work : α → Except ε β} {given : List α} {results : List β} :
    given.mapM work = .ok results ↔
      List.Forall₂ (fun item result => work item = .ok result) given results := by
  induction given generalizing results with
  | nil => cases results <;> simp [pure, Except.pure]
  | cons item given ih =>
    rw [List.mapM_cons, bind_eq_ok_iff]
    constructor
    · rintro ⟨result, first, onward⟩
      obtain ⟨rest, later, same⟩ := bind_eq_ok_iff.mp onward
      obtain rfl := Except.ok.inj same
      exact .cons first (ih.mp later)
    · rintro (_ | ⟨first, later⟩)
      exact ⟨_, first, bind_eq_ok_iff.mpr ⟨_, ih.mpr later, rfl⟩⟩

theorem mapM_congr {work other : α → Except ε β} {given : List α}
    (same : ∀ item ∈ given, work item = other item) : given.mapM work = given.mapM other := by
  induction given with
  | nil => rfl
  | cons item given ih =>
    obtain ⟨here, onward⟩ := List.forall_mem_cons.mp same
    rw [List.mapM_cons, List.mapM_cons, here, ih onward]

theorem exists_mapM_iff {work : α → Except ε β} {given : List α} :
    (∃ results, given.mapM work = .ok results) ↔
      ∀ item ∈ given, ∃ result, work item = .ok result := by
  simp only [mapM_eq_ok_iff]
  induction given with
  | nil => simp
  | cons item given ih =>
    rw [List.forall_mem_cons, ← ih]
    constructor
    · rintro ⟨results, all⟩
      cases all with
      | cons first later => exact ⟨⟨_, first⟩, ⟨_, later⟩⟩
    · rintro ⟨⟨result, first⟩, results, later⟩
      exact ⟨result :: results, .cons first later⟩

theorem mapM_eq_error {work : α → Except ε β} {before : List α} {item : α} {fault : ε}
    (clear : ∀ earlier ∈ before, ∃ result, work earlier = .ok result)
    (failed : work item = .error fault) (after : List α) :
    (before ++ item :: after).mapM work = .error fault := by
  induction before with
  | nil =>
    rw [List.nil_append, List.mapM_cons, failed]
    rfl
  | cons earlier before ih =>
    obtain ⟨result, passed⟩ := clear earlier List.mem_cons_self
    have later := ih fun other within => clear other (List.mem_cons_of_mem earlier within)
    rw [List.cons_append, List.mapM_cons, passed, later]
    rfl

end Folio.Outcome
