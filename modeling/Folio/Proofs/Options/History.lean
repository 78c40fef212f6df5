import Folio.Proofs.Options.Update

/-! Options over any row of steps. Whatever was tried, the current options are valid; what fails or
assigns changes nothing, and updates may be put together or, where they name different fields, taken in
either order. -/
namespace Folio.Options

namespace Renews
variable {options first second first' second' : Options} {given later : Fields}

theorem comm (apart : ∀ name ∈ given.map Prod.fst, name ∉ later.map Prod.fst)
    (one : options.Renews given first) (next : first.Renews later second)
    (other : options.Renews later first') (last : first'.Renews given second') :
    second = second' := by
  have there := one.trans next
  have back := other.trans last
  refine there.unique (back.congr there.known fun name => ?_)
  rw [lookup_overridden, lookup_overridden]
  -- No name is given in both, so it does not matter which of them counts.
  cases found : given.lookup name with
  | none => rw [Option.none_or, Option.or_none]
  | some value =>
    have named : name ∈ given.map Prod.fst := by
      have known := List.lookup_isSome_iff.mp (Option.isSome_of_mem found)
      simpa using known
    have missing : later.lookup name = none := by
      rw [List.lookup_eq_none_iff]
      intro field member
      have different : name ≠ field.1 := by
        rintro rfl
        exact apart _ named (List.mem_map_of_mem member)
      simpa using different
    rw [missing, Option.none_or, Option.or_none]

end Renews

namespace History

def play (current : Option Options) (steps : List Step) : Option Options := steps.foldl after current

theorem after_of_error {current : Option Options} {taken : Step} {fault : Fault}
    (failed : step current taken = .error fault) : after current taken = current := by
  rw [after, failed]

theorem step_cases {current next : Option Options} {taken : Step} {like : Option Bool}
    (went : step current taken = .ok (next, like)) :
    next = current ∨ ∃ base given made, Renews base given made ∧ next = some made := by
  cases taken with
  | new kind given =>
    obtain ⟨made, fresh, same⟩ := Outcome.map_eq_ok_iff.mp went
    exact .inr ⟨_, given, made, make_eq_ok_iff.mp fresh, (Prod.mk.inj same).1.symm⟩
  | update given =>
    obtain ⟨made, renewed, same⟩ := Outcome.map_eq_ok_iff.mp went
    cases current with
    | none => exact absurd renewed (by simp [update])
    | some options =>
      exact .inr ⟨options, given, made, update_eq_ok_iff.mp renewed, (Prod.mk.inj same).1.symm⟩
  | assign field => exact absurd went (by simp [step])
  | check expected renderer =>
    obtain ⟨_, -, same⟩ := Outcome.map_eq_ok_iff.mp went
    exact .inl (Prod.mk.inj same).1.symm
  | compare kind given =>
    obtain ⟨_, -, same⟩ := Outcome.map_eq_ok_iff.mp went
    exact .inl (Prod.mk.inj same).1.symm

theorem valid_after {current : Option Options} (valid : ∀ options ∈ current, options.Valid)
    (taken : Step) : ∀ options ∈ after current taken, options.Valid := by
  cases went : step current taken with
  | error fault =>
    rw [after_of_error went]
    exact valid
  | ok answer =>
    obtain ⟨next, like⟩ := answer
    have now : after current taken = next := by rw [after, went]
    rw [now]
    rcases step_cases went with rfl | ⟨base, given, made, renews, rfl⟩
    · exact valid
    · rintro options ⟨⟩
      exact renews.valid

theorem valid_play {current : Option Options} (valid : ∀ options ∈ current, options.Valid)
    (steps : List Step) : ∀ options ∈ play current steps, options.Valid := by
  induction steps generalizing current with
  | nil => exact valid
  | cons taken rest ih => exact ih (valid_after valid taken)

/-- After any steps the current options hold in each field what it can hold. A step that fails leaves
them as they were, and to assign always fails. Two updates in a row are one by the values of both, where
the later ones count; and if they name different fields, their order makes no difference. -/
theorem updates_compose (steps : List Step) :
    let current := play none steps
    (∀ options, current = some options → ∀ name ∈ fieldNames options.kind,
      ∃ value, options.fields.lookup name = some value ∧ Accepts name value) ∧
    (∀ taken fault, step current taken = .error fault → after current taken = current) ∧
    (∀ field, ∃ fault, step current (.assign field) = .error fault) ∧
    ∀ options, current = some options → ∀ given later first second,
      options.update given = .ok first → first.update later = .ok second →
        options.update (overridden given later) = .ok second ∧
        ∀ first' second', (∀ name ∈ given.map Prod.fst, name ∉ later.map Prod.fst) →
          options.update later = .ok first' → first'.update given = .ok second' →
            second' = second := by
  intro current
  refine ⟨fun options present name => exists_accepted (valid_play (by simp) steps options present),
    fun taken fault => after_of_error, fun field => ⟨_, rfl⟩, ?_⟩
  intro options _ given later first second once twice
  have one := update_eq_ok_iff.mp once
  have next := update_eq_ok_iff.mp twice
  refine ⟨update_eq_ok_iff.mpr (one.trans next), fun first' second' apart sooner after => ?_⟩
  exact (one.comm apart next (update_eq_ok_iff.mp sooner) (update_eq_ok_iff.mp after)).symm

/-- Four steps, of which only the second one goes through. -/
def triedSteps : List Step := [
  .new .page [("summary_title", .str " ")], .new .page [("summary", .int 0)],
  .update [("mermaid_dark_theme", .list [])], .assign (.str "summary")]

def triedOptions : Options := .page { Page.default with summary := .int 0 }

theorem play_triedSteps : play none triedSteps = some triedOptions := rfl

theorem updates_compose_tried : ∃ first second first' second',
    play none triedSteps = some triedOptions ∧
      triedOptions.update [("summary_title", .str "Contents")] = .ok first ∧
      first.update [("summary", .null)] = .ok second ∧
      triedOptions.update (overridden [("summary_title", .str "Contents")] [("summary", .null)]) =
        .ok second ∧
      triedOptions.update [("summary", .null)] = .ok first' ∧
      first'.update [("summary_title", .str "Contents")] = .ok second' ∧ second' = second ∧
      ∃ value, triedOptions.fields.lookup "summary_title" = some value ∧
        Accepts "summary_title" value := by
  obtain ⟨holds, -, -, composes⟩ := updates_compose triedSteps
  obtain ⟨both, either⟩ := composes triedOptions play_triedSteps
    [("summary_title", .str "Contents")] [("summary", .null)] _ _ rfl rfl
  exact ⟨_, _, _, _, play_triedSteps, rfl, rfl, both, rfl, rfl,
    either _ _ (by simp) rfl rfl, holds triedOptions play_triedSteps "summary_title" (by decide)⟩

end History
end Folio.Options
