import Folio.Fault

/-! Work that may fail over a state that outlives the failure. What every primitive does to a state
is said once, and what two pieces of work do in a row. -/
namespace Folio.Stateful

variable {σ α β : Type}

abbrev Work (σ α : Type) := ExceptT Fault (StateM σ) α

def run (work : Work σ α) (state : σ) : Except Fault α × σ := (ExceptT.run work).run state

theorem run_bind (first : Work σ α) (next : α → Work σ β) (state : σ) :
    run (first >>= next) state =
      match run first state with
      | (.ok result, after) => run (next result) after
      | (.error fault, after) => (.error fault, after) := by
  unfold run
  rw [ExceptT.run_bind, StateT.run_bind]
  rcases (ExceptT.run first).run state with ⟨fault | result, after⟩ <;> rfl

theorem run_bind_ok {first : Work σ α} {state after : σ} {result : α}
    (next : α → Work σ β) (ran : run first state = (.ok result, after)) :
    run (first >>= next) state = run (next result) after := by
  rw [run_bind, ran]

theorem run_bind_error {first : Work σ α} {state after : σ} {fault : Fault}
    (next : α → Work σ β) (ran : run first state = (.error fault, after)) :
    run (first >>= next) state = (.error fault, after) := by
  rw [run_bind, ran]

theorem run_bind_eq_ok {first : Work σ α} {next : α → Work σ β} {state after : σ} {result : β}
    (ran : run (first >>= next) state = (.ok result, after)) :
    ∃ value middle, run first state = (.ok value, middle) ∧
      run (next value) middle = (.ok result, after) := by
  rw [run_bind] at ran
  cases found : run first state with
  | mk outcome middle =>
    cases outcome with
    | ok value => exact ⟨value, middle, rfl, by simpa [found] using ran⟩
    | error fault => simp [found] at ran

theorem run_map (f : α → β) (work : Work σ α) (state : σ) :
    run (f <$> work) state = ((run work state).1.map f, (run work state).2) := by
  rw [map_eq_pure_bind, run_bind]
  rcases run work state with ⟨fault | result, after⟩ <;> rfl

@[simp] theorem run_pure (result : α) (state : σ) :
    run (pure result : Work σ α) state = (.ok result, state) := rfl

@[simp] theorem run_throw (fault : Fault) (state : σ) :
    run (throw fault : Work σ α) state = (.error fault, state) := rfl

@[simp] theorem run_get (state : σ) : run (get : Work σ σ) state = (.ok state, state) := rfl

@[simp] theorem run_set (state after : σ) :
    run (set after : Work σ PUnit) state = (.ok (), after) := rfl

@[simp] theorem run_modify (change : σ → σ) (state : σ) :
    run (modify change : Work σ PUnit) state = (.ok (), change state) := rfl

@[simp] theorem run_modifyGet (change : σ → α × σ) (state : σ) :
    run (modifyGet change : Work σ α) state = (.ok (change state).1, (change state).2) := rfl

@[simp] theorem run_ofExcept (outcome : Except Fault α) (state : σ) :
    run (MonadExcept.ofExcept outcome : Work σ α) state = (outcome, state) := by
  cases outcome <;> rfl

section Confined
variable {kinds : Fault.Category → Prop}

/-- An outcome that is no failure, or one of these kinds. -/
def Confined (kinds : Fault.Category → Prop) (outcome : Except Fault α) : Prop :=
  ∀ fault, outcome = .error fault → kinds fault.category

theorem confined_ok (value : α) : Confined kinds (.ok value) := by
  intro fault failed
  exact absurd failed (by simp)

theorem confined_error {fault : Fault} (kind : kinds fault.category) :
    Confined kinds (.error fault : Except Fault α) := by
  intro _ failed
  obtain rfl := Except.error.inj failed
  exact kind

theorem Confined.bind {first : Except Fault α} {next : α → Except Fault β}
    (confined : Confined kinds first) (later : ∀ value, Confined kinds (next value)) :
    Confined kinds (first >>= next) := by
  cases first with
  | ok value => exact later value
  | error fault => exact confined_error (confined fault rfl)

theorem Confined.map {outcome : Except Fault α} (confined : Confined kinds outcome) (f : α → β) :
    Confined kinds (outcome.map f) := by
  cases outcome with
  | ok value => exact confined_ok (f value)
  | error fault => exact confined_error (confined fault rfl)

def IsConfined (kinds : Fault.Category → Prop) (work : Work σ α) : Prop :=
  ∀ state, Confined kinds (run work state).1

theorem IsConfined.bind {first : Work σ α} {next : α → Work σ β} (confined : IsConfined kinds first)
    (later : ∀ value, IsConfined kinds (next value)) : IsConfined kinds (first >>= next) := by
  intro state
  have here := confined state
  rw [run_bind]
  cases found : run first state with
  | mk outcome after =>
    rw [found] at here
    cases outcome with
    | ok value => exact later value after
    | error fault => exact confined_error (here fault rfl)

theorem isConfined_pure (value : α) : IsConfined kinds (pure value : Work σ α) :=
  fun _ => confined_ok value

theorem isConfined_get : IsConfined kinds (get : Work σ σ) := fun state => confined_ok state

theorem isConfined_set (state : σ) : IsConfined kinds (set state : Work σ PUnit) := by
  intro before
  rw [run_set]
  exact confined_ok ()

theorem isConfined_modify (change : σ → σ) :
    IsConfined kinds (modify change : Work σ PUnit) := by
  intro before
  rw [run_modify]
  exact confined_ok ()

theorem isConfined_throw {fault : Fault} (kind : kinds fault.category) :
    IsConfined kinds (throw fault : Work σ α) := fun _ => confined_error kind

theorem isConfined_ofExcept {outcome : Except Fault α} (confined : Confined kinds outcome) :
    IsConfined kinds (MonadExcept.ofExcept outcome : Work σ α) := by
  intro state
  rw [run_ofExcept]
  exact confined

theorem isConfined_if {condition : Prop} [Decidable condition] {first second : Work σ α}
    (one : IsConfined kinds first) (other : IsConfined kinds second) :
    IsConfined kinds (if condition then first else second) := by
  split
  · exact one
  · exact other

end Confined

end Folio.Stateful
