import Folio.Proofs.Render.Preorder

/-! A state over any row of steps. Each part of it belongs to one kind of step and holds what the steps
of that kind have brought, in order: entries and statements all of them, languages each once and none
that says nothing. So nothing gathered is lost, and an answer can be told from the steps before it. -/
namespace Folio.Render.State

open Folio.Tree (IsText)

inductive Part where
  | summary | languages | statements | mathCount | katex | prism | mermaid

def Part.Same (left right : State) : Part → Prop
  | .summary => left.summary = right.summary
  | .languages => left.languages = right.languages
  | .statements => left.statements = right.statements
  | .mathCount => left.mathCount = right.mathCount
  | .katex => left.features.katex = right.features.katex
  | .prism => left.features.prism = right.features.prism
  | .mermaid => left.features.mermaid = right.features.mermaid

namespace Step

/-- The parts that a step may change. -/
def parts : Step → List Part
  | .summaryEntry .. => [.summary]
  | .code _ => [.languages, .prism]
  | .math _ => [.statements, .katex]
  | .mathId => [.mathCount]
  | .diagram => [.mermaid]

def entry? : Step → Option SummaryEntry
  | .summaryEntry level anchor name => some ⟨level, anchor, name⟩
  | _ => none

def language? : Step → Option String
  | .code language => some language.display
  | _ => none

def statement? : Step → Option Value
  | .math statement => some statement
  | _ => none

def isMathId : Step → Bool
  | .mathId => true
  | _ => false

def isDiagram : Step → Bool
  | .diagram => true
  | _ => false

end Step

/-- All languages that some steps bring are texts. -/
def Worded (steps : List Step) : Prop := ∀ language, Step.code language ∈ steps → IsText language

theorem apply_same (state : State) (step : Step) (part : Part) (other : part ∉ step.parts) :
    part.Same (state.apply step).2 state := by
  cases step with
  | code language =>
    simp only [apply, registerLanguage]
    cases part <;> simp [Step.parts] at other <;> split <;> rfl
  | summaryEntry _ _ _ | math _ | mathId | diagram =>
    cases part <;> simp [Step.parts] at other <;> rfl

def play (state : State) (steps : List Step) : State :=
  steps.foldl (fun state step => (state.apply step).2) state

/-- A state with what some steps bring, each part told from its own steps. -/
def bringing (state : State) (steps : List Step) : State where
  summary := state.summary ++ steps.filterMap Step.entry?
  features := {
    katex := state.features.katex || steps.any fun step => step.statement?.isSome
    prism := state.features.prism || steps.any fun step => step.language?.isSome
    mermaid := state.features.mermaid || steps.any Step.isDiagram }
  languages := state.languages ++
    (newLanguages state.languages (steps.filterMap Step.language?)).map Value.str
  statements := state.statements ++ steps.filterMap Step.statement?
  mathCount := state.mathCount + steps.countP Step.isMathId

theorem bringing_nil (state : State) : state.bringing [] = state := by
  simp [bringing, newLanguages]

theorem bringing_append (state : State) (left right : List Step) :
    (state.bringing left).bringing right = state.bringing (left ++ right) := by
  simp [bringing, newLanguages_append, Bool.or_assoc, Nat.add_assoc]

theorem newLanguages_wordless (recorded : List Value) (step : Step) (wordless : step.language? = none) :
    newLanguages recorded ([step].filterMap Step.language?) = [] := by
  rw [List.filterMap_cons_none wordless]
  rfl

/-- What a single step brings. -/
theorem apply_eq_bringing (state : State) (step : Step) (worded : Worded [step]) :
    (state.apply step).2 = state.bringing [step] := by
  cases step with
  | code language =>
    obtain ⟨language, rfl⟩ := (worded language List.mem_cons_self).exists
    have registered : (state.apply (.code (.str language))).2 =
        (state.registerLanguage (.str language)).2 := rfl
    rw [registered, registerLanguage_text]
    simp [bringing, needPrism, Step.entry?, Step.language?, Step.statement?, Step.isMathId,
      Step.isDiagram]
  | summaryEntry _ _ _ | math _ | mathId | diagram =>
    rw [bringing, newLanguages_wordless]
    · simp [apply, addSummaryEntry, registerMath, nextMathId, registerDiagram,
        Step.entry?, Step.language?, Step.statement?, Step.isMathId, Step.isDiagram]
    · rfl

/-- A run brings what its steps do. -/
theorem play_eq_bringing (state : State) (steps : List Step) (worded : Worded steps) :
    state.play steps = state.bringing steps := by
  induction steps generalizing state with
  | nil => exact (bringing_nil state).symm
  | cons step rest ih =>
    have first : Worded [step] := by
      intro language member
      exact worded language (List.mem_cons.mpr (.inl (List.mem_singleton.mp member)))
    have later : Worded rest := fun language member =>
      worded language (List.mem_cons_of_mem step member)
    have played : state.play (step :: rest) = (state.apply step).2.play rest := rfl
    rw [played, ih _ later, apply_eq_bringing state step first, bringing_append]
    rfl

theorem play_extends (state : State) (steps : List Step) (worded : Worded steps) :
    state.Extends (state.play steps) := by
  rw [play_eq_bringing state steps worded]
  exact {
    summary := List.prefix_append _ _
    languages := List.prefix_append _ _
    statements := List.prefix_append _ _
    mathCount := Nat.le_add_right _ _
    katex := fun held => by simp [bringing, held]
    prism := fun held => by simp [bringing, held]
    mermaid := fun held => by simp [bringing, held]
    apart := newLanguages_apart _ _ }

theorem mem_languages_iff {steps : List Step} (worded : Worded steps) (language : String) :
    language ∈ steps.filterMap Step.language? ↔ Step.code (.str language) ∈ steps := by
  rw [List.mem_filterMap]
  constructor
  · rintro ⟨step, member, brings⟩
    cases step with
    | code spoken =>
      obtain ⟨spoken, rfl⟩ := (worded spoken member).exists
      obtain rfl : spoken = language := Option.some.inj brings
      exact member
    | summaryEntry _ _ _ | math _ | mathId | diagram => exact absurd brings (by simp [Step.language?])
  · intro member
    exact ⟨_, member, rfl⟩

theorem isNewLanguage_played {steps : List Step} (worded : Worded steps) (language : String) :
    (fresh.play steps).isNewLanguage (.str language) = true ↔
      language ≠ "" ∧ Step.code (.str language) ∉ steps := by
  have recorded : isRecorded (fresh.bringing steps).languages language = true ↔
      isRecorded [] language = true ∨
        language ≠ "" ∧ language ∈ steps.filterMap Step.language? :=
    isRecorded_newLanguages [] (steps.filterMap Step.language?) language
  have none : isRecorded [] language = false := rfl
  rw [none, mem_languages_iff worded] at recorded
  rw [isNewLanguage_text, play_eq_bringing fresh steps worded, Bool.and_eq_true, bne_iff_ne,
    Bool.not_eq_true', ← Bool.not_eq_true]
  refine and_congr_right fun named => not_congr ?_
  simpa [named] using recorded

theorem apply_code (state : State) (language : Value) :
    (state.apply (.code language)).1 = .bool (state.isNewLanguage language) ∧
      (state.apply (.code language)).2.languages =
        state.languages ++ if state.isNewLanguage language then [language] else [] := by
  simp only [apply, registerLanguage]
  split <;> simp [needPrism, *]

theorem any_iff_exists {α : Type} {test : Step → Bool} {form : α → Step}
    (passes : ∀ step, test step = true ↔ ∃ given, step = form given) (steps : List Step) :
    steps.any test = true ↔ ∃ given, form given ∈ steps := by
  rw [List.any_eq_true]
  constructor
  · rintro ⟨step, member, passed⟩
    obtain ⟨given, rfl⟩ := (passes step).mp passed
    exact ⟨given, member⟩
  · rintro ⟨given, member⟩
    exact ⟨_, member, (passes _).mpr ⟨given, rfl⟩⟩

theorem isSome_language_iff (step : Step) :
    step.language?.isSome = true ↔ ∃ language, step = .code language := by
  cases step <;> simp [Step.language?]

theorem isSome_statement_iff (step : Step) :
    step.statement?.isSome = true ↔ ∃ statement, step = .math statement := by
  cases step <;> simp [Step.statement?]

theorem isDiagram_iff (step : Step) : step.isDiagram = true ↔ ∃ _ : Unit, step = .diagram := by
  cases step <;> simp [Step.isDiagram]

/-- After any steps on a new state, with texts for languages: the languages recorded are apart and none
is empty; a language is new just if it says something and has not come up, and is then recorded last;
each feature is on just if a step asked for it; the next formula has the number that follows; no later
step takes anything back, and no step touches a part that is not its own. -/
theorem play_sound (steps : List Step) (worded : Worded steps) :
    let state := fresh.play steps
    (∃ languages : List String,
      state.languages = languages.map Value.str ∧ languages.Nodup ∧ "" ∉ languages) ∧
    (∀ language : String, ∃ isNew : Bool,
      (state.apply (.code (.str language))).1 = .bool isNew ∧
      (isNew = true ↔ language ≠ "" ∧ Step.code (.str language) ∉ steps) ∧
      (state.apply (.code (.str language))).2.languages =
        state.languages ++ if isNew then [.str language] else []) ∧
    (state.features.prism = true ↔ ∃ language, Step.code language ∈ steps) ∧
    (state.features.katex = true ↔ ∃ statement, Step.math statement ∈ steps) ∧
    (state.features.mermaid = true ↔ Step.diagram ∈ steps) ∧
    (state.apply .mathId).1 = .int (steps.countP Step.isMathId + 1) ∧
    (∀ later, Worded later → state.Extends (state.play later)) ∧
    ∀ (step : Step) (part : Part), part ∉ step.parts → part.Same (state.apply step).2 state := by
  intro state
  have whole : state = fresh.bringing steps := play_eq_bringing fresh steps worded
  refine ⟨⟨newLanguages [] (steps.filterMap Step.language?), ?_, nodup_eraseDups _, ?_⟩,
    fun language => ⟨state.isNewLanguage (.str language), (apply_code state _).1,
      isNewLanguage_played worded language, (apply_code state _).2⟩, ?_, ?_, ?_, ?_,
    fun later named => play_extends state later named, apply_same state⟩
  · rw [whole]
    rfl
  · simp [newLanguages, List.mem_eraseDups]
  · rw [← any_iff_exists isSome_language_iff, whole]
    rfl
  · rw [← any_iff_exists isSome_statement_iff, whole]
    rfl
  · have drawn := any_iff_exists isDiagram_iff steps
    rw [exists_const] at drawn
    rw [← drawn, whole]
    rfl
  · have counted : (state.apply .mathId).1 = .int (state.mathCount + 1 : Nat) := rfl
    rw [counted, whole]
    simp [bringing, fresh]

def mixedSteps : List Step := [
  .code (.str "rust"), .mathId, .code (.str ""), .math (.str "f();"), .diagram, .mathId,
  .code (.str "rust")]

theorem mixedSteps_worded : Worded mixedSteps := by
  intro language member
  simp only [mixedSteps, List.mem_cons, Step.code.injEq, reduceCtorEq, List.not_mem_nil,
    or_false, false_or] at member
  rcases member with rfl | rfl | rfl <;> trivial

theorem play_sound_mixed :
    Worded mixedSteps ∧ (fresh.play mixedSteps).languages = [.str "rust"] ∧
      ((fresh.play mixedSteps).apply (.code (.str "rust"))).1 = .bool false ∧
      ((fresh.play mixedSteps).apply (.code (.str "lua"))).1 = .bool true ∧
      ((fresh.play mixedSteps).apply .mathId).1 = .int 3 ∧
      (fresh.play mixedSteps).Extends ((fresh.play mixedSteps).play mixedSteps) ∧
      Part.languages ∉ Step.diagram.parts ∧
      Part.languages.Same ((fresh.play mixedSteps).apply .diagram).2 (fresh.play mixedSteps) := by
  obtain ⟨-, register, -, -, -, next, kept, frames⟩ := play_sound mixedSteps mixedSteps_worded
  obtain ⟨known, answered, seldom, -⟩ := register "rust"
  obtain ⟨new, welcomed, always, -⟩ := register "lua"
  have old : known = false := by
    rw [← Bool.not_eq_true, seldom]
    simp [mixedSteps]
  have unheard : new = true := always.mpr (by simp [mixedSteps])
  have other : Part.languages ∉ Step.diagram.parts := by simp [Step.parts]
  refine ⟨mixedSteps_worded, rfl, ?_, ?_, next, kept mixedSteps mixedSteps_worded, other,
    frames .diagram .languages other⟩
  · rw [answered, old]
  · rw [welcomed, unheard]

end Folio.Render.State
