import Folio.Proofs.Render.Formulas

/-! What a rendering has gathered, told from the nodes of the tree alone. Every node adds its own, in
the order in which nodes come before their children and stand from left to right, and a rendering
that breaks off has met the nodes up to the one it broke off at. -/
namespace Folio.Tree

def Node.event : Node → Event
  | .leaf item _ => .leaf item
  | .branch frame children _ => .enter (!children.isEmpty) frame

/-- Whether an event meets a node; the others only leave an element. -/
def Event.meets : Event → Bool
  | .leave _ => false
  | _ => true

mutual

theorem Node.met_events : (node : Node) →
    node.events.filter Event.meets = node.preorder.map Node.event
  | .leaf item _ => rfl
  | .branch frame children _ => by
    have inside := met_eventsAll children
    simp only [Node.events, Node.preorder, List.cons_append, List.filter_cons, List.filter_append,
      Event.meets, ↓reduceIte, List.map_cons, Node.event, inside]
    cases frame.element (!children.isEmpty) <;> simp [Event.meets]

theorem met_eventsAll : (nodes : List Node) →
    (eventsAll nodes).filter Event.meets = (preorderAll nodes).map Node.event
  | [] => rfl
  | node :: rest => by
    rw [eventsAll, preorderAll, List.filter_append, List.map_append, node.met_events,
      met_eventsAll rest]

end

def Node.language? : Node → Option String
  | .leaf (.codeBlock language _) _ => some (Assets.canonical language.display)
  | _ => none

def Node.sectionLevel? : Node → Option Nat
  | .branch (.heading level _ _) (_ :: _) _ => some (level + 1)
  | _ => none

def Node.isLeaf (kind : LeafKind) (node : Node) : Bool := decide (node.kind = .leaf kind)

end Folio.Tree

namespace Folio.Render

open Folio.Tree (Event Formula Node)

def summaryLine? : Node → Option SummaryEntry
  | .branch (.heading level anchor title) _ _ => some ⟨.int level, anchor, title⟩
  | _ => none

def isRecorded (recorded : List Value) (language : String) : Bool :=
  recorded.any fun seen =>
    match seen with
    | .str other => other == language
    | _ => false

/-- The languages that say something and are not recorded yet, each once, in the order in which they
are first met. -/
def newLanguages (recorded : List Value) (languages : List String) : List String :=
  (languages.filter fun language => language != "" && !isRecorded recorded language).eraseDups

/-- A state with what some nodes add to it. -/
def State.after (setting : Setting) (state : State) (nodes : List Node) : State where
  summary := state.summary ++ nodes.filterMap summaryLine?
  features := {
    katex := state.features.katex || nodes.any (Node.isLeaf .mathExpr)
    prism := state.features.prism || nodes.any (Node.isLeaf .codeBlock)
    mermaid := state.features.mermaid || nodes.any (Node.isLeaf .diagram) }
  languages := state.languages ++
    (newLanguages state.languages (nodes.filterMap Node.language?)).map Value.str
  statements := state.statements ++
    statementsFrom setting state.mathCount (nodes.filterMap Node.formula?)
  mathCount := state.mathCount + (nodes.filterMap Node.formula?).length

theorem isRecorded_append (recorded : List Value) (more : List String) (language : String) :
    isRecorded (recorded ++ more.map Value.str) language =
      (isRecorded recorded language || more.contains language) := by
  have own : isRecorded (more.map Value.str) language = more.contains language := by
    rw [Bool.eq_iff_iff, List.contains_iff_mem]
    simp [isRecorded]
  rw [← own]
  exact List.any_append

theorem newLanguages_append (recorded : List Value) (left right : List String) :
    newLanguages recorded (left ++ right) = newLanguages recorded left ++
      newLanguages (recorded ++ (newLanguages recorded left).map Value.str) right := by
  unfold newLanguages
  rw [List.filter_append, List.eraseDups_append]
  -- The later ones are new if the earlier ones have not brought them.
  congr 2
  rw [List.removeAll, List.filter_filter]
  refine List.filter_congr fun language _ => ?_
  have same : ∀ languages : List String,
      languages.eraseDups.contains language = languages.elem language := by
    intro languages
    rw [Bool.eq_iff_iff, List.contains_iff_mem, List.elem_iff, List.mem_eraseDups]
  rw [isRecorded_append, same, Bool.not_or, Bool.and_comm, ← Bool.and_assoc]

theorem isRecorded_newLanguages (recorded : List Value) (languages : List String)
    (language : String) :
    isRecorded (recorded ++ (newLanguages recorded languages).map Value.str) language = true ↔
      isRecorded recorded language = true ∨ language ≠ "" ∧ language ∈ languages := by
  rw [isRecorded_append, Bool.or_eq_true, List.contains_iff_mem, newLanguages, List.mem_eraseDups,
    List.mem_filter]
  cases isRecorded recorded language <;> simp [and_comm]

theorem State.after_append (setting : Setting) (state : State) (left right : List Node) :
    (state.after setting left).after setting right = state.after setting (left ++ right) := by
  simp [State.after, newLanguages_append, statementsFrom_append, Bool.or_assoc, Nat.add_assoc]

theorem isNewLanguage_text (state : State) (language : String) :
    state.isNewLanguage (.str language) =
      (language != "" && !isRecorded state.languages language) := by
  have alike : ∀ seen : Value, seen.alike (.str language) =
      (match seen with
        | .str other => other == language
        | _ => false) := by
    intro seen
    cases seen <;> simp [Value.alike, Value.numberAlike]
  simp only [State.isNewLanguage, Value.truthy, isRecorded, alike]

theorem registerLanguage_text (state : State) (language : String) :
    (state.registerLanguage (.str language)).2 =
      { state.needPrism with
        languages := state.languages ++ (newLanguages state.languages [language]).map Value.str } := by
  rw [State.registerLanguage, isNewLanguage_text]
  by_cases new : (language != "" && !isRecorded state.languages language) = true
  · simp [new, newLanguages, State.needPrism, List.eraseDups_cons]
  · simp [new, newLanguages, State.needPrism]

theorem State.after_singleton (setting : Setting) (state : State) (node : Node) :
    state.after setting [node] = {
      summary := state.summary ++ (summaryLine? node).toList
      features := {
        katex := state.features.katex || node.isLeaf .mathExpr
        prism := state.features.prism || node.isLeaf .codeBlock
        mermaid := state.features.mermaid || node.isLeaf .diagram }
      languages := state.languages ++
        (newLanguages state.languages node.language?.toList).map Value.str
      statements := state.statements ++
        statementsFrom setting state.mathCount node.formula?.toList
      mathCount := state.mathCount + node.formula?.toList.length } := by
  have alone : ∀ {α : Type} (f : Node → Option α), [node].filterMap f = (f node).toList := by
    intro α f
    cases found : f node <;> simp [found]
  simp [State.after, alone]

theorem gathered_event (setting : Setting) (state : State) (node : Node) :
    gathered setting state node.event = state.after setting [node] := by
  have nothing : newLanguages state.languages [] = [] := rfl
  rw [State.after_singleton]
  cases node with
  | leaf item data =>
    cases item <;>
      simp [gathered, Node.event, nothing, registerLanguage_text, Node.language?, Node.formula?,
        Tree.Leaf.formula?, summaryLine?, Node.isLeaf, Node.kind, Tree.Leaf.kind, State.needPrism,
        State.registerMath, State.nextMathId, State.registerDiagram, statementsFrom,
        Formula.statement]
  | branch frame children data =>
    cases frame <;>
      simp [gathered, Node.event, nothing, Node.language?, Node.formula?, summaryLine?, Node.isLeaf,
        Node.kind, State.addSummaryEntry, statementsFrom]

theorem course_met (setting : Setting) (events : List Event) (state : State) :
    course setting state (events.filter Event.meets) = course setting state events := by
  induction events generalizing state with
  | nil => rfl
  | cons event rest ih =>
    cases event with
    | leave tag =>
      rw [course_clear rest rfl]
      exact ih state
    | leaf _ | enter _ _ =>
      rw [List.filter_cons_of_pos rfl, course, course]
      simp only [ih]

/-- Either every node is met, or the nodes up to the first that breaks the rendering off. -/
theorem course_nodes (setting : Setting) (nodes : List Node) (state : State) :
    (course setting state (nodes.map Node.event)).fault? = none ∧
        (course setting state (nodes.map Node.event)).state = state.after setting nodes ∨
      ∃ before node rest fault, nodes = before ++ node :: rest ∧
        (course setting state (nodes.map Node.event)).fault? = some fault ∧
        (course setting state (nodes.map Node.event)).state =
          state.after setting (before ++ [node]) ∧
        fault? setting (state.after setting before) node.event = some fault ∧
        ∀ front other back, before = front ++ other :: back →
          fault? setting (state.after setting front) other.event = none := by
  have bare : ∀ state : State, state.after setting [] = state := by
    intro state
    simp [State.after, newLanguages, statementsFrom]
  induction nodes generalizing state with
  | nil => exact Or.inl ⟨rfl, (bare state).symm⟩
  | cons node rest ih =>
    rw [List.map_cons]
    cases found : fault? setting state node.event with
    | some fault =>
      rw [course_stopped _ found, gathered_event]
      refine Or.inr ⟨[], node, rest, fault, rfl, rfl, rfl, ?_, by simp⟩
      rw [bare]
      exact found
    | none =>
      rw [course_clear _ found, gathered_event]
      rcases ih (state.after setting [node]) with ⟨clear, whole⟩ |
        ⟨before, last, others, fault, split, broken, cut, here, earlier⟩
      · refine Or.inl ⟨clear, ?_⟩
        rw [whole, State.after_append, List.singleton_append]
      · rw [State.after_append, List.singleton_append] at cut here
        refine Or.inr ⟨node :: before, last, others, fault, by rw [split]; rfl, broken, cut, here, ?_⟩
        -- The node itself is the first of them, and the rest come after it.
        intro front other back same
        cases front with
        | nil =>
          obtain ⟨rfl, -⟩ := List.cons_eq_cons.mp same
          rw [bare]
          exact found
        | cons first front =>
          obtain ⟨rfl, later⟩ := List.cons_eq_cons.mp same
          have clear := earlier front other back later
          rwa [State.after_append, List.singleton_append] at clear

theorem course_preorder (setting : Setting) (tree : Node) (state : State) :
    course setting state tree.events = course setting state (tree.preorder.map Node.event) := by
  rw [← tree.met_events, course_met]

theorem state_of_clear {setting : Setting} {nodes : List Node} {state : State}
    (clear : (course setting state (nodes.map Node.event)).fault? = none) :
    (course setting state (nodes.map Node.event)).state = state.after setting nodes := by
  rcases course_nodes setting nodes state with ⟨-, whole⟩ | ⟨_, _, _, fault, -, broken, -⟩
  · exact whole
  · exact absurd (clear.symm.trans broken) (by simp)

theorem summary_of_clear {setting : Setting} {tree : Node}
    (clear : (course setting .fresh tree.events).fault? = none) :
    (course setting .fresh tree.events).state.summary = tree.preorder.filterMap summaryLine? := by
  rw [course_preorder] at clear ⊢
  rw [state_of_clear clear]
  exact List.nil_append _

theorem course_clear_of_each {setting : Setting} {nodes : List Node} {state : State}
    (each : ∀ front node back, nodes = front ++ node :: back →
      fault? setting (state.after setting front) node.event = none) :
    (course setting state (nodes.map Node.event)).fault? = none := by
  rcases course_nodes setting nodes state with ⟨clear, -⟩ |
    ⟨before, node, rest, fault, split, -, -, here, -⟩
  · exact clear
  · exact absurd (here.symm.trans (each before node rest split)) (by simp)

/-- What is recorded stays recorded, in its place, and languages stay apart. -/
structure State.Extends (before after : State) : Prop where
  summary : before.summary <+: after.summary
  languages : before.languages <+: after.languages
  statements : before.statements <+: after.statements
  mathCount : before.mathCount ≤ after.mathCount
  katex : before.features.katex = true → after.features.katex = true
  prism : before.features.prism = true → after.features.prism = true
  mermaid : before.features.mermaid = true → after.features.mermaid = true
  apart : before.languages.Nodup → after.languages.Nodup

theorem nodup_eraseDups : (languages : List String) → languages.eraseDups.Nodup
  | [] => by simp
  | first :: rest => by
    rw [List.eraseDups_cons, List.nodup_cons]
    refine ⟨?_, nodup_eraseDups _⟩
    simp [List.mem_eraseDups]
termination_by languages => languages.length
decreasing_by exact Nat.lt_succ_of_le (List.length_filter_le _ _)

theorem newLanguages_apart (recorded : List Value) (languages : List String)
    (apart : recorded.Nodup) :
    (recorded ++ (newLanguages recorded languages).map Value.str).Nodup := by
  refine List.nodup_append.mpr ⟨apart, ?_, ?_⟩
  · refine List.pairwise_map.mpr ((nodup_eraseDups _).imp fun different same => ?_)
    exact different (Value.str.inj same)
  · -- What is recorded has been filtered out.
    rintro seen known _ member rfl
    obtain ⟨language, new, rfl⟩ := List.mem_map.mp member
    rw [newLanguages, List.mem_eraseDups, List.mem_filter] at new
    have recordedToo : isRecorded recorded language = true :=
      List.any_eq_true.mpr ⟨_, known, by simp⟩
    simp [recordedToo] at new

theorem State.after_extends (setting : Setting) (state : State) (nodes : List Node) :
    state.Extends (state.after setting nodes) where
  summary := List.prefix_append _ _
  languages := List.prefix_append _ _
  statements := List.prefix_append _ _
  mathCount := Nat.le_add_right _ _
  katex held := by simp [State.after, held]
  prism held := by simp [State.after, held]
  mermaid held := by simp [State.after, held]
  apart := newLanguages_apart _ _

theorem fragment_course (setting : Setting) (tree : Node) (typed : tree.WellTyped)
    (state : State) :
    (fragment setting (.node tree) state).state =
        (course setting state (tree.preorder.map Node.event)).state ∧
      ∀ fault, (fragment setting (.node tree) state).result = .error fault ↔
        (course setting state (tree.preorder.map Node.event)).fault? = some fault := by
  rw [← course_preorder]
  refine ⟨fragment_state setting tree typed state, ?_⟩
  intro fault
  rw [fragment_result setting tree typed state, Course.ending]
  cases (course setting state tree.events).fault? <;> simp

/-- What a rendering breaks off at: a section too deep for its level to be written, or a code block
whose language comes up for the first time and has no grammar. -/
theorem fault?_cases {setting : Setting} {state : State} {node : Node} {fault : Fault}
    (stopped : fault? setting state node.event = some fault) :
    (∃ level, node.sectionLevel? = some level ∧ Number.isWritable level = false ∧
        fault = .tooManyDigits none) ∨
      ∃ language source data, node = .leaf (.codeBlock language source) data ∧
        fault = .missingGrammar language (Assets.canonical language.display) ∧
        lacksGrammar setting state language.display = true ∧
        setting.options.failOnMissingPlugin.truthy = true := by
  cases node with
  | leaf item data =>
    cases item with
    | codeBlock language source =>
      simp only [Node.event, fault?, Option.ite_none_right_eq_some, Bool.and_eq_true,
        Option.some.injEq] at stopped
      exact Or.inr ⟨language, source, data, rfl, stopped.2.symm, stopped.1.1, stopped.1.2⟩
    | _ => simp [Node.event, fault?] at stopped
  | branch frame children data =>
    cases frame with
    | heading level anchor title =>
      cases children with
      | nil => simp [Node.event, fault?] at stopped
      | cons child rest =>
        simp only [Node.event, fault?, List.isEmpty_cons, Bool.not_false,
          Option.ite_none_left_eq_some, Bool.not_eq_true, Option.some.injEq] at stopped
        exact Or.inl ⟨level + 1, rfl, stopped.1, stopped.2.symm⟩
    | _ => simp [Node.event, fault?] at stopped

theorem code_of_missingAsset {setting : Setting} {state : State} {node : Node} {fault : Fault}
    (stopped : fault? setting state node.event = some fault)
    (asset : fault.category = .missingAsset) :
    ∃ language source data, node = .leaf (.codeBlock language source) data ∧
      fault = .missingGrammar language (Assets.canonical language.display) ∧
      lacksGrammar setting state language.display = true ∧
      setting.options.failOnMissingPlugin.truthy = true := by
  rcases fault?_cases stopped with ⟨level, -, -, rfl⟩ | code
  · -- A level too long to be written is no matter of assets.
    exact absurd asset (by decide)
  · exact code

/-- Whatever a state holds when a rendering starts, afterwards it holds besides what the nodes of the
tree add in order: all of them where there is a fragment, and those up to the code block that was
refused where a grammar is missing. That block is the first to bring a language that is new and has
none. Nothing that was recorded before is lost or moved. -/
theorem fragment_gathers (setting : Setting) (tree : Node) (typed : tree.WellTyped)
    (state : State) :
    let outcome := fragment setting (.node tree) state
    (∀ html, outcome.result = .ok html → outcome.state = state.after setting tree.preorder) ∧
    (∀ fault, outcome.result = .error fault → fault.category = .missingAsset →
      ∃ before language source data rest,
        tree.preorder = before ++ .leaf (.codeBlock language source) data :: rest ∧
        outcome.state =
          state.after setting (before ++ [.leaf (.codeBlock language source) data]) ∧
        fault = .missingGrammar language (Assets.canonical language.display) ∧
        lacksGrammar setting (state.after setting before) language.display = true ∧
        ∀ front other source' data' back,
          before = front ++ .leaf (.codeBlock other source') data' :: back →
            lacksGrammar setting (state.after setting front) other.display = false) ∧
    (∃ met, met <+: tree.preorder ∧ outcome.state = state.after setting met) ∧
    state.Extends outcome.state := by
  obtain ⟨gathers, faults⟩ := fragment_course setting tree typed state
  intro outcome
  -- Either all nodes were met, or the rendering broke off at one of them.
  rcases course_nodes setting tree.preorder state with ⟨clear, whole⟩ |
    ⟨before, node, rest, fault, split, broken, cut, here, earlier⟩
  · have all : outcome.state = state.after setting tree.preorder := gathers.trans whole
    refine ⟨fun _ _ => all, ?_, ⟨_, List.prefix_rfl, all⟩, ?_⟩
    · intro fault failed
      rw [faults fault, clear] at failed
      exact absurd failed (by simp)
    · rw [all]
      exact state.after_extends setting _
  · have some : outcome.state = state.after setting (before ++ [node]) := gathers.trans cut
    have first : before ++ [node] <+: tree.preorder := by
      rw [split]
      exact ⟨rest, by simp⟩
    refine ⟨?_, ?_, ⟨_, first, some⟩, ?_⟩
    · intro html done
      have failed := (faults fault).mpr broken
      exact absurd (done.symm.trans failed) (by simp)
    · intro other failed asset
      rw [faults other, broken] at failed
      obtain rfl := Option.some.inj failed
      -- The first node that broke it off is the code block without a grammar.
      obtain ⟨language, source, data, rfl, which, lacks, strict⟩ := code_of_missingAsset here asset
      refine ⟨before, language, source, data, rest, split, some, which, lacks, ?_⟩
      intro front other source' data' back same
      have clear := earlier front _ back same
      simpa [Node.event, fault?, strict] using clear
    · rw [some]
      exact state.after_extends setting _

def filledState : State where
  summary := [⟨.int 3, .str "old", .str "Old"⟩]
  features := ⟨true, false, false⟩
  languages := [.str "rust"]
  statements := [.str "old();"]
  mathCount := 7

/-- The second code block is refused: the language of the first one is recorded already. -/
def refusedTree : Node :=
  .branch (.heading 1 (.str "a") (.str "A")) [
    .leaf (.mathExpr (.str "x") true) (.object []),
    .leaf (.codeBlock (.str " Rust ") (.str "")) (.object []),
    .leaf (.codeBlock (.str "lost") (.str "")) (.object []),
    .leaf (.diagram (.str "")) (.object [])] (.object [])

theorem refusedTree_wellTyped : refusedTree.WellTyped := by
  simp [refusedTree, Node.WellTyped, Tree.AllWellTyped, Tree.Branch.WellTyped, Tree.Leaf.WellTyped,
    Tree.IsText]

theorem exists_of_category {α : Type} {outcome : Except Fault α} {category : Fault.Category}
    (found : (match outcome with
      | .error fault => decide (fault.category = category)
      | .ok _ => false) = true) : ∃ fault, outcome = .error fault ∧ fault.category = category := by
  cases outcome with
  | ok result => exact absurd found (by simp)
  | error fault => exact ⟨fault, rfl, of_decide_eq_true found⟩

theorem refusedTree_refused :
    ∃ fault, (fragment strictSetting (.node refusedTree) filledState).result = .error fault ∧
      fault.category = .missingAsset :=
  exists_of_category (by decide +kernel)

theorem fragment_gathers_refused :
    hostileTree.WellTyped ∧
      (fragment bareSetting (.node hostileTree) .fresh).state =
        State.fresh.after bareSetting hostileTree.preorder ∧
      refusedTree.WellTyped ∧
      ∃ before language source data rest,
        refusedTree.preorder = before ++ .leaf (.codeBlock language source) data :: rest ∧
        (fragment strictSetting (.node refusedTree) filledState).state = filledState.after
          strictSetting (before ++ [.leaf (.codeBlock language source) data]) := by
  have done := (fragment_gathers bareSetting hostileTree hostileTree_wellTyped .fresh).1
  obtain ⟨fault, failed, asset⟩ := refusedTree_refused
  obtain ⟨before, language, source, data, rest, split, state, -⟩ :=
    (fragment_gathers strictSetting refusedTree refusedTree_wellTyped filledState).2.1 fault failed
      asset
  exact ⟨hostileTree_wellTyped, done _ hostileTree_fragment, refusedTree_wellTyped, before, language,
    source, data, rest, split, state⟩

end Folio.Render
