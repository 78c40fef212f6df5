import Folio.Proofs.Render.Fragment
import Folio.Tree.Preorder

/-! What a rendering has gathered when it is through. Each event adds its own little to the state, so
a whole tree adds what its nodes do, and nothing that was there before is lost. -/
namespace Folio.Tree

def occurs (kind : LeafKind) (tree : Node) : Bool :=
  tree.preorder.any fun node => decide (node.kind = .leaf kind)

def Event.isA (kind : LeafKind) : Event → Bool
  | .leaf item => decide (item.kind = kind)
  | _ => false

mutual

theorem Node.any_events (kind : LeafKind) : (node : Node) →
    node.events.any (Event.isA kind) = node.preorder.any fun node => decide (node.kind = .leaf kind)
  | .leaf item _ => by
    simp [Node.events, Node.preorder, Event.isA, Node.kind]
  | .branch frame children data => by
    have branch : decide ((Node.branch frame children data).kind = .leaf kind) = false := by
      simp [Node.kind]
    simp only [Node.events, Node.preorder, List.cons_append, List.any_cons, List.any_append,
      Event.isA, any_eventsAll kind children, branch]
    cases frame.element (!children.isEmpty) <;> simp [Event.isA]

theorem any_eventsAll (kind : LeafKind) : (nodes : List Node) →
    (eventsAll nodes).any (Event.isA kind) =
      (preorderAll nodes).any fun node => decide (node.kind = .leaf kind)
  | [] => rfl
  | node :: rest => by
    rw [eventsAll, preorderAll, List.any_append, List.any_append, node.any_events kind,
      any_eventsAll kind rest]

end

end Folio.Tree

namespace Folio.Render

open Folio.Tree (Event IsText Node occurs)

def Features.after (features : Features) (events : List Event) : Features where
  katex := features.katex || events.any (Event.isA .mathExpr)
  prism := features.prism || events.any (Event.isA .codeBlock)
  mermaid := features.mermaid || events.any (Event.isA .diagram)

theorem gathered_features (setting : Setting) (state : State) (event : Event) :
    (gathered setting state event).features = state.features.after [event] := by
  cases event with
  | leaf item =>
    cases item with
    | codeBlock language source =>
      simp only [gathered, State.registerLanguage]
      split <;> simp [Features.after, Event.isA, Tree.Leaf.kind, State.needPrism]
    | _ =>
      simp [gathered, Features.after, Event.isA, Tree.Leaf.kind, State.registerMath,
        State.nextMathId, State.registerDiagram]
  | enter hasChildren frame =>
    cases frame <;> simp [gathered, Features.after, Event.isA, State.addSummaryEntry]
  | leave tag => simp [gathered, Features.after, Event.isA]

theorem course_features (setting : Setting) (events : List Event) (state : State)
    (clear : (course setting state events).fault? = none) :
    (course setting state events).state.features = state.features.after events := by
  induction events generalizing state with
  | nil => simp [course, Features.after]
  | cons event rest ih =>
    cases found : fault? setting state event with
    | some fault => simp [course_stopped rest found] at clear
    | none =>
      rw [course_clear rest found] at clear ⊢
      simp only [ih _ clear, gathered_features]
      simp [Features.after, Bool.or_assoc]

theorem tree_features (setting : Setting) (tree : Node)
    (clear : (course setting .fresh tree.events).fault? = none) :
    (course setting .fresh tree.events).state.features =
      ⟨occurs .mathExpr tree, occurs .codeBlock tree, occurs .diagram tree⟩ := by
  rw [course_features setting tree.events .fresh clear, Features.after]
  simp [State.fresh, Features.none, Tree.Node.any_events, occurs]

/-- What stands in links to a heading, and is shown there, is text. -/
def SummaryEntry.HasTexts (entry : SummaryEntry) : Prop := IsText entry.anchor ∧ IsText entry.name

theorem gathered_summary_texts (setting : Setting) (state : State) (event : Event)
    (typed : event.WellTyped) (texts : ∀ entry ∈ state.summary, entry.HasTexts) :
    ∀ entry ∈ (gathered setting state event).summary, entry.HasTexts := by
  cases event with
  | leaf item =>
    cases item with
    | codeBlock language source =>
      simp only [gathered, State.registerLanguage]
      split <;> exact texts
    | _ => exact texts
  | enter hasChildren frame =>
    cases frame with
    | heading level anchor title =>
      intro entry member
      rcases List.mem_append.mp member with earlier | last
      · exact texts entry earlier
      · obtain rfl := List.mem_singleton.mp last
        exact typed.2
    | _ => exact texts
  | leave tag => exact texts

theorem course_summary_texts (setting : Setting) (events : List Event)
    (typed : ∀ event ∈ events, event.WellTyped) (state : State)
    (texts : ∀ entry ∈ state.summary, entry.HasTexts) :
    ∀ entry ∈ (course setting state events).state.summary, entry.HasTexts := by
  induction events generalizing state with
  | nil => exact texts
  | cons event rest ih =>
    have here := gathered_summary_texts setting state event (typed event List.mem_cons_self) texts
    cases found : fault? setting state event with
    | some fault =>
      rw [course_stopped rest found]
      exact here
    | none =>
      rw [course_clear rest found]
      exact ih (fun other member => typed other (List.mem_cons_of_mem event member)) _ here

end Folio.Render
