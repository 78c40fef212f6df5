import Folio.Proofs.Render.Event

/-! What the rendering of a whole tree comes to. The row of its events is followed until one of them
breaks it off; what was gathered up to there is kept, and a row that is followed to its end has
written the markup of the tree. -/
namespace Folio.Tree

open Markup (Token)

def tokensAlong (count : Nat) : List Event → List Token
  | [] => []
  | event :: rest => event.tokens count ++ tokensAlong (count + event.formulas) rest

/-- Along a row of events every element is left where it is the innermost one. -/
inductive Fits : List String → List Event → List String → Prop
  | done {stack : List String} : Fits stack [] stack
  | next {before middle after : List String} {event : Event} {rest : List Event}
      (moves : event.Moves before middle) (later : Fits middle rest after) :
      Fits before (event :: rest) after

theorem Fits.append {before middle after : List String} {left right : List Event}
    (first : Fits before left middle) (second : Fits middle right after) :
    Fits before (left ++ right) after := by
  induction first with
  | done => exact second
  | next moves _ ih => exact .next moves (ih second)

mutual

theorem Node.fits (stack : List String) : (node : Node) → Fits stack node.events stack
  | .leaf item _ => .next rfl .done
  | .branch frame children _ => by
    have inside := fitsAll (stack ++ ((frame.element (!children.isEmpty)).map Prod.fst).toList)
      children
    refine Fits.next rfl (inside.append ?_)
    cases frame.element (!children.isEmpty) with
    | none => simpa using Fits.done
    | some around => exact .next rfl .done

theorem fitsAll (stack : List String) : (nodes : List Node) → Fits stack (eventsAll nodes) stack
  | [] => .done
  | node :: rest => (node.fits stack).append (fitsAll stack rest)

end

mutual

theorem Node.events_wellTyped : (node : Node) → node.WellTyped →
    ∀ event ∈ node.events, event.WellTyped
  | .leaf item _, typed => by
    intro event member
    obtain rfl : event = .leaf item := by simpa [Node.events] using member
    exact typed
  | .branch frame children _, typed => by
    intro event member
    simp only [Node.events, List.cons_append, List.mem_cons, List.mem_append] at member
    rcases member with rfl | inside | last
    · exact typed.1
    · exact eventsAll_wellTyped children typed.2 event inside
    · cases around : frame.element (!children.isEmpty) with
      | none => simp [around] at last
      | some element =>
        obtain rfl : event = .leave element.1 := by simpa [around] using last
        trivial

theorem eventsAll_wellTyped : (nodes : List Node) → AllWellTyped nodes →
    ∀ event ∈ eventsAll nodes, event.WellTyped
  | [], _ => by simp [eventsAll]
  | node :: rest, typed => by
    intro event member
    rcases List.mem_append.mp member with first | later
    · exact node.events_wellTyped typed.1 event first
    · exact eventsAll_wellTyped rest typed.2 event later

end

mutual

theorem Node.tokensAlong_events (count : Nat) : (node : Node) → (rest : List Event) →
    tokensAlong count (node.events ++ rest) =
      node.tokens count ++ tokensAlong (count + node.formulas) rest
  | .leaf item _, rest => rfl
  | .branch frame children _, rest => by
    simp only [Node.events, List.cons_append, List.append_assoc, tokensAlong, Event.tokens,
      Event.formulas, Nat.add_zero]
    rw [tokensAlong_eventsAll count children]
    cases around : frame.element (!children.isEmpty) with
    | none => simp [Node.tokens, Node.formulas, within, openTokens, around]
    | some element =>
      simp [Node.tokens, Node.formulas, within, openTokens, around, tokensAlong, Event.tokens,
        Event.formulas]

theorem tokensAlong_eventsAll (count : Nat) : (nodes : List Node) → (rest : List Event) →
    tokensAlong count (eventsAll nodes ++ rest) =
      tokensAll count nodes ++ tokensAlong (count + formulasAll nodes) rest
  | [], rest => rfl
  | node :: nodes, rest => by
    rw [eventsAll, List.append_assoc, node.tokensAlong_events, tokensAlong_eventsAll _ nodes,
      tokensAll, formulasAll, List.append_assoc, Nat.add_assoc]

end

end Folio.Tree

namespace Folio.Render

open Markup (Token Writer merged writtenAll)
open Stateful (run run_bind_ok run_bind_error)
open Folio.Tree (Event Fits Node Permitted tokensAlong)

/-- Where a row of events leads, and why it goes no further, if it does not. -/
structure Course where
  state : State
  notices : List Notice
  fault? : Option Fault

/-- What a row of events gathers, with the event that breaks it off but with none after it. -/
def course (setting : Setting) (state : State) : List Event → Course
  | [] => ⟨state, [], none⟩
  | event :: rest =>
    match fault? setting state event with
    | some fault => ⟨gathered setting state event, [], some fault⟩
    | none =>
      let later := course setting (gathered setting state event) rest
      { later with notices := noticed setting state event ++ later.notices }

theorem course_stopped {setting : Setting} {state : State} {event : Event} {fault : Fault}
    (rest : List Event) (stopped : fault? setting state event = some fault) :
    course setting state (event :: rest) = ⟨gathered setting state event, [], some fault⟩ := by
  simp [course, stopped]

theorem course_clear {setting : Setting} {state : State} {event : Event} (rest : List Event)
    (clear : fault? setting state event = none) :
    course setting state (event :: rest) =
      { course setting (gathered setting state event) rest with
        notices := noticed setting state event ++
          (course setting (gathered setting state event) rest).notices } := by
  simp [course, clear]

def Course.ending {α : Type} (course : Course) (result : α) : Except Fault α :=
  match course.fault? with
  | none => .ok result
  | some fault => .error fault

/-- What a rendering with such a course says: at its end, if it gets there, what it has gathered. -/
def Course.said (course : Course) : List Notice :=
  match course.fault? with
  | none => course.notices ++ [fragmentNotice course.state]
  | some _ => course.notices

/-- A row of events goes where its course says, and to its end it writes all of its markup. -/
theorem run_follow (setting : Setting) (events : List Event)
    (typed : ∀ event ∈ events, event.WellTyped) (before after : List String)
    (fits : Fits before events after) (session : Session) (text : String)
    (holds : session.writer.Holds before text) :
    ∃ writer, run (follow setting events) session =
        ((course setting session.state events).ending (), ⟨writer,
          (course setting session.state events).state,
          session.notices ++ (course setting session.state events).notices⟩) ∧
      ((course setting session.state events).fault? = none →
        writer.Holds after (text ++ writtenAll (tokensAlong session.state.mathCount events))) := by
  -- Each event leaves another session, which the rest of the row starts from.
  induction events generalizing before session text with
  | nil =>
    cases fits
    refine ⟨session.writer, ?_, ?_⟩
    · simp [follow, course, Course.ending]
    · intro _
      simpa [tokensAlong, writtenAll] using holds
  | cons event rest ih =>
    cases fits with
    | @next _ middle _ _ _ moves later =>
    have here := typed event List.mem_cons_self
    cases found : fault? setting session.state event with
    | some fault =>
      obtain ⟨writer, ran⟩ := step_stops setting event here session before text holds fault found
      rw [course_stopped rest found]
      refine ⟨writer, ?_, by simp⟩
      rw [follow, run_bind_error _ ran]
      simp [Course.ending]
    | none =>
      obtain ⟨writer, ran, held⟩ :=
        step_passes setting event here session before middle text moves holds found
      obtain ⟨last, finished, shown⟩ := ih
        (fun event member => typed event (List.mem_cons_of_mem _ member)) middle later
        ⟨writer, gathered setting session.state event,
          session.notices ++ noticed setting session.state event⟩ _ held
      rw [course_clear rest found]
      refine ⟨last, ?_, ?_⟩
      · rw [follow, run_bind_ok _ ran, finished]
        simp [Course.ending]
      · intro clear
        -- The rest is numbered on from the formulas of this event.
        have all := shown clear
        simp only [gathered_mathCount] at all
        rw [tokensAlong, Markup.writtenAll_append, ← String.append_assoc]
        exact all

theorem run_renderFragment (setting : Setting) (tree : Node) (typed : tree.WellTyped)
    (session : Session) (new : session.writer = .empty) :
    ∃ writer, run (renderFragment setting tree) session =
      ((course setting session.state tree.events).ending
        (writtenAll (tree.tokens session.state.mathCount)), ⟨writer,
        (course setting session.state tree.events).state,
        session.notices ++ (course setting session.state tree.events).said⟩) := by
  have holds : session.writer.Holds [] "" := by
    rw [new]
    exact Markup.Writer.holds_empty
  obtain ⟨writer, ran, held⟩ := run_follow setting tree.events (tree.events_wellTyped typed) [] []
    (tree.fits []) session "" holds
  rw [renderFragment, renderNode_events]
  cases found : (course setting session.state tree.events).fault? with
  | some fault =>
    -- The writer is dropped with what it holds, so nothing has to be known of it.
    simp only [Course.ending, Course.said, found] at ran ⊢
    exact ⟨writer, run_bind_error _ ran⟩
  | none =>
    simp only [Course.ending, Course.said, found] at ran ⊢
    have whole := tree.tokensAlong_events session.state.mathCount []
    rw [List.append_nil, tokensAlong, List.append_nil] at whole
    have finished := Markup.run_finish (held found)
    rw [String.empty_append, whole] at finished
    have closed := run_write Writer.finish
      ⟨writer, (course setting session.state tree.events).state,
        session.notices ++ (course setting session.state tree.events).notices⟩
    rw [finished] at closed
    rw [← List.append_assoc]
    exact ⟨_, (run_bind_ok _ ran).trans ((run_bind_ok _ closed).trans rfl)⟩

/-- The fragment of a tree is the markup of the tree, unless the rendering breaks off. -/
theorem fragment_result (setting : Setting) (tree : Node) (typed : tree.WellTyped)
    (state : State) :
    (fragment setting (.node tree) state).result =
      (course setting state tree.events).ending (writtenAll (tree.tokens state.mathCount)) := by
  obtain ⟨writer, ran⟩ := run_renderFragment setting tree typed ⟨.empty, state, []⟩ rfl
  have same : (fragment setting (.node tree) state).result =
      (run (renderFragment setting tree) ⟨.empty, state, []⟩).1 := rfl
  rw [same, ran]

theorem fragment_state (setting : Setting) (tree : Node) (typed : tree.WellTyped)
    (state : State) :
    (fragment setting (.node tree) state).state = (course setting state tree.events).state := by
  obtain ⟨writer, ran⟩ := run_renderFragment setting tree typed ⟨.empty, state, []⟩ rfl
  have same : (fragment setting (.node tree) state).state =
      (run (renderFragment setting tree) ⟨.empty, state, []⟩).2.state := rfl
  rw [same, ran]

theorem markup_of_result {setting : Setting} {tree : Node} (typed : tree.WellTyped) {state : State}
    {html : String} (rendered : (fragment setting (.node tree) state).result = .ok html) :
    html = writtenAll (tree.tokens state.mathCount) := by
  rw [fragment_result setting tree typed state, Course.ending] at rendered
  split at rendered
  · exact (Except.ok.inj rendered).symm
  · exact absurd rendered (by simp)

/-- A renderer that may have been called before: its state, and every tree with a fragment. -/
structure History where
  state : State
  returned : List (Node × String)

namespace History

def new : History := ⟨.fresh, []⟩

def render (setting : Setting) (history : History) (tree : Node) : History where
  state := (fragment setting (.node tree) history.state).state
  returned :=
    match (fragment setting (.node tree) history.state).result with
    | .ok html => history.returned ++ [(tree, html)]
    | .error _ => history.returned

def renderAll (setting : Setting) (history : History) (trees : List Node) : History :=
  trees.foldl (render setting) history

theorem renderAll_keeps {setting : Setting} (invariant : History → Prop)
    (keeps : ∀ history tree, tree.WellTyped → invariant history →
      invariant (history.render setting tree))
    (history : History) (trees : List Node) (typed : ∀ tree ∈ trees, tree.WellTyped)
    (start : invariant history) : invariant (history.renderAll setting trees) := by
  induction trees generalizing history with
  | nil => exact start
  | cons tree trees ih =>
    have here := keeps history tree (typed tree List.mem_cons_self) start
    exact ih _ (fun other member => typed other (List.mem_cons_of_mem tree member)) here

end History

theorem tokens_of_result {setting : Setting} {tree : Node} (typed : tree.WellTyped) {state : State}
    {html : String} (rendered : (fragment setting (.node tree) state).result = .ok html) :
    (Markup.tokens .plain html).map (List.map Token.decoded) =
      some (merged (tree.tokens state.mathCount)) := by
  rw [markup_of_result typed rendered]
  apply Markup.tokens_writtenAll
  intro token member
  exact (tree.permitted state.mathCount typed token member).writable .plain
    (by simp [Markup.Dialect.plain])

/-- Whatever strings a tree has, a reader who knows of nothing but tags finds the tokens of the tree
in its fragment, with these strings in them once entities are decoded: no tags or attributes but the
few that fragments have, and every element closed in its turn. None but `hr` stands alone, because
the other void names are no names of a fragment. -/
theorem fragment_markup_exact (setting : Setting) (tree : Node) (typed : tree.WellTyped)
    (state : State) (html : String)
    (rendered : (fragment setting (.node tree) state).result = .ok html) :
    (Markup.tokens .plain html).map (List.map Token.decoded) =
        some (merged (tree.tokens state.mathCount)) ∧
      (∀ token ∈ merged (tree.tokens state.mathCount), Permitted token) ∧
      ∃ forest, Markup.elements (merged (tree.tokens state.mathCount)) = some forest := by
  refine ⟨tokens_of_result typed rendered, ?_, ?_⟩
  · intro token member
    cases token with
    | text content => trivial
    | opening _ _ | closing _ | verbatim _ | comment =>
      exact tree.permitted state.mathCount typed _ (Markup.mem_of_mem_merged member rfl)
  · obtain ⟨forest, makes⟩ := tree.makes state.mathCount typed
    exact ⟨forest, (makes.of_marks (Markup.marks_merged _)).elements_eq⟩

def bareSetting : Setting := ⟨.default, ⟨"", "", "", "", "", "", "", "<svg/>", "<svg/>", []⟩⟩

/-- A heading whose strings look like markup, over a formula that does, and a link that may stay. -/
def hostileTree : Node :=
  .branch (.container .null) [
    .branch (.heading 1 (.str "a\"><script>") (.str "<b>&amp;"))
      [.leaf (.mathExpr (.str "x<'y'") true) (.object [])] (.object []),
    .leaf .thematicBreak (.object []),
    .branch (.link (.str "?a=1&b='2'")) [] (.object [])] (.object [])

def hostileFragment : String :=
  "<h1 id=\"a&quot;&gt;&lt;script&gt;\">&lt;b&gt;&amp;amp;</h1><div class=\"container-lvl2\">" ++
    "<div class=\"katex-math katex-display\" data-katex-index=\"1\">x&lt;&#x27;y&#x27;</div>" ++
    "</div><hr><a href=\"?a=1&amp;b=&#x27;2&#x27;\"></a>"

theorem hostileTree_wellTyped : hostileTree.WellTyped := by
  simp [hostileTree, Node.WellTyped, Tree.AllWellTyped, Tree.Branch.WellTyped, Tree.Leaf.WellTyped,
    Tree.IsText]

theorem ok_of_toOption {α : Type} {outcome : Except Fault α} {result : α}
    (found : outcome.toOption = some result) : outcome = .ok result := by
  cases outcome with
  | ok other => simpa [Except.toOption] using found
  | error fault => simp [Except.toOption] at found

theorem ok_of_isSome {α : Type} {outcome : Except Fault α}
    (found : outcome.toOption.isSome = true) : ∃ result, outcome = .ok result := by
  obtain ⟨result, found⟩ := Option.isSome_iff_exists.mp found
  exact ⟨result, ok_of_toOption found⟩

theorem hostileTree_fragment :
    (fragment bareSetting (.node hostileTree) .fresh).result = .ok hostileFragment :=
  ok_of_toOption (by decide +kernel)

theorem fragment_markup_hostile :
    hostileTree.WellTyped ∧
      (fragment bareSetting (.node hostileTree) .fresh).result = .ok hostileFragment ∧
      (Markup.tokens .plain hostileFragment).map (List.map Token.decoded) =
        some (merged (hostileTree.tokens 0)) :=
  ⟨hostileTree_wellTyped, hostileTree_fragment,
    (fragment_markup_exact bareSetting hostileTree hostileTree_wellTyped .fresh hostileFragment
      hostileTree_fragment).1⟩

end Folio.Render
