import Folio.Proofs.Assets.Language
import Folio.Proofs.Render.Outline
import Folio.Render.Fragment

/-! A rendering as a row of events. A tree is a row of leaves met, branches entered and elements left,
and rendering the tree is following that row. What one event writes and gathers is said once for
every kind of event; what a rendering does, also one that breaks off, follows by going along the row. -/
namespace Folio.Tree

inductive Event where
  | leaf (item : Leaf)
  | enter (hasChildren : Bool) (frame : Branch)
  | leave (tag : String)

mutual

def Node.events : Node → List Event
  | .leaf item _ => [.leaf item]
  | .branch frame children _ =>
    .enter (!children.isEmpty) frame :: eventsAll children ++
      match frame.element (!children.isEmpty) with
      | none => []
      | some (tag, _) => [.leave tag]

def eventsAll : List Node → List Event
  | [] => []
  | node :: rest => node.events ++ eventsAll rest

end

def openTokens (element : Option (String × List (String × String))) : List Markup.Token :=
  match element with
  | none => []
  | some (tag, attrs) => [.opening tag attrs]

def Event.tokens (count : Nat) : Event → List Markup.Token
  | .leaf item => item.tokens (count + 1)
  | .enter hasChildren frame => frame.title ++ openTokens (frame.element hasChildren)
  | .leave tag => [.closing tag]

def Event.formulas : Event → Nat
  | .leaf item => item.formulas
  | _ => 0

def Event.Moves (before after : List String) : Event → Prop
  | .leaf _ => after = before
  | .enter hasChildren frame =>
    after = before ++ ((frame.element hasChildren).map Prod.fst).toList
  | .leave tag => before = after ++ [tag]

def Event.WellTyped : Event → Prop
  | .leaf item => item.WellTyped
  | .enter _ frame => frame.WellTyped
  | .leave _ => True

theorem IsText.exists {value : Value} (isText : IsText value) : ∃ text, value = .str text := by
  cases value with
  | str text => exact ⟨text, rfl⟩
  | null | bool _ | int _ | float _ | list _ | object _ => exact isText.elim

end Folio.Tree

namespace Folio.Render

open Markup (Writer Writes writtenAll)
open Stateful (run run_bind)
open Folio.Tree (Branch Event Leaf Node eventsAll openTokens)

def step (setting : Setting) : Event → Rendering Unit
  | .leaf item => renderLeaf setting item
  | .enter hasChildren frame => do
    match ← enter hasChildren frame with
    | none => pure ()
    | some (tag, attrs) => Rendering.write (Writer.startTag tag attrs)
  | .leave _ => Rendering.write Writer.endTag

def follow (setting : Setting) : List Event → Rendering Unit
  | [] => pure ()
  | event :: rest => do
    step setting event
    follow setting rest

theorem follow_append (setting : Setting) (left right : List Event) :
    follow setting (left ++ right) = (do
      follow setting left
      follow setting right) := by
  induction left with
  | nil => simp [follow]
  | cons event left ih => simp [follow, ih]

theorem renderNode_branch (setting : Setting) (frame : Branch) (children : List Node)
    (metadata : Value) :
    renderNode setting (.branch frame children metadata) = (do
      step setting (.enter (!children.isEmpty) frame)
      renderNodes setting children
      match frame.element (!children.isEmpty) with
      | none => pure ()
      | some _ => Rendering.write Writer.endTag) := by
  cases frame with
  | container cssClass =>
    by_cases classed : cssClass.truthy = true <;>
      simp [renderNode, enter, step, Branch.element, classed]
  | heading level anchor title =>
    by_cases empty : children.isEmpty = true <;>
      by_cases writable : Number.isWritable (level + 1) = true <;>
      simp [renderNode, enter, step, Branch.element, empty, writable]
  | _ => simp [renderNode, enter, step, Branch.element]

mutual

theorem renderNode_events (setting : Setting) :
    (node : Node) → renderNode setting node = follow setting node.events
  | .leaf item metadata => by simp [renderNode, Node.events, follow, step]
  | .branch frame children metadata => by
    rw [renderNode_branch, renderNodes_events setting children, Node.events, follow_append]
    cases frame.element (!children.isEmpty) with
    | none => simp [follow]
    | some element => simp [follow, step]

theorem renderNodes_events (setting : Setting) :
    (nodes : List Node) → renderNodes setting nodes = follow setting (eventsAll nodes)
  | [] => rfl
  | node :: rest => by
    rw [renderNodes, renderNode_events setting node, renderNodes_events setting rest, eventsAll,
      follow_append]

end

section Primitives
variable {α : Type}

theorem run_write (writing : Markup.Writing α) (session : Session) :
    run (Rendering.write writing) session =
      ((writing.run session.writer).1,
        { session with writer := (writing.run session.writer).2 }) := by
  simp [Rendering.write, run_bind]

theorem run_gather (change : State → α × State) (session : Session) :
    run (Rendering.gather change) session =
      (.ok (change session.state).1, { session with state := (change session.state).2 }) := by
  simp only [Rendering.gather, run_bind, Stateful.run_get, Stateful.run_set, Stateful.run_pure]

theorem run_record (change : State → State) (session : Session) :
    run (Rendering.record change) session =
      (.ok (), { session with state := change session.state }) :=
  run_gather _ session

theorem run_note (notice : Notice) (session : Session) :
    run (Rendering.note notice) session =
      (.ok (), { session with notices := session.notices ++ [notice] }) := rfl

theorem run_heed (work : Noted α) (session : Session) :
    run (Rendering.heed work) session =
      (work.outcome.1, { session with notices := session.notices ++ work.outcome.2 }) := by
  simp [Rendering.heed, run_bind]

end Primitives

/-- A rendering that goes through and does nothing but write. -/
def Renders (work : Rendering Unit) (before after : List String) (added : String) : Prop :=
  ∀ session text, session.writer.Holds before text →
    ∃ writer, run work session = (.ok (), { session with writer }) ∧
      writer.Holds after (text ++ added)

theorem renders_write {writing : Markup.Writing Unit} {before after : List String} {added : String}
    (writes : Writes writing before after added) :
    Renders (Rendering.write writing) before after added := by
  intro session text holds
  obtain ⟨writer, ran, held⟩ := writes session.writer text holds
  refine ⟨writer, ?_, held⟩
  rw [run_write, ran]

theorem Renders.seq {first second : Rendering Unit} {before middle after : List String}
    {left right : String} (one : Renders first before middle left)
    (two : Renders second middle after right) :
    Renders (do first; second) before after (left ++ right) := by
  intro session text holds
  obtain ⟨writer, ran, held⟩ := one session text holds
  obtain ⟨last, finished, shown⟩ := two { session with writer } (text ++ left) held
  refine ⟨last, ?_, ?_⟩
  · rw [Stateful.run_bind_ok _ ran]
    exact finished
  · rw [← String.append_assoc]
    exact shown

/-- Whether a code language comes up for the first time and has no grammar. -/
def lacksGrammar (setting : Setting) (state : State) (language : String) : Bool :=
  state.isNewLanguage (.str (Assets.canonical language)) &&
    (setting.catalogue.grammar? (Assets.canonical language)).isNone

/-- Why a rendering breaks off at an event, if it does. -/
def fault? (setting : Setting) (state : State) : Event → Option Fault
  | .leaf (.codeBlock language _) =>
    if lacksGrammar setting state language.display &&
        setting.options.failOnMissingPlugin.truthy then
      some (.missingGrammar language (Assets.canonical language.display))
    else none
  | .enter true (.heading level _ _) =>
    if Number.isWritable (level + 1) then none else some (.tooManyDigits none)
  | _ => none

/-- The state after an event, also one that the rendering breaks off at. -/
def gathered (setting : Setting) (state : State) : Event → State
  | .leaf (.codeBlock language _) =>
    (state.registerLanguage (.str (Assets.canonical language.display))).2
  | .leaf (.mathExpr source display) =>
    state.nextMathId.2.registerMath (.str (mathStatement source.display (state.mathCount + 1)
      display setting.options.throwOnError.truthy))
  | .leaf (.diagram _) => state.registerDiagram
  | .enter _ (.heading level anchor title) => state.addSummaryEntry ⟨.int level, anchor, title⟩
  | _ => state

/-- The notices that an event gives where the rendering goes on. -/
def noticed (setting : Setting) (state : State) : Event → List Notice
  | .leaf (.codeBlock language _) =>
    if lacksGrammar setting state language.display then [missingGrammarNotice language] else []
  | .enter _ (.link url) =>
    if Links.isDangerous url.display.toList then [Links.warning url.display] else []
  | _ => []

/-- A rendering that goes through, with what it leaves behind. -/
def Passes (work : Rendering Unit) (session : Session) (state : State) (notices : List Notice)
    (after : List String) (text : String) : Prop :=
  ∃ writer, run work session = (.ok (), ⟨writer, state, session.notices ++ notices⟩) ∧
    writer.Holds after text

theorem Renders.passes {work : Rendering Unit} {before after : List String} {added : String}
    (renders : Renders work before after added) {session : Session} {text : String}
    (holds : session.writer.Holds before text) :
    Passes work session session.state [] after (text ++ added) := by
  obtain ⟨writer, ran, held⟩ := renders session text holds
  exact ⟨writer, by simpa using ran, held⟩

def writeCode (className source : String) : Rendering Unit := do
  Rendering.write (Writer.startTag "pre" [])
  Rendering.write (Writer.inlineTag "code" [("class", .str className)] (.str source))
  Rendering.write Writer.endTag

theorem renders_code (className source : String) (stack : List String) :
    Renders (writeCode className source) stack stack
      (writtenAll (.opening "pre" [] ::
        Markup.inlineTokens "code" [("class", className)] source ++ [.closing "pre"])) := by
  have opened := renders_write (Markup.writes_startTag "pre" [] stack)
  have filled := renders_write
    (Markup.writes_inlineTag "code" [("class", className)] source (stack ++ ["pre"]))
  have closed := renders_write (Markup.writes_endTag "pre" stack)
  rw [List.cons_append, writtenAll, Markup.writtenAll_append, writtenAll, writtenAll,
    String.append_empty]
  exact opened.seq (filled.seq closed)

theorem registerLanguage_fst (state : State) (language : Value) :
    (state.registerLanguage language).1 = state.isNewLanguage language := by
  unfold State.registerLanguage
  split <;> simp_all

theorem run_renderCode (setting : Setting) (language source : String) (session : Session) :
    run (renderCode setting (.str language) (.str source)) session =
      run (if lacksGrammar setting session.state language then
          if setting.options.failOnMissingPlugin.truthy then
            throw (.missingGrammar (.str language) (Assets.canonical language))
          else do
            Rendering.note (missingGrammarNotice (.str language))
            writeCode (Tree.languageClass language) source
        else writeCode (Tree.languageClass language) source)
        { session with
          state := (session.state.registerLanguage (.str (Assets.canonical language))).2 } := by
  have given : (Value.str language).text? "strip" = .ok language := rfl
  have named : codeClass language (Assets.canonical language) = Tree.languageClass language := by
    simp only [codeClass, Tree.languageClass, beq_iff_eq, Assets.canonical_eq_empty_iff,
      Text.trim_eq_nil_iff]
  rw [renderCode, given, Stateful.run_bind_ok _ (Stateful.run_ofExcept _ _)]
  simp only [named]
  rw [Stateful.run_bind_ok _ (run_gather _ _), registerLanguage_fst]
  by_cases lacks : lacksGrammar setting session.state language = true
  · have new := lacks
    unfold lacksGrammar at new
    by_cases fails : setting.options.failOnMissingPlugin.truthy = true
    · simp [lacks, new, fails]
    · simp [lacks, new, fails, writeCode]
  · have known := lacks
    unfold lacksGrammar at known
    simp [lacks, known, writeCode]

theorem code_passes (setting : Setting) (language source : String) (session : Session)
    (stack : List String) (text : String) (holds : session.writer.Holds stack text)
    (clear : fault? setting session.state (.leaf (.codeBlock (.str language) (.str source))) = none) :
    Passes (renderCode setting (.str language) (.str source)) session
      (gathered setting session.state (.leaf (.codeBlock (.str language) (.str source))))
      (noticed setting session.state (.leaf (.codeBlock (.str language) (.str source)))) stack
      (text ++ writtenAll (.opening "pre" [] :: Markup.inlineTokens "code"
        [("class", Tree.languageClass language)] source ++ [.closing "pre"])) := by
  have written := renders_code (Tree.languageClass language) source stack
  simp only [fault?, Value.display_str] at clear
  unfold Passes
  rw [run_renderCode]
  simp only [gathered, noticed, Value.display_str]
  -- What is registered makes no difference to what is written.
  generalize (session.state.registerLanguage (.str (Assets.canonical language))).2 = registered
  by_cases lacks : lacksGrammar setting session.state language = true
  · have lenient : setting.options.failOnMissingPlugin.truthy = false := by
      simpa [lacks] using clear
    simp only [lacks, lenient, Bool.false_eq_true, ↓reduceIte]
    obtain ⟨writer, ran, held⟩ := written ⟨session.writer, registered,
      session.notices ++ [missingGrammarNotice (.str language)]⟩ text holds
    refine ⟨writer, ?_, held⟩
    rw [Stateful.run_bind_ok _ (run_note _ _)]
    exact ran
  · simp only [lacks, Bool.false_eq_true, ↓reduceIte, List.append_nil]
    exact written ⟨session.writer, registered, session.notices⟩ text holds

theorem math_passes (setting : Setting) (source : String) (display : Bool) (session : Session)
    (stack : List String) (text : String) (holds : session.writer.Holds stack text) :
    Passes (renderMath setting (.str source) display) session
      (gathered setting session.state (.leaf (.mathExpr (.str source) display))) [] stack
      (text ++ writtenAll (Markup.inlineTokens (mathTag display)
        [("class", mathClass display),
          ("data-katex-index", Number.digitsText (session.state.mathCount + 1))] source)) := by
  have inline := renders_write (Markup.writes_inlineTag (mathTag display)
    [("class", mathClass display),
      ("data-katex-index", Number.digitsText (session.state.mathCount + 1))] source stack)
  obtain ⟨writer, ran, held⟩ :=
    inline { session with state := session.state.nextMathId.2 } text holds
  have given : (Value.str source).text? "replace" = .ok source := rfl
  refine ⟨writer, ?_, held⟩
  rw [renderMath, Stateful.run_bind_ok _ (run_gather _ _)]
  refine (Stateful.run_bind_ok _ ran).trans ?_
  rw [given, Stateful.run_bind_ok _ (Stateful.run_ofExcept _ _), run_record, List.append_nil]
  rfl

theorem renders_pure (stack : List String) : Renders (pure ()) stack stack "" := by
  intro session text holds
  exact ⟨session.writer, rfl, by simpa using holds⟩

theorem leaf_passes (setting : Setting) (item : Leaf) (typed : item.WellTyped) (session : Session)
    (stack : List String) (text : String) (holds : session.writer.Holds stack text)
    (clear : fault? setting session.state (.leaf item) = none) :
    Passes (renderLeaf setting item) session (gathered setting session.state (.leaf item))
      (noticed setting session.state (.leaf item)) stack
      (text ++ writtenAll (item.tokens (session.state.mathCount + 1))) := by
  cases item with
  | codeBlock language source =>
    obtain ⟨language, rfl⟩ := typed.1.exists
    obtain ⟨source, rfl⟩ := typed.2.exists
    exact code_passes setting language source session stack text holds clear
  | mathExpr source display =>
    obtain ⟨source, rfl⟩ := Tree.IsText.exists typed
    exact math_passes setting source display session stack text holds
  | diagram source =>
    obtain ⟨source, rfl⟩ := Tree.IsText.exists typed
    have inline := renders_write (Markup.writes_inlineTag "div" [("class", "mermaid")] source stack)
    obtain ⟨writer, ran, held⟩ :=
      inline { session with state := session.state.registerDiagram } text holds
    refine ⟨writer, ?_, held⟩
    rw [renderLeaf, Stateful.run_bind_ok _ (run_record _ _), noticed, List.append_nil]
    · exact ran
    · intro language source same
      exact absurd same (by simp)
    · intro hasChildren url same
      exact absurd same (by simp)
  | thematicBreak =>
    rw [Leaf.tokens, writtenAll, writtenAll, String.append_empty]
    exact (renders_write (Markup.writes_orphanTag "hr" [] stack)).passes holds
  | text content =>
    obtain ⟨content, rfl⟩ := Tree.IsText.exists typed
    rw [Leaf.tokens, writtenAll, writtenAll, String.append_empty]
    exact (renders_write (Markup.writes_content content stack)).passes holds
  | inlineCode content =>
    obtain ⟨content, rfl⟩ := Tree.IsText.exists typed
    exact (renders_write (Markup.writes_inlineTag "code" [] content stack)).passes holds

def startElement (element : Option (String × Markup.Attributes)) : Rendering Unit :=
  match element with
  | none => pure ()
  | some (tag, attrs) => Rendering.write (Writer.startTag tag attrs)

theorem renders_start (element : Option (String × List (String × String))) (stack : List String) :
    Renders (startElement (element.map fun (tag, attrs) => (tag, Markup.valued attrs))) stack
      (stack ++ (element.map Prod.fst).toList) (writtenAll (openTokens element)) := by
  cases element with
  | none =>
    simp only [Option.map_none, Option.toList_none, List.append_nil]
    exact renders_pure stack
  | some around =>
    obtain ⟨tag, attrs⟩ := around
    rw [openTokens, writtenAll, writtenAll, String.append_empty]
    exact renders_write (Markup.writes_startTag tag attrs stack)

theorem enter_plain (hasChildren : Bool) (frame : Branch) (typed : frame.WellTyped)
    (plain : frame.title = []) (unlinked : ∀ url, frame ≠ .link url) :
    enter hasChildren frame =
      pure ((frame.element hasChildren).map fun (tag, attrs) => (tag, Markup.valued attrs)) := by
  cases frame with
  | container cssClass =>
    rcases typed with isText | rfl
    · obtain ⟨name, rfl⟩ := isText.exists
      -- A class that is empty gives no element.
      by_cases classed : (Value.str name).truthy = true <;>
        simp [enter, Branch.element, classed, Markup.valued]
    · rfl
  | heading level anchor title => exact absurd plain (by simp [Branch.title, Markup.inlineTokens])
  | link url => exact absurd rfl (unlinked url)
  | _ => rfl

theorem run_enter_heading (setting : Setting) (hasChildren : Bool) (level : Nat)
    (anchor title : String) (session : Session) (stack : List String) (text : String)
    (holds : session.writer.Holds stack text) :
    ∃ writer, run (enter hasChildren (.heading level (.str anchor) (.str title))) session =
        (match fault? setting session.state
            (.enter hasChildren (.heading level (.str anchor) (.str title))) with
          | some fault => .error fault
          | none => .ok ((Branch.element hasChildren
              (.heading level (.str anchor) (.str title))).map fun (tag, attrs) =>
                (tag, Markup.valued attrs)),
          { session with
            writer
            state := session.state.addSummaryEntry ⟨.int level, .str anchor, .str title⟩ }) ∧
      writer.Holds stack (text ++
        writtenAll (Branch.title (.heading level (.str anchor) (.str title)))) := by
  have inline := renders_write
    (Markup.writes_inlineTag (headingTag level) [("id", anchor)] title stack)
  obtain ⟨writer, ran, held⟩ := inline session text holds
  -- The level is only looked at after the heading is written and gathered.
  refine ⟨writer, ?_, held⟩
  rw [enter]
  refine (Stateful.run_bind_ok _ ran).trans ?_
  rw [Stateful.run_bind_ok _ (run_record _ _)]
  cases hasChildren with
  | false => rfl
  | true =>
    by_cases writable : Number.isWritable (level + 1) = true <;>
      simp [fault?, writable, Branch.element, sectionClass, Markup.valued]

theorem outcome_sanitize (url : String) :
    (Links.sanitize (.str url)).outcome =
      (.ok (Links.target url), if Links.isDangerous url.toList then [Links.warning url] else []) := by
  change run (Links.sanitize (.str url)) [] = _
  have given : Links.scannable (.str url) = .ok url := rfl
  rw [Links.sanitize, given, Stateful.run_bind_ok _ (Stateful.run_ofExcept _ _)]
  by_cases dangerous : Links.isDangerous url.toList = true
  · simp [dangerous, Noted.note, Stateful.run_map, Except.map]
  · simp [dangerous]

theorem enter_passes (setting : Setting) (hasChildren : Bool) (frame : Branch)
    (typed : frame.WellTyped) (session : Session) (stack : List String) (text : String)
    (holds : session.writer.Holds stack text)
    (clear : fault? setting session.state (.enter hasChildren frame) = none) :
    Passes (step setting (.enter hasChildren frame)) session
      (gathered setting session.state (.enter hasChildren frame))
      (noticed setting session.state (.enter hasChildren frame))
      (stack ++ ((frame.element hasChildren).map Prod.fst).toList)
      (text ++ writtenAll (frame.title ++ openTokens (frame.element hasChildren))) := by
  have opened := renders_start (frame.element hasChildren) stack
  have shape : step setting (.enter hasChildren frame) =
      enter hasChildren frame >>= startElement := rfl
  rw [shape, Markup.writtenAll_append, ← String.append_assoc]
  cases frame with
  | heading level anchor title =>
    obtain ⟨anchor, rfl⟩ := typed.2.1.exists
    obtain ⟨title, rfl⟩ := typed.2.2.exists
    obtain ⟨writer, ran, held⟩ :=
      run_enter_heading setting hasChildren level anchor title session stack text holds
    rw [clear] at ran
    -- The title is written and gathered before the element of the section is opened.
    obtain ⟨last, finished, shown⟩ := opened { session with
      writer
      state := session.state.addSummaryEntry ⟨.int level, .str anchor, .str title⟩ } _ held
    refine ⟨last, ?_, shown⟩
    rw [Stateful.run_bind_ok _ ran, finished, noticed, List.append_nil]
    · rfl
    · intro language source same
      exact absurd same (by simp)
    · intro hasChildren url same
      exact absurd same (by simp)
  | link url =>
    obtain ⟨url, rfl⟩ := Tree.IsText.exists typed
    obtain ⟨last, finished, shown⟩ := opened { session with
      notices := session.notices ++
        if Links.isDangerous url.toList then [Links.warning url] else [] } text holds
    refine ⟨last, ?_, by simpa [Branch.title, writtenAll] using shown⟩
    have heeded := run_heed (Links.sanitize (.str url)) session
    rw [outcome_sanitize] at heeded
    rw [enter, bind_assoc, Stateful.run_bind_ok _ heeded, pure_bind]
    exact finished
  | container _ | paragraph | blockQuote | list _ | listItem | emphasis | strong =>
    rw [enter_plain hasChildren _ typed rfl (by simp), pure_bind]
    have passed := opened.passes holds
    simpa [Branch.title, writtenAll, gathered, noticed] using passed

theorem leave_passes (setting : Setting) (tag : String) (session : Session) (outer : List String)
    (text : String) (holds : session.writer.Holds (outer ++ [tag]) text) :
    Passes (step setting (.leave tag)) session session.state [] outer
      (text ++ writtenAll [.closing tag]) := by
  rw [writtenAll, writtenAll, String.append_empty]
  exact (renders_write (Markup.writes_endTag tag outer)).passes holds

/-- An event that nothing is wrong with writes its markup. -/
theorem step_passes (setting : Setting) (event : Event) (typed : event.WellTyped)
    (session : Session) (before after : List String) (text : String)
    (moves : event.Moves before after) (holds : session.writer.Holds before text)
    (clear : fault? setting session.state event = none) :
    Passes (step setting event) session (gathered setting session.state event)
      (noticed setting session.state event) after
      (text ++ writtenAll (event.tokens session.state.mathCount)) := by
  cases event with
  | leaf item =>
    obtain rfl : after = before := moves
    exact leaf_passes setting item typed session after text holds clear
  | enter hasChildren frame =>
    obtain rfl : after = _ := moves
    exact enter_passes setting hasChildren frame typed session before text holds clear
  | leave tag =>
    obtain rfl : before = _ := moves
    exact leave_passes setting tag session after text holds

/-- At any other event the rendering breaks off, and what the event gathers is kept. -/
theorem step_stops (setting : Setting) (event : Event) (typed : event.WellTyped)
    (session : Session) (stack : List String) (text : String)
    (holds : session.writer.Holds stack text) (fault : Fault)
    (stopped : fault? setting session.state event = some fault) :
    ∃ writer, run (step setting event) session =
      (.error fault, ⟨writer, gathered setting session.state event, session.notices⟩) := by
  cases event with
  | leaf item =>
    cases item with
    | codeBlock language source =>
      obtain ⟨language, rfl⟩ := typed.1.exists
      obtain ⟨source, rfl⟩ := typed.2.exists
      simp only [fault?, Value.display_str, Option.ite_none_right_eq_some, Bool.and_eq_true,
        Option.some.injEq] at stopped
      obtain ⟨⟨lacks, fails⟩, rfl⟩ := stopped
      refine ⟨session.writer, ?_⟩
      -- By the time its grammar is missed the language has been registered.
      rw [step, renderLeaf, run_renderCode]
      simp only [lacks, fails, ↓reduceIte, Stateful.run_throw]
      rfl
    | _ => simp [fault?] at stopped
  | enter hasChildren frame =>
    cases frame with
    | heading level anchor title =>
      obtain ⟨anchor, rfl⟩ := typed.2.1.exists
      obtain ⟨title, rfl⟩ := typed.2.2.exists
      obtain ⟨writer, ran, -⟩ :=
        run_enter_heading setting hasChildren level anchor title session stack text holds
      rw [stopped] at ran
      exact ⟨writer, Stateful.run_bind_error _ ran⟩
    | _ => cases hasChildren <;> simp [fault?] at stopped
  | leave tag => simp [fault?] at stopped

theorem gathered_mathCount (setting : Setting) (state : State) (event : Event) :
    (gathered setting state event).mathCount = state.mathCount + event.formulas := by
  cases event with
  | leaf item =>
    cases item with
    | codeBlock language source =>
      simp only [gathered, State.registerLanguage]
      split <;> rfl
    | _ => rfl
  | enter hasChildren frame => cases frame <;> rfl
  | leave tag => rfl

end Folio.Render
