import Folio.Proofs.Render.Fragment
import Folio.Proofs.Text.ScriptLiteral
import Folio.Tree.Preorder

/-! Formulas leave a placeholder in the markup and a statement in the script, and a number ties the
two together. The number is counted by the state, which outlives fragments and failures alike, so
what has to be kept in step is said about the state and all fragments at once: the placeholders of
the fragments are some of the formulas that the state has met, with the numbers they were met at. -/
namespace Folio.Markup

structure Placeholder where
  tag : String
  index : String
  content : String
  deriving DecidableEq

/-- The text up to the end of an element that was opened before. -/
def textUpTo (tag : String) : List Token → String
  | [] => ""
  | .closing name :: rest => if name = tag then "" else textUpTo tag rest
  | .text content :: rest => content ++ textUpTo tag rest
  | _ :: rest => textUpTo tag rest

/-- The elements that carry the number of a formula. -/
def placeholdersOf : List Token → List Placeholder
  | [] => []
  | .opening tag attrs :: rest =>
    match attrs.lookup "data-katex-index" with
    | some index => ⟨tag, index, textUpTo tag rest⟩ :: placeholdersOf rest
    | none => placeholdersOf rest
  | _ :: rest => placeholdersOf rest

def placeholders (html : String) : List Placeholder :=
  placeholdersOf (((tokens .plain html).getD []).map Token.decoded)

theorem textUpTo_prependText (tag content : String) (found : List Token) :
    textUpTo tag (Token.prependText content found) = content ++ textUpTo tag found := by
  unfold Token.prependText
  split
  · simp [textUpTo, String.append_assoc]
  · split
    · next empty => simp [empty]
    · rfl

theorem textUpTo_merged (tag : String) (found : List Token) :
    textUpTo tag (merged found) = textUpTo tag found := by
  induction found with
  | nil => rfl
  | cons token rest ih =>
    cases token with
    | text content => rw [merged_text, textUpTo_prependText, ih, textUpTo]
    | opening _ _ | closing _ | verbatim _ | comment => simp [merged, textUpTo, ih]

theorem placeholdersOf_prependText (content : String) (found : List Token) :
    placeholdersOf (Token.prependText content found) = placeholdersOf found := by
  unfold Token.prependText
  split
  · rfl
  · split <;> rfl

theorem placeholdersOf_merged (found : List Token) :
    placeholdersOf (merged found) = placeholdersOf found := by
  induction found with
  | nil => rfl
  | cons token rest ih =>
    cases token with
    | text content =>
      rw [merged_text, placeholdersOf_prependText, ih]
      rfl
    | opening name attrs => simp only [merged, placeholdersOf, textUpTo_merged, ih]
    | closing _ | verbatim _ | comment => simp [merged, placeholdersOf, ih]

theorem placeholdersOf_inline {name : String} {attrs : List (String × String)} (content : String)
    (rest : List Token) (unnumbered : attrs.lookup "data-katex-index" = none) :
    placeholdersOf (inlineTokens name attrs content ++ rest) = placeholdersOf rest := by
  simp [inlineTokens, placeholdersOf, unnumbered]

end Folio.Markup

namespace Folio.Tree

open Markup (Placeholder Token placeholdersOf placeholdersOf_inline)
open Number (digitsText)

abbrev Formula := String × Bool

def Leaf.formula? : Leaf → Option Formula
  | .mathExpr source display => some (source.display, display)
  | _ => none

def Node.formula? : Node → Option Formula
  | .leaf item _ => item.formula?
  | .branch _ _ _ => none

def Event.formula? : Event → Option Formula
  | .leaf item => item.formula?
  | _ => none

def Node.formulasMet (tree : Node) : List Formula := tree.preorder.filterMap Node.formula?

mutual

theorem Node.formulas_events : (node : Node) →
    node.events.filterMap Event.formula? = node.preorder.filterMap Node.formula?
  | .leaf item _ => rfl
  | .branch frame children _ => by
    have inside := formulas_eventsAll children
    simp only [Node.events, Node.preorder, List.filterMap_cons, List.cons_append,
      List.filterMap_append, Event.formula?, Node.formula?, inside]
    cases frame.element (!children.isEmpty) with
    | none => simp
    | some around => simp [Event.formula?]

theorem formulas_eventsAll : (nodes : List Node) →
    (eventsAll nodes).filterMap Event.formula? = (preorderAll nodes).filterMap Node.formula?
  | [] => rfl
  | node :: rest => by
    rw [eventsAll, preorderAll, List.filterMap_append, List.filterMap_append,
      node.formulas_events, formulas_eventsAll rest]

end

theorem Event.formulas_eq (event : Event) : event.formulas = event.formula?.toList.length := by
  cases event with
  | leaf item => cases item <;> rfl
  | enter _ _ | leave _ => rfl

/-- What a formula shows until it is typeset. -/
def Formula.placeholder (formula : Formula) (number : Nat) : Placeholder :=
  ⟨if formula.2 then "div" else "span", digitsText number, formula.1⟩

def numbered (count : Nat) (formulas : List Formula) : List Placeholder :=
  (formulas.zipIdx (count + 1)).map fun (formula, number) => Formula.placeholder formula number

theorem numbered_append (count : Nat) (left right : List Formula) :
    numbered count (left ++ right) = numbered count left ++ numbered (count + left.length) right := by
  simp only [numbered, List.zipIdx_append, List.map_append]
  rw [Nat.add_right_comm]

theorem placeholdersOf_leaf (item : Leaf) (count : Nat) (rest : List Token) :
    placeholdersOf (item.tokens (count + 1) ++ rest) =
      numbered count item.formula?.toList ++ placeholdersOf rest := by
  cases item with
  | codeBlock language source =>
    have code : placeholdersOf (Markup.inlineTokens "code"
        [("class", languageClass language.display)] source.display ++ .closing "pre" :: rest) =
          placeholdersOf (.closing "pre" :: rest) := placeholdersOf_inline _ _ rfl
    simpa [Leaf.tokens, Leaf.formula?, numbered, placeholdersOf] using code
  | mathExpr source display =>
    simp [Leaf.tokens, Leaf.formula?, numbered, Formula.placeholder, Markup.inlineTokens,
      placeholdersOf, Markup.textUpTo, List.lookup_cons]
  | diagram source | inlineCode content =>
    exact placeholdersOf_inline _ rest rfl
  | thematicBreak | text content => rfl

theorem placeholdersOf_event (event : Event) (count : Nat) (rest : List Token) :
    placeholdersOf (event.tokens count ++ rest) =
      numbered count event.formula?.toList ++ placeholdersOf rest := by
  cases event with
  | leaf item => exact placeholdersOf_leaf item count rest
  | enter hasChildren frame =>
    have opened : placeholdersOf (openTokens (frame.element hasChildren) ++ rest) =
        placeholdersOf rest := by
      cases around : frame.element hasChildren with
      | none => rfl
      | some element =>
        obtain ⟨tag, attrs⟩ := element
        have unnumbered : attrs.lookup "data-katex-index" = none := by
          rw [List.lookup_eq_none_iff]
          intro attr member
          simpa using (element_unnumbered around attr member).symm
        simp [openTokens, placeholdersOf, unnumbered]
    have titled : placeholdersOf (frame.title ++ (openTokens (frame.element hasChildren) ++ rest)) =
        placeholdersOf (openTokens (frame.element hasChildren) ++ rest) := by
      cases frame with
      | heading level anchor title => exact placeholdersOf_inline _ _ rfl
      | _ => rfl
    rw [Event.tokens, List.append_assoc, titled, opened]
    rfl
  | leave tag => rfl

theorem placeholdersOf_along (events : List Event) (count : Nat) :
    placeholdersOf (tokensAlong count events) = numbered count (events.filterMap Event.formula?) := by
  induction events generalizing count with
  | nil => rfl
  | cons event rest ih =>
    have here : (event :: rest).filterMap Event.formula? =
        event.formula?.toList ++ rest.filterMap Event.formula? := by
      cases found : event.formula? <;> simp [found]
    rw [tokensAlong, placeholdersOf_event, ih, here, numbered_append, Event.formulas_eq]

theorem placeholdersOf_tree (tree : Node) (count : Nat) :
    placeholdersOf (tree.tokens count) = numbered count tree.formulasMet := by
  have along := placeholdersOf_along tree.events count
  have whole := tree.tokensAlong_events count []
  simp only [List.append_nil, tokensAlong] at whole
  rw [whole, tree.formulas_events] at along
  exact along

end Folio.Tree

namespace Folio.Number

theorem digitsText_injective {left right : Nat} (same : digitsText left = digitsText right) :
    left = right := by
  have digitsSame : digits left = digits right := String.ofList_injective same
  have read := congrArg (fun text => Nat.ofDigitChars 10 text 0) digitsSame
  simpa [digits, Nat.ofDigitChars_ten_toDigits] using read

end Folio.Number

namespace Folio.Render

open Markup (Placeholder placeholders placeholdersOf)
open Number (digitsText)
open Text.ScriptLiteral (Inert IsInert)
open Folio.Tree (Event Formula Node numbered)

def Formula.statement (setting : Setting) (formula : Formula) (number : Nat) : Value :=
  .str (mathStatement formula.1 number formula.2 setting.options.throwOnError.truthy)

def statementsFrom (setting : Setting) (count : Nat) (formulas : List Formula) : List Value :=
  (formulas.zipIdx (count + 1)).map fun (formula, number) =>
    Formula.statement setting formula number

theorem statementsFrom_append (setting : Setting) (count : Nat) (left right : List Formula) :
    statementsFrom setting count (left ++ right) =
      statementsFrom setting count left ++ statementsFrom setting (count + left.length) right := by
  simp only [statementsFrom, List.zipIdx_append, List.map_append]
  rw [Nat.add_right_comm]

/-- A state that has met these formulas and no others since it was fresh. -/
structure Met (setting : Setting) (state : State) (formulas : List Formula) : Prop where
  count : state.mathCount = formulas.length
  statements : state.statements = statementsFrom setting 0 formulas

theorem Met.gathered {setting : Setting} {state : State} {formulas : List Formula}
    (met : Met setting state formulas) (event : Event) :
    Met setting (gathered setting state event) (formulas ++ event.formula?.toList) := by
  constructor
  · rw [gathered_mathCount, met.count, event.formulas_eq, List.length_append]
  · cases event with
    | leaf item =>
      cases item with
      | mathExpr source display =>
        rw [statementsFrom_append]
        simp [Render.gathered, State.registerMath, State.nextMathId, met.statements, met.count,
          Event.formula?, Tree.Leaf.formula?, statementsFrom, Formula.statement]
      | codeBlock language source =>
        simp only [Render.gathered, State.registerLanguage]
        split <;> simpa [State.needPrism, Event.formula?, Tree.Leaf.formula?] using met.statements
      | _ => simpa [Render.gathered, State.registerDiagram, Event.formula?, Tree.Leaf.formula?]
          using met.statements
    | enter hasChildren frame =>
      cases frame <;> simpa [Render.gathered, State.addSummaryEntry, Event.formula?]
        using met.statements
    | leave tag => simpa [Render.gathered, Event.formula?] using met.statements

theorem Met.course {setting : Setting} (events : List Event) {state : State}
    {formulas : List Formula} (met : Met setting state formulas) :
    ∃ more, Met setting (course setting state events).state (formulas ++ more) ∧
      ((course setting state events).fault? = none → more = events.filterMap Event.formula?) := by
  induction events generalizing state formulas with
  | nil => exact ⟨[], by simpa [Render.course] using met, fun _ => rfl⟩
  | cons event rest ih =>
    have here := met.gathered event
    cases found : fault? setting state event with
    | some fault =>
      rw [course_stopped rest found]
      exact ⟨_, here, by simp⟩
    | none =>
      obtain ⟨more, later, all⟩ := ih here
      rw [course_clear rest found]
      refine ⟨event.formula?.toList ++ more, ?_, ?_⟩
      · rw [← List.append_assoc]
        exact later
      · intro clear
        rw [all clear]
        cases formula : event.formula? <;> simp [formula]

theorem inert_digits (n : Nat) : Inert (Number.digits n) := by
  -- A digit is one of ten characters in a row, which can be tried one by one.
  have all : ∀ c : Fin 10, IsInert (Char.ofNat (48 + c.val)) := by decide
  intro c member
  have digit := Nat.isDigit_of_mem_toDigits (by decide) (by decide) member
  have bounds : 48 ≤ c.toNat ∧ c.toNat ≤ 57 := by
    simpa [Char.isDigit, UInt32.le_iff_toNat_le] using digit
  have known := all ⟨c.toNat - 48, by omega⟩
  have whole : 48 + (c.toNat - 48) = c.toNat := by omega
  simpa [whole] using known

theorem inert_mathStatement (source : String) (index : Nat) (display throwOnError : Bool) :
    Inert (mathStatement source index display throwOnError).toList := by
  have called : Inert "katex.render(".toList := by decide +kernel
  have selector : Inert ", document.querySelector('[data-katex-index=\"".toList := by
    decide +kernel
  have mode : Inert "\"]'), \x7bdisplayMode: ".toList := by decide +kernel
  have option : Inert ", throwOnError: ".toList := by decide +kernel
  have closed : Inert "\x7d);".toList := by decide +kernel
  have truth : ∀ flag : Bool, Inert (truthText flag).toList := by
    intro flag
    cases flag <;> decide +kernel
  have number : Inert (digitsText index).toList := by
    simpa [digitsText] using inert_digits index
  have literal := Text.ScriptLiteral.inert_encoded source
  have named := ((called.join literal).join selector).join number
  exact ((((named.join mode).join (truth display)).join option).join (truth throwOnError)).join closed

theorem katexContent_toList (state : State) :
    state.katexContent.toList =
      state.statements.flatMap fun statement => statement.display.toList ++ ['\n'] := by
  -- The lines are put behind those that are there already, so the fold is followed from any text.
  have along : ∀ (statements : List Value) (text : String),
      (statements.foldl (fun text statement => text ++ statement.display ++ "\n") text).toList =
        text.toList ++ statements.flatMap fun statement => statement.display.toList ++ ['\n'] := by
    intro statements
    induction statements with
    | nil => simp
    | cons statement rest ih =>
      intro text
      rw [List.foldl_cons, ih]
      simp [String.toList_append]
  rw [State.katexContent, along]
  rfl

theorem splitOn_lines (texts : List (List Char)) (unbroken : ∀ text ∈ texts, '\n' ∉ text) :
    (texts.flatMap fun text => text ++ ['\n']).splitOn '\n' = texts ++ [[]] := by
  induction texts with
  | nil => rfl
  | cons text rest ih =>
    -- The text itself is left whole, and the line break after it is cut at.
    have first : text.splitOnP (· == '\n') = [text] := by
      apply List.splitOnP_eq_singleton
      intro c member
      simpa using fun same : c = '\n' => unbroken text List.mem_cons_self (same ▸ member)
    have later := ih fun other member => unbroken other (List.mem_cons_of_mem text member)
    rw [List.flatMap_cons, List.append_assoc]
    simp only [List.splitOn, List.singleton_append] at later ⊢
    rw [List.splitOnP_append_cons text _ (by simp), first, later]
    rfl

theorem Met.lines {setting : Setting} {state : State} {formulas : List Formula}
    (met : Met setting state formulas) :
    state.katexContent.toList.splitOn '\n' =
        state.statements.map (fun statement => statement.display.toList) ++ [[]] ∧
      ∀ statement ∈ state.statements, Inert statement.display.toList := by
  have inert : ∀ statement ∈ state.statements, Inert statement.display.toList := by
    intro statement member
    rw [met.statements, statementsFrom, List.mem_map] at member
    obtain ⟨⟨formula, number⟩, _, rfl⟩ := member
    exact inert_mathStatement _ _ _ _
  refine ⟨?_, inert⟩
  rw [katexContent_toList, ← splitOn_lines, List.flatMap_map]
  intro text member broken
  obtain ⟨statement, known, rfl⟩ := List.mem_map.mp member
  exact absurd (inert statement known _ broken) (by decide)

theorem placeholders_of_result {setting : Setting} {tree : Node} (typed : tree.WellTyped)
    {state : State} {html : String}
    (rendered : (fragment setting (.node tree) state).result = .ok html) :
    placeholders html = numbered state.mathCount tree.formulasMet := by
  have read := tokens_of_result typed rendered
  obtain ⟨found, cut, decoded⟩ := Option.map_eq_some_iff.mp read
  rw [placeholders, cut, Option.getD_some, decoded, Markup.placeholdersOf_merged,
    Tree.placeholdersOf_tree]

theorem numbered_index_nodup (count : Nat) (formulas : List Formula) :
    ((numbered count formulas).map Placeholder.index).Nodup := by
  have indices : (numbered count formulas).map Placeholder.index =
      (List.range' (count + 1) formulas.length).map digitsText := by
    rw [← List.zipIdx_map_snd, List.map_map, numbered, List.map_map]
    rfl
  rw [indices]
  exact List.Pairwise.map digitsText
    (fun _ _ different same => different (Number.digitsText_injective same)) List.nodup_range'

theorem mem_numbered {formulas : List Formula} {shown : Placeholder}
    (member : shown ∈ numbered 0 formulas) :
    ∃ place formula, formulas[place]? = some formula ∧
      shown = Formula.placeholder formula (place + 1) := by
  obtain ⟨⟨formula, number⟩, known, rfl⟩ := List.mem_map.mp member
  obtain ⟨positive, found⟩ := List.mk_mem_zipIdx_iff_le_and_getElem?_sub.mp known
  refine ⟨number - 1, formula, by simpa using found, ?_⟩
  rw [Nat.sub_add_cancel positive]

def History.placeholders (history : History) : List Placeholder :=
  history.returned.flatMap fun entry => Markup.placeholders entry.2

/-- The state has met some formulas, and what the fragments show of them is numbered alike. -/
structure InStep (setting : Setting) (history : History) (formulas : List Formula) : Prop where
  met : Met setting history.state formulas
  shown : history.placeholders.Sublist (numbered 0 formulas)
  own : ∀ entry ∈ history.returned,
    ∃ count, placeholders entry.2 = numbered count entry.1.formulasMet

theorem inStep_new (setting : Setting) : InStep setting .new [] where
  met := ⟨rfl, rfl⟩
  shown := List.Sublist.refl _
  own := by simp [History.new]

theorem InStep.render {setting : Setting} {history : History} {formulas : List Formula}
    (inStep : InStep setting history formulas) (tree : Node) (typed : tree.WellTyped) :
    ∃ more, InStep setting (history.render setting tree) (formulas ++ more) := by
  obtain ⟨more, met, all⟩ := inStep.met.course tree.events
  rw [← fragment_state setting tree typed] at met
  refine ⟨more, ?_⟩
  cases rendered : (fragment setting (.node tree) history.state).result with
  | error fault =>
    -- The formulas that were met before the failure keep their numbers, and no fragment shows them.
    refine ⟨met, ?_, ?_⟩
    · have kept := inStep.shown.trans (List.sublist_append_left _ (numbered formulas.length more))
      simpa [History.render, rendered, History.placeholders, Tree.numbered_append] using kept
    · simpa [History.render, rendered] using inStep.own
  | ok html =>
    -- Where there is a fragment nothing broke off, so what was met is all there is in the tree.
    have fragmentShown := placeholders_of_result typed rendered
    have clear : (Render.course setting history.state tree.events).fault? = none := by
      rw [fragment_result setting tree typed, Course.ending] at rendered
      split at rendered
      · assumption
      · exact absurd rendered (by simp)
    have whole : more = tree.formulasMet := by rw [all clear, tree.formulas_events]; rfl
    refine ⟨met, ?_, ?_⟩
    · have both := inStep.shown.append (List.Sublist.refl (numbered formulas.length more))
      simpa [History.render, rendered, History.placeholders, Tree.numbered_append, fragmentShown,
        whole, inStep.met.count] using both
    · intro entry member
      simp only [History.render, rendered, List.mem_append, List.mem_singleton] at member
      rcases member with earlier | rfl
      · exact inStep.own entry earlier
      · exact ⟨_, fragmentShown⟩

theorem exists_inStep (setting : Setting) (trees : List Node)
    (typed : ∀ tree ∈ trees, tree.WellTyped) :
    ∃ formulas, InStep setting (History.new.renderAll setting trees) formulas := by
  refine History.renderAll_keeps (fun history => ∃ formulas, InStep setting history formulas) ?_
    .new trees typed ⟨[], inStep_new setting⟩
  rintro history tree treeTyped ⟨formulas, inStep⟩
  obtain ⟨more, later⟩ := inStep.render tree treeTyped
  exact ⟨_, later⟩

/-- A statement names the placeholder and its kind, passes the option on, and has a literal that a
reader of JSON takes for the text that the placeholder shows. -/
def Typesets (throwOnError : Bool) (statement : Value) (shown : Placeholder) : Prop :=
  ∃ literal, Json.read literal = .ok (.str shown.content) ∧
    statement = .str ("katex.render(" ++ literal ++ ", document.querySelector('[data-katex-index=\"" ++
      shown.index ++ "\"]'), \x7bdisplayMode: " ++ (if shown.tag == "div" then "true" else "false") ++
      ", throwOnError: " ++ (if throwOnError then "true" else "false") ++ "\x7d);")

theorem typesets_statement (setting : Setting) (formula : Formula) (number : Nat) :
    Typesets setting.options.throwOnError.truthy (Formula.statement setting formula number)
      (Formula.placeholder formula number) := by
  obtain ⟨source, display⟩ := formula
  refine ⟨Text.ScriptLiteral.encoded source, Json.read_encoded source, ?_⟩
  have mode : ((Formula.placeholder (source, display) number).tag == "div") = display := by
    cases display <;> rfl
  rw [mode]
  rfl

/-- After any renderings on one renderer, failed ones included, every placeholder in the fragments
has a number of its own and the statement of that number; the placeholders of a fragment are the
formulas of its tree in order; and the script has one line for each statement, none of which means
anything to markup. -/
theorem formulas_agree (setting : Setting) (trees : List Node)
    (typed : ∀ tree ∈ trees, tree.WellTyped) :
    let history := History.new.renderAll setting trees
    history.state.mathCount = history.state.statements.length ∧
      (history.placeholders.map Placeholder.index).Nodup ∧
      (∀ shown ∈ history.placeholders, (shown.tag = "div" ∨ shown.tag = "span") ∧
        ∃ n statement, 1 ≤ n ∧ n ≤ history.state.mathCount ∧ shown.index = digitsText n ∧
          history.state.statements[n - 1]? = some statement ∧
          Typesets setting.options.throwOnError.truthy statement shown) ∧
      (∀ entry ∈ history.returned, (placeholders entry.2).map
        (fun shown => (shown.content, shown.tag == "div")) = entry.1.formulasMet) ∧
      history.state.katexContent.toList.splitOn '\n' =
        history.state.statements.map (fun statement => statement.display.toList) ++ [[]] ∧
      ∀ statement ∈ history.state.statements, ∀ c ∈ statement.display.toList,
        c ≠ '<' ∧ c ≠ '>' ∧ c ≠ '&' := by
  intro history
  obtain ⟨formulas, inStep⟩ := exists_inStep setting trees typed
  obtain ⟨lines, inert⟩ := inStep.met.lines
  refine ⟨?_, ?_, ?_, ?_, lines, ?_⟩
  · rw [inStep.met.count, inStep.met.statements]
    simp [statementsFrom]
  · exact (numbered_index_nodup 0 formulas).sublist (inStep.shown.map _)
  · intro shown member
    -- A placeholder is that of the formula in some place, and its number is one more than that.
    obtain ⟨place, formula, found, rfl⟩ := mem_numbered (inStep.shown.subset member)
    have inside : place < formulas.length := (List.getElem?_eq_some_iff.mp found).1
    refine ⟨?_, place + 1, Formula.statement setting formula (place + 1), by omega, ?_, rfl, ?_, ?_⟩
    · cases display : formula.2 <;> simp [Tree.Formula.placeholder, display]
    · rw [inStep.met.count]
      exact inside
    · rw [inStep.met.statements, statementsFrom, List.getElem?_map, List.getElem?_zipIdx,
        Nat.add_sub_cancel, found]
      simp [Nat.add_comm]
    · exact typesets_statement setting formula (place + 1)
  · intro entry member
    obtain ⟨count, own⟩ := inStep.own entry member
    have back : ∀ formula : Formula × Nat, ((Formula.placeholder formula.1 formula.2).content,
        (Formula.placeholder formula.1 formula.2).tag == "div") = formula.1 := by
      rintro ⟨⟨source, display⟩, number⟩
      cases display <;> simp [Tree.Formula.placeholder]
    rw [own, numbered, List.map_map]
    simp only [Function.comp_def, back]
    exact List.zipIdx_map_fst _ _
  · intro statement member c inside
    have plain := (inert statement member c inside).2.2
    simpa [Text.ScriptLiteral.isMarkup, and_assoc] using plain

def strictSetting : Setting :=
  { bareSetting with options := { bareSetting.options with failOnMissingPlugin := .bool true } }

/-- The second of three renderings breaks off after a formula. -/
def interruptedTrees : List Node := [
  hostileTree,
  .branch .paragraph [
    .leaf (.mathExpr (.str "a") false) (.object []),
    .leaf (.codeBlock (.str "lost") (.str "")) (.object [])] (.object []),
  .leaf (.mathExpr (.str "\\frac\n\"x\"") false) (.object [])]

theorem interruptedTrees_wellTyped : ∀ tree ∈ interruptedTrees, tree.WellTyped := by
  simp [interruptedTrees, hostileTree_wellTyped, Node.WellTyped, Tree.AllWellTyped,
    Tree.Branch.WellTyped, Tree.Leaf.WellTyped, Tree.IsText]

theorem formulas_agree_interrupted :
    (∀ tree ∈ interruptedTrees, tree.WellTyped) ∧
      (History.new.renderAll strictSetting interruptedTrees).returned.length = 2 ∧
      (History.new.renderAll strictSetting interruptedTrees).state.mathCount = 3 ∧
      (History.new.renderAll strictSetting interruptedTrees).state.mathCount =
        (History.new.renderAll strictSetting interruptedTrees).state.statements.length ∧
      (History.new.renderAll strictSetting interruptedTrees).state.statements.map Value.display =
        ["katex.render(\"x\\u003c'y'\", document.querySelector('[data-katex-index=\"1\"]'), " ++
            "\x7bdisplayMode: true, throwOnError: false\x7d);",
          "katex.render(\"a\", document.querySelector('[data-katex-index=\"2\"]'), " ++
            "\x7bdisplayMode: false, throwOnError: false\x7d);",
          "katex.render(\"\\\\frac\\n\\\"x\\\"\", document.querySelector(" ++
            "'[data-katex-index=\"3\"]'), \x7bdisplayMode: false, throwOnError: false\x7d);"] :=
  ⟨interruptedTrees_wellTyped, by decide +kernel, by decide +kernel,
    (formulas_agree strictSetting interruptedTrees interruptedTrees_wellTyped).1,
    by decide +kernel⟩

end Folio.Render
