import Folio.Proofs.Render.Refusal
import Mathlib.Data.List.Forall2

/-! What a renderer carries from one call into the next. A call that fails midway leaves open tags and
half a fragment in its writer, and in the state all that it had gathered. The next call starts with a
writer of its own, and of the state nothing gets into the markup but the count of the formulas. So a
fragment is that of its tree alone, except that its formulas are numbered on from those before. -/
namespace Folio.Markup

open Number (digitsText)
open Text.Entity (encoded)

/-- An attribute and the one that stands in its place where so many formulas came before. -/
inductive MovedAttr (offset : Nat) : String × String → String × String → Prop
  | number (n : Nat) :
    MovedAttr offset ("data-katex-index", digitsText n) ("data-katex-index", digitsText (n + offset))
  | same {key : String} (value : String) (other : key ≠ "data-katex-index") :
    MovedAttr offset (key, value) (key, value)

inductive Token.Moved (offset : Nat) : Token → Token → Prop
  | opening (name : String) {attrs others : List (String × String)}
    (each : List.Forall₂ (MovedAttr offset) attrs others) :
    Moved offset (.opening name attrs) (.opening name others)
  | closing (name : String) : Moved offset (.closing name) (.closing name)
  | text (content : String) : Moved offset (.text content) (.text content)

/-- Token by token the same, but for the numbers of formulas. -/
def MovedAll (offset : Nat) : List Token → List Token → Prop := List.Forall₂ (Token.Moved offset)

section
variable {offset : Nat}

theorem MovedAll.append {left right others more : List Token} (first : MovedAll offset left others)
    (second : MovedAll offset right more) : MovedAll offset (left ++ right) (others ++ more) :=
  List.rel_append first second

theorem unmoved {attrs : List (String × String)}
    (plain : ∀ attr ∈ attrs, attr.1 ≠ "data-katex-index") :
    List.Forall₂ (MovedAttr offset) attrs attrs :=
  List.forall₂_same.mpr fun attr member => .same attr.2 (plain attr member)

theorem moved_inline (name : String) {attrs others : List (String × String)} (content : String)
    (each : List.Forall₂ (MovedAttr offset) attrs others) :
    MovedAll offset (inlineTokens name attrs content) (inlineTokens name others content) :=
  .cons (.opening name each) (.cons (.text content) (.cons (.closing name) .nil))

theorem MovedAll.prependText (content : String) {found moved : List Token}
    (all : MovedAll offset found moved) :
    MovedAll offset (Token.prependText content found) (Token.prependText content moved) := by
  have alone : MovedAll offset [.text content] [.text content] := .cons (.text content) .nil
  by_cases blank : content = ""
  · subst blank
    rw [prependText_empty, prependText_empty]
    exact all
  · cases all with
    | nil => simpa [Token.prependText, blank] using alone
    | cons first rest =>
      cases first with
      | opening name each =>
        simpa [Token.prependText, blank] using alone.append (.cons (.opening name each) rest)
      | closing name =>
        simpa [Token.prependText, blank] using alone.append (.cons (.closing name) rest)
      | text other => exact .cons (.text (content ++ other)) rest

theorem MovedAll.merged {found moved : List Token} (all : MovedAll offset found moved) :
    MovedAll offset (Markup.merged found) (Markup.merged moved) := by
  induction all with
  | nil => exact .nil
  | cons first rest ih =>
    cases first with
    | opening name each => exact .cons (.opening name each) ih
    | closing name => exact .cons (.closing name) ih
    | text content =>
      rw [merged_text, merged_text]
      exact ih.prependText content

end

theorem writtenAll_prependText (content : String) (found : List Token) :
    writtenAll (Token.prependText content found) = encoded content ++ writtenAll found := by
  by_cases blank : content = ""
  · have empty : encoded "" = "" := by simp
    rw [blank, prependText_empty, empty, String.empty_append]
  · rcases found with _ | ⟨token, rest⟩
    · simp [Token.prependText, blank, writtenAll, Token.written]
    · cases token <;>
        simp [Token.prependText, blank, writtenAll, Token.written, String.append_assoc]

theorem writtenAll_merged (found : List Token) : writtenAll (merged found) = writtenAll found := by
  induction found with
  | nil => rfl
  | cons token rest ih =>
    cases token with
    | text content =>
      rw [merged_text, writtenAll_prependText, ih]
      rfl
    | opening _ _ | closing _ | verbatim _ | comment => simp [merged, writtenAll, ih]

end Folio.Markup

namespace Folio.Tree

open Markup (MovedAll moved_inline unmoved)

theorem Leaf.tokens_moved (offset number : Nat) (item : Leaf) :
    MovedAll offset (item.tokens number) (item.tokens (number + offset)) := by
  cases item with
  | codeBlock language source =>
    have code : MovedAll offset (Markup.inlineTokens "code"
        [("class", languageClass language.display)] source.display) _ :=
      moved_inline "code" source.display (unmoved (by simp))
    exact .cons (.opening "pre" .nil) (code.append (.cons (.closing "pre") .nil))
  | mathExpr source display =>
    exact moved_inline _ source.display
      (.cons (.same _ (by decide)) (.cons (.number number) .nil))
  | diagram source => exact moved_inline "div" source.display (unmoved (by simp))
  | thematicBreak => exact .cons (.opening "hr" .nil) .nil
  | text content => exact .cons (.text content.display) .nil
  | inlineCode content => exact moved_inline "code" content.display .nil

theorem title_moved (offset : Nat) (frame : Branch) : MovedAll offset frame.title frame.title := by
  cases frame with
  | heading level anchor title => exact moved_inline _ title.display (unmoved (by simp))
  | _ => exact .nil

theorem within_moved {offset : Nat} {inner others : List Markup.Token}
    (element : Option (String × List (String × String)))
    (plain : ∀ name attrs, element = some (name, attrs) → ∀ attr ∈ attrs,
      attr.1 ≠ "data-katex-index")
    (all : MovedAll offset inner others) :
    MovedAll offset (within element inner) (within element others) := by
  cases element with
  | none => exact all
  | some around =>
    obtain ⟨name, attrs⟩ := around
    exact .cons (.opening name (unmoved (plain name attrs rfl)))
      (all.append (.cons (.closing name) .nil))

mutual

theorem Node.tokens_moved (offset count : Nat) : (node : Node) →
    MovedAll offset (node.tokens count) (node.tokens (count + offset))
  | .leaf item _ => by
    have moved := item.tokens_moved offset (count + 1)
    rw [Nat.add_right_comm] at moved
    exact moved
  | .branch frame children _ => by
    have inside := tokensAll_moved offset count children
    exact (title_moved offset frame).append
      (within_moved _ (fun _ _ around => element_unnumbered around) inside)

theorem tokensAll_moved (offset count : Nat) : (nodes : List Node) →
    MovedAll offset (tokensAll count nodes) (tokensAll (count + offset) nodes)
  | [] => .nil
  | node :: rest => by
    have later := tokensAll_moved offset (count + node.formulas) rest
    rw [Nat.add_right_comm] at later
    exact (node.tokens_moved offset count).append later

end

end Folio.Tree

namespace Folio.Render

open Markup (MovedAll Token Writer merged writtenAll)
open Stateful (run)
open Folio.Tree (Loaded Node)

/-- A renderer between two calls: the writer as the last one left it, with its open tags and what it
had written, and the state that all calls share. -/
structure Renderer where
  writer : Writer
  state : State

namespace Renderer

def new : Renderer := ⟨.empty, .fresh⟩

/-- Before a call looks at what it is given it puts a new writer in the place of the old one. -/
def call (setting : Setting) (renderer : Renderer) (loaded : Loaded) :
    Except Fault String × Renderer :=
  let (result, session) := run (do
    modify fun session => { session with writer := .empty }
    renderLoaded setting loaded) (⟨renderer.writer, renderer.state, []⟩ : Session)
  (result, ⟨session.writer, session.state⟩)

def after (setting : Setting) (renderer : Renderer) (calls : List Loaded) : Renderer :=
  calls.foldl (fun renderer loaded => (renderer.call setting loaded).2) renderer

theorem call_result (setting : Setting) (renderer : Renderer) (loaded : Loaded) :
    (renderer.call setting loaded).1 = (fragment setting loaded renderer.state).result := rfl

end Renderer

def Setting.lenient (setting : Setting) : Setting :=
  { setting with options := { setting.options with failOnMissingPlugin := .bool false } }

theorem fragment_alone {setting : Setting} {tree : Node} (typed : tree.WellTyped) {state : State}
    {html : String} (rendered : (fragment setting (.node tree) state).result = .ok html) :
    ∃ alone, (fragment setting.lenient (.node tree) .fresh).result = .ok alone := by
  have clear := (fragment_ok_iff setting tree typed state).mp ⟨html, rendered⟩
  have sections := ((course_clear_iff setting tree.preorder state).mp clear).1
  rw [fragment_ok_iff setting.lenient tree typed, course_clear_iff]
  -- Only a grammar can be missed in the one state and not in the other.
  refine ⟨sections, fun strict => ?_⟩
  exact absurd strict (by simp [Setting.lenient, Value.truthy])

/-- Whatever a renderer was given before, and however those calls ended, a fragment that it returns is
read token by token as the one that a new lenient renderer returns for the tree alone. Only the numbers
of formulas differ, by the count of formulas when the call began; and both fragments are no more than
these tokens written out. -/
theorem fragment_isolated (setting : Setting) (renderer : Renderer) (earlier : List Loaded)
    (tree : Node) (typed : tree.WellTyped) (html : String)
    (rendered : ((renderer.after setting earlier).call setting (.node tree)).1 = .ok html) :
    ∃ alone found moved, (Renderer.new.call setting.lenient (.node tree)).1 = .ok alone ∧
      (Markup.tokens .plain alone).map (List.map Token.decoded) = some found ∧
      (Markup.tokens .plain html).map (List.map Token.decoded) = some moved ∧
      alone = writtenAll found ∧ html = writtenAll moved ∧
      MovedAll (renderer.after setting earlier).state.mathCount found moved := by
  rw [Renderer.call_result] at rendered
  generalize (renderer.after setting earlier).state = state at rendered ⊢
  obtain ⟨alone, renderedAlone⟩ := fragment_alone typed rendered
  refine ⟨alone, merged (tree.tokens 0), merged (tree.tokens state.mathCount), renderedAlone,
    tokens_of_result typed renderedAlone, tokens_of_result typed rendered, ?_, ?_, ?_⟩
  · rw [Markup.writtenAll_merged]
    exact markup_of_result typed renderedAlone
  · rw [Markup.writtenAll_merged]
    exact markup_of_result typed rendered
  · have moved := tree.tokens_moved state.mathCount 0
    rw [Nat.zero_add] at moved
    exact moved.merged

/-- A formula, and then a text that is none, with a paragraph still open. -/
def brokenTree : Node :=
  .branch .paragraph [
    .leaf (.mathExpr (.str "a") true) (.object []),
    .leaf (.text (.int 3)) (.object [])] (.object [])

def wreckedCalls : List Loaded := [.node hostileTree, .node lostTree, .node brokenTree]

def survivingTree : Node :=
  .branch .emphasis [lostTree, .leaf (.mathExpr (.str "<") false) (.object [])] (.object [])

theorem survivingTree_wellTyped : survivingTree.WellTyped := by
  simp [survivingTree, lostTree_wellTyped, Node.WellTyped, Tree.AllWellTyped,
    Tree.Branch.WellTyped, Tree.Leaf.WellTyped, Tree.IsText]

def survivingFragment : String :=
  "<em><pre><code class=\"language-lost\"></code></pre>" ++
    "<span class=\"katex-math\" data-katex-index=\"3\">&lt;</span></em>"

theorem survivingTree_fragment :
    ((Renderer.new.after strictSetting wreckedCalls).call strictSetting
      (.node survivingTree)).1 = .ok survivingFragment :=
  ok_of_toOption (by decide +kernel)

theorem fragment_isolated_wrecked :
    survivingTree.WellTyped ∧
      (Renderer.new.after strictSetting wreckedCalls).writer.stack = ["p"] ∧
      (Renderer.new.after strictSetting wreckedCalls).state.mathCount = 2 ∧
      ((Renderer.new.after strictSetting wreckedCalls).call strictSetting
        (.node survivingTree)).1 = .ok survivingFragment ∧
      ∃ alone found moved,
        (Renderer.new.call strictSetting.lenient (.node survivingTree)).1 = .ok alone ∧
        alone = writtenAll found ∧ survivingFragment = writtenAll moved ∧
        MovedAll 2 found moved := by
  have count : (Renderer.new.after strictSetting wreckedCalls).state.mathCount = 2 := by
    decide +kernel
  obtain ⟨alone, found, moved, renderedAlone, -, -, writtenAlone, written, each⟩ :=
    fragment_isolated strictSetting .new wreckedCalls survivingTree survivingTree_wellTyped
      survivingFragment survivingTree_fragment
  rw [count] at each
  exact ⟨survivingTree_wellTyped, by decide +kernel, count, survivingTree_fragment, alone, found,
    moved, renderedAlone, writtenAlone, written, each⟩

end Folio.Render
