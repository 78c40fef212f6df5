import Folio.Markup.Writer
import Folio.Proofs.Markup.Token
import Folio.Proofs.Stateful

/-! What each step of a writer adds to its text and does to the open tags, given names and values
that are texts. A row of steps adds the texts of the steps in a row. -/
namespace Folio.Markup

open Stateful (run_bind run_bind_ok)
open Text.Entity (encoded)

/-- A writer still at work, with these tags open and this text written. -/
structure Writer.Holds (writer : Writer) (stack : List String) (text : String) : Prop where
  unfinished : writer.isFinished = false
  stack_eq : writer.stack = stack
  text_eq : writer.text = .ok text

theorem Writer.holds_empty : Writer.empty.Holds [] "" := ⟨rfl, rfl, rfl⟩

theorem Writer.joinOnto_append (text more shown : String) (index : Nat) (pieces : List Value)
    (joined : Writer.joinOnto text index pieces = .ok shown) :
    Writer.joinOnto text index (pieces ++ [.str more]) = .ok (shown ++ more) := by
  induction pieces generalizing text index with
  | nil =>
    simp only [Writer.joinOnto, Except.ok.injEq] at joined
    simp [Writer.joinOnto, joined]
  | cons piece pieces ih =>
    cases piece with
    | str first => exact ih (text ++ first) (index + 1) joined
    | null | bool _ | int _ | float _ | list _ | object _ => simp [Writer.joinOnto] at joined

theorem Writer.Holds.push {writer : Writer} {stack : List String} {text : String}
    (holds : writer.Holds stack text) (more : String) (after : List String) :
    { writer.push (.str more) with stack := after }.Holds after (text ++ more) := by
  refine ⟨holds.unfinished, rfl, ?_⟩
  have joined := Writer.joinOnto_append "" more text 0 writer.pieces.toList holds.text_eq
  simpa [Writer.text, Writer.push] using joined

/-- From a writer with some tags open, a step goes through, adds a text and leaves other tags open. -/
def Writes (step : Writing Unit) (before after : List String) (added : String) : Prop :=
  ∀ writer text, writer.Holds before text →
    ∃ next, step.run writer = (.ok (), next) ∧ next.Holds after (text ++ added)

theorem writes_pure (stack : List String) : Writes (pure ()) stack stack "" := by
  intro writer text holds
  exact ⟨writer, rfl, by simpa using holds⟩

theorem Writes.seq {first second : Writing Unit} {before middle after : List String}
    {left right : String} (one : Writes first before middle left)
    (two : Writes second middle after right) :
    Writes (do first; second) before after (left ++ right) := by
  intro writer text holds
  obtain ⟨next, ran, held⟩ := one writer text holds
  obtain ⟨last, finished, shown⟩ := two next (text ++ left) held
  refine ⟨last, ?_, ?_⟩
  · exact (run_bind_ok (fun _ => second) ran).trans finished
  · rw [← String.append_assoc]
    exact shown

theorem run_checkUnfinished {writer : Writer} (unfinished : writer.isFinished = false) :
    Stateful.run Writer.checkUnfinished writer = (.ok (), writer) := by
  simp [Writer.checkUnfinished, run_bind, unfinished]

theorem run_checkUnfinished_ended {writer : Writer} (ended : writer.isFinished = true) :
    Stateful.run Writer.checkUnfinished writer = (.error .finished, writer) := by
  simp [Writer.checkUnfinished, run_bind, ended]

def valued (attrs : List (String × String)) : Attributes :=
  attrs.map fun (key, value) => (key, .str value)

theorem valued_cons (key value : String) (attrs : List (String × String)) :
    valued ((key, value) :: attrs) = (key, .str value) :: valued attrs := rfl

theorem attributes_valued (attrs : List (String × String)) :
    attributes (valued attrs) =
      .ok (attrs.map fun (key, value) => key ++ "=\"" ++ encoded value ++ "\"") := by
  induction attrs with
  | nil => rfl
  | cons attr attrs ih =>
    obtain ⟨key, value⟩ := attr
    simp only [valued, List.map_cons] at ih ⊢
    rw [attributes, ih]
    rfl

theorem openingTag_valued (name : String) (attrs : List (String × String)) :
    openingTag name (valued attrs) = .ok (Token.opening name attrs).written := by
  rw [openingTag, attributes_valued]
  rfl

theorem writes_startTag (name : String) (attrs : List (String × String)) (before : List String) :
    Writes (Writer.startTag name (valued attrs)) before (before ++ [name])
      (Token.opening name attrs).written := by
  intro writer text holds
  refine ⟨_, ?_, holds.push (Token.opening name attrs).written (before ++ [name])⟩
  rw [Writer.startTag, openingTag_valued]
  change Stateful.run (Writer.openWith _ _) writer = _
  rw [Writer.openWith, run_bind_ok _ (run_checkUnfinished holds.unfinished)]
  simp [run_bind, holds.stack_eq]

theorem writes_orphanTag (name : String) (attrs : List (String × String)) (stack : List String) :
    Writes (Writer.orphanTag name (valued attrs)) stack stack
      (Token.opening name attrs).written := by
  intro writer text holds
  refine ⟨_, ?_, holds.push (Token.opening name attrs).written stack⟩
  rw [Writer.orphanTag, openingTag_valued]
  change Stateful.run (Writer.orphanWith _) writer = _
  rw [Writer.orphanWith, run_bind_ok _ (run_checkUnfinished holds.unfinished)]
  simp [run_bind, Writer.append, Writer.push, holds.stack_eq]

theorem writes_endTag (name : String) (outer : List String) :
    Writes Writer.endTag (outer ++ [name]) outer (closingTag name) := by
  intro writer text holds
  refine ⟨_, ?_, holds.push (closingTag name) outer⟩
  change Stateful.run Writer.endTag writer = _
  rw [Writer.endTag, run_bind_ok _ (run_checkUnfinished holds.unfinished)]
  simp [run_bind, holds.stack_eq]

theorem writes_content (content : String) (stack : List String) :
    Writes (Writer.writeContent (.str content)) stack stack (encoded content) := by
  intro writer text holds
  refine ⟨_, ?_, holds.push (encoded content) stack⟩
  change Stateful.run (Writer.writeContent _) writer = _
  rw [Writer.writeContent, run_bind_ok _ (run_checkUnfinished holds.unfinished)]
  simp [run_bind, escape, Value.text?, Except.map, Writer.append, Writer.push, holds.stack_eq]

theorem writes_raw (piece : String) (stack : List String) :
    Writes (Writer.writeRaw (.str piece)) stack stack piece := by
  intro writer text holds
  refine ⟨_, ?_, holds.push piece stack⟩
  change Stateful.run (Writer.writeRaw _) writer = _
  rw [Writer.writeRaw, run_bind_ok _ (run_checkUnfinished holds.unfinished)]
  simp [Writer.append, Writer.push, holds.stack_eq]

def inlineTokens (name : String) (attrs : List (String × String)) (content : String) :
    List Token :=
  [.opening name attrs, .text content, .closing name]

theorem writtenAll_inlineTokens (name : String) (attrs : List (String × String))
    (content : String) :
    writtenAll (inlineTokens name attrs content) =
      (Token.opening name attrs).written ++ (encoded content ++ closingTag name) := by
  simp [writtenAll, inlineTokens, Token.written]

theorem writes_inlineTag (name : String) (attrs : List (String × String)) (content : String)
    (stack : List String) :
    Writes (Writer.inlineTag name (valued attrs) (.str content)) stack stack
      (writtenAll (inlineTokens name attrs content)) := by
  have opened := writes_startTag name attrs stack
  have filled := writes_content content (stack ++ [name])
  have closed := writes_endTag name stack
  rw [writtenAll_inlineTokens]
  exact opened.seq (filled.seq closed)

theorem run_finish {writer : Writer} {text : String} (holds : writer.Holds [] text) :
    Writer.finish.run writer = (.ok text, { writer with isFinished := true }) := by
  change Stateful.run Writer.finish writer = _
  rw [Writer.finish, run_bind_ok _ (run_checkUnfinished holds.unfinished)]
  simp [run_bind, holds.stack_eq, holds.text_eq]

end Folio.Markup
