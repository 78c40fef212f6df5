import Folio.Markup.Call
import Folio.Proofs.Markup.Writer
import Mathlib.Data.List.Induction

/-! Any run of a writer is balanced or refused. The tags that are open are those that were opened and
not closed again, where every closing goes with the nearest opening that is still without one; a run
comes to an end only when there are none, and then it has written what its steps say, in order. -/
namespace Folio.Markup

open Stateful (run_bind run_bind_ok run_bind_error)
open Text.Entity (encoded)

inductive Mark where
  | opened (name : String)
  | closed

/-- Every opening has its closing and every closing its opening. -/
inductive Matched : List Mark → Prop
  | none : Matched []
  | pair (name : String) {inner rest : List Mark} (inside : Matched inner) (after : Matched rest) :
      Matched (.opened name :: inner ++ .closed :: rest)

/-- The openings without a closing, outermost first. What stands between them is matched. -/
inductive Pending : List Mark → List String → Prop
  | bare {marks : List Mark} (matched : Matched marks) : Pending marks []
  | under (name : String) {front back : List Mark} {names : List String} (matched : Matched front)
      (later : Pending back names) : Pending (front ++ .opened name :: back) (name :: names)

theorem Matched.append {left right : List Mark} (first : Matched left) (second : Matched right) :
    Matched (left ++ right) := by
  induction first with
  | none => exact second
  | pair name inside _ _ ih =>
    rw [List.append_assoc, List.cons_append]
    exact .pair name inside ih

theorem Pending.opened {marks : List Mark} {names : List String} (pending : Pending marks names)
    (name : String) : Pending (marks ++ [.opened name]) (names ++ [name]) := by
  induction pending with
  | bare matched => exact .under name matched (.bare .none)
  | under outer matched _ ih =>
    rw [List.append_assoc, List.cons_append, List.cons_append]
    exact .under outer matched ih

theorem Matched.wrapped {marks : List Mark} (matched : Matched marks) (name : String) :
    Matched (.opened name :: marks ++ [.closed]) :=
  .pair name matched .none

theorem Pending.closed {marks : List Mark} {outer : List String} {name : String}
    (pending : Pending marks (outer ++ [name])) : Pending (marks ++ [.closed]) outer := by
  generalize same : outer ++ [name] = names at pending
  induction pending generalizing outer with
  | bare matched => exact absurd same (by simp)
  | @under first front back names matched later ih =>
    cases outer with
    | nil =>
      -- The closing goes with this very opening, as there is none behind it.
      obtain ⟨rfl, rfl⟩ : name = first ∧ [] = names := by simpa using same
      cases later with
      | bare inner =>
        rw [List.append_assoc, List.cons_append]
        exact .bare (matched.append (inner.wrapped name))
    | cons other outer =>
      obtain ⟨rfl, rest⟩ : other = first ∧ outer ++ [name] = names := by simpa using same
      rw [List.append_assoc, List.cons_append]
      exact .under other matched (ih rest)

def settle (names : List String) : List Mark → List String
  | [] => names
  | .opened name :: rest => settle (names ++ [name]) rest
  | .closed :: rest => settle names.dropLast rest

theorem Matched.settle_append {marks : List Mark} (matched : Matched marks) (names : List String)
    (rest : List Mark) : settle names (marks ++ rest) = settle names rest := by
  induction matched generalizing names rest with
  | none => rfl
  | pair name _ _ inner outer =>
    rw [List.append_assoc, List.cons_append, settle, inner, List.cons_append, settle,
      List.dropLast_concat, outer]

theorem Pending.settle_eq {marks : List Mark} {names : List String}
    (pending : Pending marks names) (outer : List String) : settle outer marks = outer ++ names := by
  induction pending generalizing outer with
  | bare matched =>
    have settled := matched.settle_append outer []
    simpa [settle] using settled
  | under name matched _ ih => simp [matched.settle_append, settle, ih]

theorem Pending.unique {marks : List Mark} {one other : List String} (left : Pending marks one)
    (right : Pending marks other) : one = other := by
  have both := (left.settle_eq []).symm.trans (right.settle_eq [])
  simpa using both

/-- A step whose arguments are texts. -/
inductive Request where
  | startTag (name : String) (attrs : List (String × String))
  | endTag
  | orphanTag (name : String) (attrs : List (String × String))
  | inlineTag (name : String) (attrs : List (String × String)) (content : String)
  | writeContent (text : String)
  | writeRaw (text : String)
  | finish

def plainAttributes (attrs : List (String × String)) : Value :=
  .list (attrs.map fun (key, value) => .list [.str key, .str value])

namespace Request

def call : Request → Call
  | .startTag name attrs => .startTag (.str name) (plainAttributes attrs)
  | .endTag => .endTag
  | .orphanTag name attrs => .orphanTag (.str name) (plainAttributes attrs)
  | .inlineTag name attrs content => .inlineTag (.str name) (plainAttributes attrs) (.str content)
  | .writeContent text => .writeContent (.str text)
  | .writeRaw text => .writeRaw (.str text)
  | .finish => .finish

def run (request : Request) (writer : Writer) : Except Fault (Option String) × Writer :=
  request.call.run.run writer

def text (openTags : List String) : Request → String
  | .startTag name attrs | .orphanTag name attrs => (Token.opening name attrs).written
  | .endTag => (openTags.getLast?.map closingTag).getD ""
  | .inlineTag name attrs content =>
    (Token.opening name attrs).written ++ (encoded content ++ closingTag name)
  | .writeContent text => encoded text
  | .writeRaw text => text
  | .finish => ""

end Request

/-- A step that was taken, with the tags that were open before it and the answer to it. -/
structure Turn where
  request : Request
  openTags : List String
  answer : Except Fault (Option String)

namespace Turn

def mark? (turn : Turn) : Option Mark :=
  match turn.request, turn.answer with
  | .startTag name _, .ok _ => some (.opened name)
  | .endTag, .ok _ => some .closed
  | _, _ => none

def text (turn : Turn) : String :=
  match turn.answer with
  | .ok _ => turn.request.text turn.openTags
  | .error _ => ""

def finishes (turn : Turn) : Bool :=
  match turn.request, turn.answer with
  | .finish, .ok _ => true
  | _, _ => false

def marks (turns : List Turn) : List Mark := turns.filterMap mark?

def texts : List Turn → String
  | [] => ""
  | turn :: rest => turn.text ++ texts rest

def hasEnded (turns : List Turn) : Bool := turns.any finishes

theorem marks_append (left right : List Turn) : marks (left ++ right) = marks left ++ marks right :=
  List.filterMap_append

theorem marks_concat_none (turns : List Turn) {turn : Turn} (unmarked : turn.mark? = none) :
    marks (turns ++ [turn]) = marks turns := by
  simp [marks, unmarked]

theorem hasEnded_append (left right : List Turn) :
    hasEnded (left ++ right) = (hasEnded left || hasEnded right) :=
  List.any_append

theorem texts_append (left right : List Turn) : texts (left ++ right) = texts left ++ texts right := by
  induction left with
  | nil => simp [texts]
  | cons turn left ih => simp [texts, ih, String.append_assoc]

theorem texts_singleton (turn : Turn) : texts [turn] = turn.text := by
  simp [texts]

end Turn

def play (writer : Writer) : List Request → List Turn × Writer
  | [] => ([], writer)
  | request :: rest =>
    let (turns, last) := play (request.run writer).2 rest
    (⟨request, writer.stack, (request.run writer).1⟩ :: turns, last)

theorem looseAttributes_plain (attrs : List (String × String)) :
    looseAttributes (attrs.map fun (key, value) => .list [.str key, .str value]) =
      attributes (valued attrs) := by
  induction attrs with
  | nil => rfl
  | cons attr attrs ih =>
    obtain ⟨key, value⟩ := attr
    rw [List.map_cons, valued_cons, looseAttributes, attributes, ih]
    rfl

theorem looseTag_plain (name : String) (attrs : List (String × String)) :
    looseTag (.str name) (plainAttributes attrs) = openingTag name (valued attrs) := by
  rw [openingTag, ← looseAttributes_plain]
  rfl

theorem run_silent (step : Writing Unit) (writer : Writer) :
    (Call.silent step).run writer = ((step.run writer).1.map fun _ => none, (step.run writer).2) := by
  change Stateful.run (Call.silent step) writer = _
  rw [Call.silent, run_bind]
  change _ = ((Stateful.run step writer).1.map fun _ => none, (Stateful.run step writer).2)
  rcases Stateful.run step writer with ⟨fault | done, after⟩ <;> rfl

theorem Writes.goes {step : Writing Unit} {before after : List String} {added : String}
    (writes : Writes step before after added) {writer : Writer} {shown : String}
    (holds : writer.Holds before shown) :
    ∃ next, (Call.silent step).run writer = (.ok none, next) ∧ next.Holds after (shown ++ added) := by
  obtain ⟨next, ran, held⟩ := writes writer shown holds
  exact ⟨next, by simp [run_silent, ran, Except.map], held⟩

namespace Request

/-- The tags that are open after a step, if it goes through and does not end the run. -/
def moves (before : List String) : Request → Option (List String)
  | .startTag name _ => some (before ++ [name])
  | .endTag => if before = [] then none else some before.dropLast
  | .finish => none
  | _ => some before

theorem moves_endTag {before after : List String} (moved : endTag.moves before = some after) :
    ∃ name, before = after ++ [name] := by
  simp only [moves, Option.ite_none_left_eq_some, Option.some.injEq] at moved
  obtain ⟨opened, rfl⟩ := moved
  exact ⟨_, (List.dropLast_concat_getLast opened).symm⟩

theorem moves_none {before : List String} (request : Request)
    (stuck : request.moves before = none) : request = .endTag ∧ before = [] ∨ request = .finish := by
  cases request with
  | endTag => exact .inl ⟨rfl, by simpa [moves] using stuck⟩
  | finish => exact .inr rfl
  | startTag _ _ | orphanTag _ _ | inlineTag _ _ _ | writeContent _ | writeRaw _ =>
    exact absurd stuck (by simp [moves])

theorem run_moves {writer : Writer} {before after : List String} {shown : String}
    (holds : writer.Holds before shown) (request : Request)
    (moved : request.moves before = some after) :
    ∃ next, request.run writer = (.ok none, next) ∧
      next.Holds after (shown ++ request.text before) := by
  cases request with
  | startTag name attrs =>
    obtain rfl := Option.some.inj moved
    rw [run, call, Call.run, looseTag_plain]
    exact (writes_startTag name attrs before).goes holds
  | endTag =>
    obtain ⟨name, rfl⟩ := moves_endTag moved
    have closed := (writes_endTag name after).goes holds
    simpa [run, call, Call.run, text] using closed
  | orphanTag name attrs =>
    obtain rfl := Option.some.inj moved
    rw [run, call, Call.run, looseTag_plain]
    exact (writes_orphanTag name attrs before).goes holds
  | inlineTag name attrs content =>
    obtain rfl := Option.some.inj moved
    rw [run, call, Call.run, looseTag_plain, text, ← writtenAll_inlineTokens]
    exact (writes_inlineTag name attrs content before).goes holds
  | writeContent content =>
    obtain rfl := Option.some.inj moved
    exact (writes_content content before).goes holds
  | writeRaw piece =>
    obtain rfl := Option.some.inj moved
    exact (writes_raw piece before).goes holds
  | finish => exact absurd moved (by simp [moves])

theorem run_endTag_bare {writer : Writer} {shown : String} (holds : writer.Holds [] shown) :
    Request.endTag.run writer = (.error .noOpenTag, writer) := by
  have refused : Writer.endTag.run writer = (.error .noOpenTag, writer) := by
    change Stateful.run Writer.endTag writer = _
    rw [Writer.endTag, run_bind_ok _ (run_checkUnfinished holds.unfinished)]
    simp [run_bind, holds.stack_eq]
  rw [run, call, Call.run, run_silent, refused]
  rfl

theorem run_finish_open {writer : Writer} (working : writer.isFinished = false)
    (opened : writer.stack ≠ []) :
    Request.finish.run writer = (.error (.unclosed writer.stack), writer) := by
  change Stateful.run (some <$> Writer.finish) writer = _
  rw [Stateful.run_map, Writer.finish, run_bind_ok _ (run_checkUnfinished working)]
  simp [run_bind, opened, Except.map]

theorem run_finish_settled {writer : Writer} (working : writer.isFinished = false)
    (bare : writer.stack = []) :
    Request.finish.run writer = (writer.text.map some, { writer with isFinished := true }) := by
  change Stateful.run (some <$> Writer.finish) writer = _
  rw [Stateful.run_map, Writer.finish, run_bind_ok _ (run_checkUnfinished working)]
  simp [run_bind, bare]

theorem run_finish_bare {writer : Writer} {shown : String} (holds : writer.Holds [] shown) :
    Request.finish.run writer = (.ok (some shown), { writer with isFinished := true }) := by
  rw [run_finish_settled holds.unfinished holds.stack_eq, holds.text_eq]
  rfl

theorem run_ended (request : Request) {writer : Writer} (ended : writer.isFinished = true) :
    request.run writer = (.error .finished, writer) := by
  have checked := run_checkUnfinished_ended ended
  -- Every step looks at this first.
  have refuses : ∀ next : PUnit → Writing Unit,
      (Call.silent (Writer.checkUnfinished >>= next)).run writer = (.error .finished, writer) := by
    intro next
    rw [run_silent]
    change ((Stateful.run (Writer.checkUnfinished >>= next) writer).1.map fun _ => none,
      (Stateful.run (Writer.checkUnfinished >>= next) writer).2) = _
    rw [run_bind_error _ checked]
    rfl
  cases request with
  | startTag name attrs => exact refuses _
  | endTag => exact refuses _
  | orphanTag name attrs => exact refuses _
  | inlineTag name attrs content =>
    rw [run, call, Call.run, Writer.inlineWith, Writer.openWith, bind_assoc]
    exact refuses _
  | writeContent content => exact refuses _
  | writeRaw piece => exact refuses _
  | finish =>
    change Stateful.run (some <$> (Writer.checkUnfinished >>= _)) writer = _
    rw [Stateful.run_map, run_bind_error _ checked]
    rfl

end Request

/-- A run and the writer it has led to: the tags that are open are those that are pending, and the
text is what the steps wrote. A run that has ended has no tags open. -/
structure Traced (turns : List Turn) (writer : Writer) : Prop where
  pending : Pending (Turn.marks turns) writer.stack
  text : writer.text = .ok (Turn.texts turns)
  ended : writer.isFinished = Turn.hasEnded turns
  settled : writer.isFinished = true → writer.stack = []

theorem traced_empty : Traced [] .empty where
  pending := .bare .none
  text := rfl
  ended := rfl
  settled _ := rfl

theorem Traced.holds {turns : List Turn} {writer : Writer} (traced : Traced turns writer)
    (working : writer.isFinished = false) : writer.Holds writer.stack (Turn.texts turns) :=
  ⟨working, rfl, traced.text⟩

theorem Traced.working {turns : List Turn} {writer : Writer} (traced : Traced turns writer)
    (opened : writer.stack ≠ []) : writer.isFinished = false :=
  Bool.eq_false_iff.mpr fun ended => opened (traced.settled ended)

theorem Traced.refused {turns : List Turn} {writer : Writer} (traced : Traced turns writer)
    (request : Request) (openTags : List String) (fault : Fault) :
    Traced (turns ++ [⟨request, openTags, .error fault⟩]) writer where
  pending := by
    have unmarked : Turn.mark? ⟨request, openTags, .error fault⟩ = none := by
      cases request <;> rfl
    rw [Turn.marks_concat_none turns unmarked]
    exact traced.pending
  text := by
    rw [Turn.texts_append, Turn.texts_singleton, traced.text]
    simp [Turn.text]
  ended := by
    rw [traced.ended]
    cases request <;> simp [Turn.hasEnded, Turn.finishes]
  settled := traced.settled

theorem Pending.moved {turns : List Turn} {before after : List String}
    (pending : Pending (Turn.marks turns) before) (request : Request)
    (moved : request.moves before = some after) :
    Pending (Turn.marks (turns ++ [⟨request, before, .ok none⟩])) after := by
  cases request with
  | startTag name attrs =>
    obtain rfl := Option.some.inj moved
    rw [Turn.marks_append]
    exact pending.opened name
  | endTag =>
    obtain ⟨name, rfl⟩ := Request.moves_endTag moved
    rw [Turn.marks_append]
    exact pending.closed
  | orphanTag _ _ | inlineTag _ _ _ | writeContent _ | writeRaw _ =>
    obtain rfl := Option.some.inj moved
    rw [Turn.marks_concat_none turns rfl]
    exact pending
  | finish => exact absurd moved (by simp [Request.moves])

theorem Traced.moved {turns : List Turn} {writer next : Writer} {after : List String}
    (traced : Traced turns writer) (working : writer.isFinished = false) (request : Request)
    (moved : request.moves writer.stack = some after)
    (held : next.Holds after (Turn.texts turns ++ request.text writer.stack)) :
    Traced (turns ++ [⟨request, writer.stack, .ok none⟩]) next where
  pending := by
    rw [held.stack_eq]
    exact traced.pending.moved request moved
  text := by
    rw [Turn.texts_append, Turn.texts_singleton]
    exact held.text_eq
  ended := by
    have unfinishing : Turn.hasEnded [⟨request, writer.stack, .ok none⟩] = false := by
      cases request <;> first | rfl | exact absurd moved (by simp [Request.moves])
    rw [held.unfinished, Turn.hasEnded_append, ← traced.ended, working, unfinishing]
    rfl
  settled ended := absurd ended (by simp [held.unfinished])

theorem Traced.finished {turns : List Turn} {writer : Writer} (traced : Traced turns writer)
    (bare : writer.stack = []) (html : String) :
    Traced (turns ++ [⟨.finish, writer.stack, .ok (some html)⟩])
      { writer with isFinished := true } where
  pending := by
    rw [Turn.marks_concat_none turns rfl]
    exact traced.pending
  text := by
    have unwritten : Turn.texts (turns ++ [⟨.finish, writer.stack, .ok (some html)⟩]) =
        Turn.texts turns := by
      simp [Turn.texts_append, Turn.texts_singleton, Turn.text, Request.text]
    rw [unwritten]
    exact traced.text
  ended := by simp [Turn.hasEnded, Turn.finishes]
  settled _ := bare

/-- What one step preserves. -/
theorem Traced.step {turns : List Turn} {writer : Writer} (traced : Traced turns writer)
    (request : Request) :
    Traced (turns ++ [⟨request, writer.stack, (request.run writer).1⟩]) (request.run writer).2 := by
  cases working : writer.isFinished with
  | true =>
    rw [request.run_ended working]
    exact traced.refused request _ _
  | false =>
    have holds := traced.holds working
    cases moved : request.moves writer.stack with
    | some after =>
      obtain ⟨next, ran, held⟩ := request.run_moves holds moved
      rw [ran]
      exact traced.moved working request moved held
    | none =>
      -- Nothing but a closing without a tag and the end of the run is left.
      obtain ⟨rfl, bare⟩ | rfl := request.moves_none moved
      · rw [bare] at holds
        rw [Request.run_endTag_bare holds]
        exact traced.refused .endTag _ _
      · by_cases opened : writer.stack = []
        · rw [opened] at holds
          rw [Request.run_finish_bare holds]
          exact traced.finished opened _
        · rw [Request.run_finish_open working opened]
          exact traced.refused .finish _ _

/-- What a whole run preserves. -/
theorem Traced.play {done : List Turn} {writer : Writer} (traced : Traced done writer)
    (requests : List Request) :
    Traced (done ++ (Markup.play writer requests).1) (Markup.play writer requests).2 := by
  induction requests generalizing done writer with
  | nil => simpa [Markup.play] using traced
  | cons request rest ih =>
    have onward := ih (traced.step request)
    rw [List.append_assoc] at onward
    exact onward

def missingTags (stack : List String) : String := String.join (stack.reverse.map closingTag)

structure Balanced (turns : List Turn) (writer : Writer) : Prop where
  openTags (names : List String) : Pending (Turn.marks turns) names ↔ names = writer.stack
  refusesClosing : Request.endTag.run writer = (.error .noOpenTag, writer) ↔
    Turn.hasEnded turns = false ∧ writer.stack = []
  goes (request : Request) (after : List String) (working : Turn.hasEnded turns = false)
    (moved : request.moves writer.stack = some after) :
    ∃ next, request.run writer = (.ok none, next) ∧ next.stack = after ∧
      next.text = .ok (Turn.texts turns ++ request.text writer.stack)
  finishes (answer : Option String) : (Request.finish.run writer).1 = .ok answer ↔
    Turn.hasEnded turns = false ∧ writer.stack = [] ∧ answer = some (Turn.texts turns)
  refusesFinish (opened : writer.stack ≠ []) :
    Request.finish.run writer = (.error (.unclosed writer.stack), writer)
  recovers (working : Turn.hasEnded turns = false) :
    (play writer (List.replicate writer.stack.length .endTag ++ [.finish])).1.map Turn.answer =
      List.replicate writer.stack.length (.ok none) ++
        [.ok (some (Turn.texts turns ++ missingTags writer.stack))]
  silent (request : Request) (ended : Turn.hasEnded turns = true) :
    request.run writer = (.error .finished, writer)

theorem play_closings {writer : Writer} {openTags : List String} {shown : String}
    (holds : writer.Holds openTags shown) :
    (play writer (List.replicate openTags.length .endTag ++ [.finish])).1.map Turn.answer =
      List.replicate openTags.length (.ok none) ++
        [.ok (some (shown ++ missingTags openTags))] := by
  induction openTags using List.reverseRecOn generalizing writer shown with
  | nil =>
    simp [play, Request.run_finish_bare holds, missingTags]
  | append_singleton outer name ih =>
    have moved : Request.endTag.moves (outer ++ [name]) = some outer := by
      simp [Request.moves]
    obtain ⟨next, ran, held⟩ := Request.endTag.run_moves holds moved
    have ended := ih held
    have missing : missingTags (outer ++ [name]) = closingTag name ++ missingTags outer := by
      simp [missingTags]
    rw [List.length_append, List.length_singleton, List.replicate_succ, List.replicate_succ,
      List.cons_append, play, ran, List.map_cons, ended, missing]
    simp [Request.text, String.append_assoc]

theorem Traced.balanced {turns : List Turn} {writer : Writer} (traced : Traced turns writer) :
    Balanced turns writer where
  openTags names := by
    constructor
    · intro pending
      exact pending.unique traced.pending
    · rintro rfl
      exact traced.pending
  refusesClosing := by
    rw [← traced.ended]
    constructor
    · intro refused
      have working : writer.isFinished = false := by
        by_contra ended
        rw [Request.endTag.run_ended (by simpa using ended)] at refused
        simp at refused
      refine ⟨working, ?_⟩
      -- With a tag open the closing would have gone through.
      by_contra opened
      obtain ⟨next, ran, _⟩ :=
        Request.endTag.run_moves (traced.holds working) (if_neg opened)
      rw [ran] at refused
      simp at refused
    · rintro ⟨working, bare⟩
      have holds := traced.holds working
      rw [bare] at holds
      exact Request.run_endTag_bare holds
  goes request after working moved := by
    rw [← traced.ended] at working
    obtain ⟨next, ran, held⟩ := request.run_moves (traced.holds working) moved
    exact ⟨next, ran, held.stack_eq, held.text_eq⟩
  finishes answer := by
    rw [← traced.ended]
    cases working : writer.isFinished with
    | true => simp [Request.finish.run_ended working]
    | false =>
      have holds := traced.holds working
      by_cases opened : writer.stack = []
      · rw [opened] at holds
        simp [Request.run_finish_bare holds, opened, eq_comm]
      · simp [Request.run_finish_open working opened, opened]
  refusesFinish opened := Request.run_finish_open (traced.working opened) opened
  recovers working := by
    rw [← traced.ended] at working
    exact play_closings (traced.holds working)
  silent request ended := by
    rw [← traced.ended] at ended
    exact request.run_ended ended

theorem run_balanced (requests : List Request) :
    Balanced (play .empty requests).1 (play .empty requests).2 :=
  (traced_empty.play requests).balanced

/-- A closing too early is refused, the end with a tag open too, and the run recovers from both. -/
theorem run_balanced_interrupted :
    let (turns, writer) := play .empty [.endTag, .startTag "p" [], .finish, .writeContent "a<b"]
    writer.stack = ["p"] ∧ Turn.texts turns = "<p>a&lt;b" ∧
      Request.finish.run writer = (.error (.unclosed ["p"]), writer) ∧
      (play writer [.endTag, .finish]).1.map Turn.answer =
        [.ok none, .ok (some "<p>a&lt;b</p>")] := by
  have balanced := run_balanced [.endTag, .startTag "p" [], .finish, .writeContent "a<b"]
  have opened : (play .empty
      [.endTag, .startTag "p" [], .finish, .writeContent "a<b"]).2.stack = ["p"] := rfl
  have refused := balanced.refusesFinish (by simp [opened])
  have recovered := balanced.recovers rfl
  rw [opened] at refused recovered
  exact ⟨opened, rfl, refused, recovered⟩

end Folio.Markup
