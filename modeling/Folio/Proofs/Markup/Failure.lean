import Folio.Proofs.Markup.Balance

/-! What a failing step leaves behind. A step that does one thing leaves the writer as it was, whatever
values it is given and whatever came before; only the last step counts as taken all the same, where a
piece that is no text has been let in earlier. -/
namespace Folio.Markup

open Stateful (Confined IsConfined confined_error confined_ok run_bind run_bind_error run_bind_ok)

def writingKinds : List Fault.Category := [.tagStack, .finished, .type, .attribute, .value]

abbrev WritingOnly {α : Type} (outcome : Except Fault α) : Prop :=
  Confined (· ∈ writingKinds) outcome

theorem writingOnly_text (member : String) (value : Value) : WritingOnly (value.text? member) := by
  cases value with
  | str text => exact confined_ok text
  | null | bool _ | int _ | float _ | list _ | object _ =>
    exact confined_error (by simp [Fault.category, writingKinds])

theorem writingOnly_escape (value : Value) : WritingOnly (escape value) :=
  (writingOnly_text "replace" value).map _

theorem writingOnly_attributeText (name : String) (value : Value) :
    WritingOnly (attributeText name value) :=
  (writingOnly_escape value).bind fun _ => confined_ok _

theorem writingOnly_attributes (attrs : Attributes) : WritingOnly (attributes attrs) := by
  induction attrs with
  | nil => exact confined_ok []
  | cons attr rest ih =>
    exact (writingOnly_attributeText attr.1 attr.2).bind fun _ => ih.bind fun _ => confined_ok _

theorem writingOnly_openingTag (name : String) (attrs : Attributes) :
    WritingOnly (openingTag name attrs) :=
  (writingOnly_attributes attrs).bind fun _ => confined_ok _

theorem writingOnly_pairOf (value : Value) : WritingOnly (pairOf value) := by
  unfold pairOf
  split
  · exact confined_error (by simp [Fault.category, writingKinds])
  · exact confined_ok _
  · apply confined_error
    split <;> simp [Fault.category, writingKinds]

theorem writingOnly_shown (value : Value) : WritingOnly value.shown := by
  rcases value.shown_cases with written | refused
  · rw [written]
    exact confined_ok _
  · rw [refused]
    exact confined_error (by simp [Fault.category, writingKinds])

theorem writingOnly_looseAttributes (entries : List Value) :
    WritingOnly (looseAttributes entries) := by
  induction entries with
  | nil => exact confined_ok []
  | cons entry rest ih =>
    exact (writingOnly_pairOf entry).bind fun pair =>
      (writingOnly_shown pair.1).bind fun shown =>
        (writingOnly_attributeText shown pair.2).bind fun _ => ih.bind fun _ => confined_ok _

theorem writingOnly_looseTag (name attrs : Value) : WritingOnly (looseTag name attrs) := by
  unfold looseTag
  cases attrs.elements? with
  | none => exact confined_error (by simp [Fault.category, writingKinds])
  | some entries =>
    refine (writingOnly_looseAttributes entries).bind fun parts => ?_
    cases name with
    | str name => exact confined_ok _
    | null | bool _ | int _ | float _ | list _ | object _ =>
      exact confined_error (by simp [Fault.category, writingKinds])

def isText : Value → Bool
  | .str _ => true
  | _ => false

def Writer.HoldsForeign (writer : Writer) : Prop :=
  ∃ piece ∈ writer.pieces.toList, isText piece = false

theorem Writer.holdsForeign_push (writer : Writer) (piece : Value) (stack : List String) :
    { writer.push piece with stack }.HoldsForeign ↔ writer.HoldsForeign ∨ isText piece = false := by
  simp [HoldsForeign, push, or_and_right, exists_or]

theorem joinOnto_error {text : String} {index : Nat} {pieces : List Value} {fault : Fault}
    (failed : Writer.joinOnto text index pieces = .error fault) :
    fault.category = .type ∧ ∃ piece ∈ pieces, isText piece = false := by
  induction pieces generalizing text index with
  | nil => simp [Writer.joinOnto] at failed
  | cons piece rest ih =>
    cases piece with
    | str more =>
      obtain ⟨kind, other, member, foreign⟩ := ih failed
      exact ⟨kind, other, List.mem_cons_of_mem _ member, foreign⟩
    | null | bool _ | int _ | float _ | list _ | object _ =>
      obtain rfl := Except.error.inj failed
      exact ⟨rfl, _, List.mem_cons_self, rfl⟩

theorem Writer.text_error {writer : Writer} {fault : Fault} (failed : writer.text = .error fault) :
    fault.category = .type ∧ writer.HoldsForeign :=
  joinOnto_error failed

/-- A step that puts one text at the end, or fails in a way of writing and leaves the writer as it
was. -/
def Lays (step : Writing Unit) : Prop :=
  ∀ writer, (∃ fault, step.run writer = (.error fault, writer) ∧ fault.category ∈ writingKinds) ∨
    ∃ text stack, step.run writer = (.ok (), { writer.push (.str text) with stack })

theorem lays_checked {next : PUnit → Writing Unit} (lays : Lays (next ())) :
    Lays (Writer.checkUnfinished >>= next) := by
  intro writer
  change (∃ fault, Stateful.run _ writer = _ ∧ _) ∨ ∃ text stack, Stateful.run _ writer = _
  cases ended : writer.isFinished with
  | true => exact .inl ⟨.finished, run_bind_error _ (run_checkUnfinished_ended ended), by decide⟩
  | false =>
    rw [run_bind_ok next (run_checkUnfinished ended)]
    exact lays writer

theorem lays_ofExcept {outcome : Except Fault String} (confined : WritingOnly outcome)
    {next : String → Writing Unit} (lays : ∀ text, Lays (next text)) :
    Lays (MonadExcept.ofExcept outcome >>= next) := by
  intro writer
  change (∃ fault, Stateful.run _ writer = _ ∧ _) ∨ ∃ text stack, Stateful.run _ writer = _
  have judged := Stateful.run_ofExcept outcome writer
  cases outcome with
  | error fault => exact .inl ⟨fault, run_bind_error next judged, confined fault rfl⟩
  | ok text =>
    rw [run_bind_ok next judged]
    exact lays text writer

theorem lays_openWith (name : String) {tag : Except Fault String} (confined : WritingOnly tag) :
    Lays (Writer.openWith name tag) :=
  lays_checked <| lays_ofExcept confined fun text writer =>
    .inr ⟨text, writer.stack ++ [name], rfl⟩

theorem lays_orphanWith {tag : Except Fault String} (confined : WritingOnly tag) :
    Lays (Writer.orphanWith tag) :=
  lays_checked <| lays_ofExcept confined fun text writer => .inr ⟨text, writer.stack, rfl⟩

theorem lays_writeContent (text : Value) : Lays (Writer.writeContent text) :=
  lays_checked <| lays_ofExcept (writingOnly_escape text) fun escaped writer =>
    .inr ⟨escaped, writer.stack, rfl⟩

theorem lays_endTag : Lays Writer.endTag := by
  refine lays_checked fun writer => ?_
  change (∃ fault, Stateful.run _ writer = _ ∧ _) ∨ ∃ text stack, Stateful.run _ writer = _
  rw [run_bind_ok _ (Stateful.run_get writer)]
  cases writer.stack.getLast? with
  | none => exact .inl ⟨.noOpenTag, rfl, by decide⟩
  | some name => exact .inr ⟨closingTag name, writer.stack.dropLast, rfl⟩

theorem Lays.confined {step : Writing Unit} (lays : Lays step) :
    IsConfined (· ∈ writingKinds) step := by
  intro writer
  change Confined _ (step.run writer).1
  rcases lays writer with ⟨fault, ran, kind⟩ | ⟨text, stack, ran⟩
  · rw [ran]
    exact confined_error kind
  · rw [ran]
    exact confined_ok ()

theorem confined_startTag (name : String) (attrs : Attributes) :
    IsConfined (· ∈ writingKinds) (Writer.startTag name attrs) :=
  (lays_openWith name (writingOnly_openingTag name attrs)).confined

theorem confined_orphanTag (name : String) (attrs : Attributes) :
    IsConfined (· ∈ writingKinds) (Writer.orphanTag name attrs) :=
  (lays_orphanWith (writingOnly_openingTag name attrs)).confined

theorem confined_writeContent (text : Value) :
    IsConfined (· ∈ writingKinds) (Writer.writeContent text) :=
  (lays_writeContent text).confined

theorem confined_endTag : IsConfined (· ∈ writingKinds) Writer.endTag := lays_endTag.confined

theorem confined_inlineTag (name : String) (attrs : Attributes) (content : Value) :
    IsConfined (· ∈ writingKinds) (Writer.inlineTag name attrs content) :=
  (confined_startTag name attrs).bind fun _ =>
    (confined_writeContent content).bind fun _ => confined_endTag

theorem confined_checkUnfinished : IsConfined (· ∈ writingKinds) Writer.checkUnfinished :=
  Stateful.isConfined_get.bind fun _ =>
    Stateful.isConfined_if (Stateful.isConfined_throw (by decide)) (Stateful.isConfined_pure _)

theorem confined_finish : IsConfined (· ∈ writingKinds) Writer.finish := by
  refine confined_checkUnfinished.bind fun _ => Stateful.isConfined_get.bind fun writer => ?_
  refine Stateful.isConfined_if ?_ (Stateful.isConfined_throw (by simp [Fault.category, writingKinds]))
  refine (Stateful.isConfined_set _).bind fun _ => Stateful.isConfined_ofExcept fun fault failed => ?_
  simp [(Writer.text_error failed).1, writingKinds]

def Clean {α : Type} (step : Writing α) : Prop :=
  ∀ writer, (step.run writer).2.HoldsForeign ↔ writer.HoldsForeign

theorem Lays.clean {step : Writing Unit} (lays : Lays step) : Clean step := by
  intro writer
  rcases lays writer with ⟨fault, ran, -⟩ | ⟨text, stack, ran⟩
  · rw [ran]
  · rw [ran, Writer.holdsForeign_push]
    simp [isText]

theorem Clean.bind {α β : Type} {first : Writing α} {next : α → Writing β} (clean : Clean first)
    (later : ∀ value, Clean (next value)) : Clean (first >>= next) := by
  intro writer
  have here := clean writer
  change (Stateful.run (first >>= next) writer).2.HoldsForeign ↔ _
  change (Stateful.run first writer).2.HoldsForeign ↔ _ at here
  rw [run_bind]
  cases found : Stateful.run first writer with
  | mk outcome after =>
    rw [found] at here
    cases outcome with
    | ok value => exact (later value after).trans here
    | error fault => exact here

theorem clean_inlineWith (name : String) {tag : Except Fault String} (confined : WritingOnly tag)
    (content : Value) : Clean (Writer.inlineWith name tag content) :=
  (lays_openWith name confined).clean.bind fun _ =>
    (lays_writeContent content).clean.bind fun _ => lays_endTag.clean

namespace Call

def isPrimitive : Call → Bool
  | .inlineTag .. => false
  | _ => true

/-- A step that is given a piece which is no text, to be written as it is. -/
def bringsForeign : Call → Bool
  | .writeRaw piece => !isText piece
  | _ => false

theorem silent_failed {step : Writing Unit} (lays : Lays step) {writer after : Writer}
    {fault : Fault} (failed : (silent step).run writer = (.error fault, after)) :
    after = writer ∧ fault.category ∈ writingKinds := by
  rw [run_silent] at failed
  rcases lays writer with ⟨cause, ran, kind⟩ | ⟨text, stack, ran⟩
  · obtain ⟨rfl, rfl⟩ : cause = fault ∧ writer = after := by simpa [ran, Except.map] using failed
    exact ⟨rfl, kind⟩
  · simp [ran, Except.map] at failed

theorem clean_silent {step : Writing Unit} (clean : Clean step) : Clean (silent step) :=
  clean.bind fun _ _ => Iff.rfl

theorem run_writeRaw (piece : Value) (writer : Writer) :
    (Call.writeRaw piece).run.run writer =
      if writer.isFinished then (.error .finished, writer) else (.ok none, writer.push piece) := by
  change (silent (Writer.writeRaw piece)).run writer = _
  rw [run_silent]
  change ((Stateful.run (Writer.writeRaw piece) writer).1.map fun _ => none,
    (Stateful.run (Writer.writeRaw piece) writer).2) = _
  cases ended : writer.isFinished <;>
    simp [Writer.writeRaw, Writer.checkUnfinished, Writer.append, run_bind, ended, Except.map]

theorem finish_failed {writer after : Writer} {fault : Fault}
    (failed : Call.finish.run.run writer = (.error fault, after)) :
    (after = writer ∧ fault.category ∈ [.finished, .tagStack] ∧
        (writer.isFinished = true ∨ writer.stack ≠ [])) ∨
      (after = { writer with isFinished := true } ∧ fault.category = .type ∧
        writer.isFinished = false ∧ writer.stack = [] ∧ writer.HoldsForeign) := by
  change Request.finish.run writer = _ at failed
  cases working : writer.isFinished with
  | true =>
    rw [Request.finish.run_ended working] at failed
    obtain ⟨rfl, rfl⟩ : .finished = fault ∧ writer = after := by simpa using failed
    exact .inl ⟨rfl, by simp [Fault.category], .inl rfl⟩
  | false =>
    by_cases bare : writer.stack = []
    · rw [Request.run_finish_settled working bare] at failed
      obtain ⟨cause, rfl⟩ := Prod.mk.inj failed
      -- The mark is set before the pieces are joined.
      cases joined : writer.text with
      | ok text => simp [joined, Except.map] at cause
      | error reason =>
        obtain rfl : reason = fault := by simpa [joined, Except.map] using cause
        obtain ⟨kind, foreign⟩ := Writer.text_error joined
        exact .inr ⟨rfl, kind, rfl, bare, foreign⟩
    · rw [Request.run_finish_open working bare] at failed
      obtain ⟨rfl, rfl⟩ : .unclosed writer.stack = fault ∧ writer = after := by simpa using failed
      exact .inl ⟨rfl, by simp [Fault.category], .inr bare⟩

theorem finish_pieces (writer : Writer) :
    (Call.finish.run.run writer).2.pieces = writer.pieces := by
  change (Request.finish.run writer).2.pieces = _
  cases working : writer.isFinished with
  | true => rw [Request.finish.run_ended working]
  | false =>
    by_cases bare : writer.stack = []
    · rw [Request.run_finish_settled working bare]
    · rw [Request.run_finish_open working bare]

theorem holdsForeign_run (call : Call) (writer : Writer) :
    (call.run.run writer).2.HoldsForeign ↔
      writer.HoldsForeign ∨ call.bringsForeign = true ∧ writer.isFinished = false := by
  -- All steps but one write texts of their own.
  have clean : ∀ {step : Writing (Option String)}, Clean step →
      ((step.run writer).2.HoldsForeign ↔
        writer.HoldsForeign ∨ false = true ∧ writer.isFinished = false) := by
    intro step clean
    simp [clean writer]
  cases call with
  | startTag name attrs =>
    exact clean (clean_silent (lays_openWith _ (writingOnly_looseTag name attrs)).clean)
  | endTag => exact clean (clean_silent lays_endTag.clean)
  | orphanTag name attrs =>
    exact clean (clean_silent (lays_orphanWith (writingOnly_looseTag name attrs)).clean)
  | inlineTag name attrs content =>
    exact clean (clean_silent (clean_inlineWith _ (writingOnly_looseTag name attrs) content))
  | writeContent text => exact clean (clean_silent (lays_writeContent text).clean)
  | finish => exact clean fun before => by rw [Writer.HoldsForeign, finish_pieces, Writer.HoldsForeign]
  | writeRaw piece =>
    rw [run_writeRaw]
    cases ended : writer.isFinished with
    | true => simp
    | false =>
      have pushed : (writer.push piece).HoldsForeign ↔ writer.HoldsForeign ∨ isText piece = false :=
        writer.holdsForeign_push piece writer.stack
      simpa [bringsForeign] using pushed

end Call

def reached (calls : List Call) : Writer :=
  calls.foldl (fun writer call => (call.run.run writer).2) .empty

theorem reached_concat (calls : List Call) (call : Call) :
    reached (calls ++ [call]) = (call.run.run (reached calls)).2 := by
  simp [reached, List.foldl_append]

/-- On the way, a piece that is no text was written while the writer was still at work. -/
def TookForeign (calls : List Call) : Prop :=
  ∃ before call after, calls = before ++ call :: after ∧ call.bringsForeign = true ∧
    (reached before).isFinished = false

theorem tookForeign_concat (calls : List Call) (call : Call) :
    TookForeign (calls ++ [call]) ↔
      TookForeign calls ∨ call.bringsForeign = true ∧ (reached calls).isFinished = false := by
  constructor
  · rintro ⟨before, taken, after, same, brings, working⟩
    rcases List.eq_nil_or_concat after with rfl | ⟨rest, last, rfl⟩
    · obtain ⟨rfl, rfl⟩ : calls = before ∧ call = taken := by simpa using same
      exact .inr ⟨brings, working⟩
    · obtain ⟨rfl, rfl⟩ : calls = before ++ taken :: rest ∧ call = last := by
        have split : calls ++ [call] = (before ++ taken :: rest) ++ [last] := by simpa using same
        simpa using List.append_inj' split rfl
      exact .inl ⟨before, taken, rest, rfl, brings, working⟩
  · rintro (⟨before, taken, after, rfl, brings, working⟩ | ⟨brings, working⟩)
    · exact ⟨before, taken, after ++ [call], by simp, brings, working⟩
    · exact ⟨calls, call, [], rfl, brings, working⟩

/-- A writer holds a piece that is no text just if one was written. -/
theorem holdsForeign_reached (calls : List Call) :
    (reached calls).HoldsForeign ↔ TookForeign calls := by
  induction calls using List.reverseRecOn with
  | nil => simp [reached, Writer.HoldsForeign, Writer.empty, TookForeign]
  | append_singleton calls call ih =>
    rw [reached_concat, Call.holdsForeign_run, tookForeign_concat, ih]

/-- What is left when a step fails after others: the pieces and the open tags of before. So is the
mark of being finished, but for the last step, which sets it where it fails for the kind of a piece. -/
structure Kept (calls : List Call) (call : Call) (fault : Fault) (after : Writer) : Prop where
  kind : fault.category ∈ writingKinds
  pieces : after.pieces = (reached calls).pieces
  stack : after.stack = (reached calls).stack
  isFinished : after.isFinished = true ↔
    (reached calls).isFinished = true ∨ call = .finish ∧ fault.category = .type
  /-- That is so just where nothing is open and a piece that is no text was let in. -/
  spent : call = .finish → (fault.category = .type ↔
    (reached calls).isFinished = false ∧ (reached calls).stack = [] ∧ TookForeign calls)

theorem Kept.of_unchanged {calls : List Call} {call : Call} {fault : Fault}
    (going : call ≠ .finish) (kind : fault.category ∈ writingKinds) :
    Kept calls call fault (reached calls) where
  kind := kind
  pieces := rfl
  stack := rfl
  isFinished := (or_iff_left fun last => going last.1).symm
  spent same := absurd same going

theorem Kept.of_finish {calls : List Call} {fault : Fault} {after : Writer}
    (failed : Call.finish.run.run (reached calls) = (.error fault, after)) :
    Kept calls .finish fault after := by
  rcases Call.finish_failed failed with ⟨rfl, kind, stuck⟩ | ⟨rfl, kind, working, bare, foreign⟩
  · have known : [.finished, .tagStack] ⊆ writingKinds := by decide
    have other : fault.category ≠ .type := by
      intro same
      simp [same] at kind
    have held : ¬ ((reached calls).isFinished = false ∧ (reached calls).stack = [] ∧
        TookForeign calls) := by
      rintro ⟨working, bare, -⟩
      rcases stuck with ended | opened
      · simp [working] at ended
      · exact opened bare
    exact ⟨known kind, rfl, rfl, (or_iff_left fun last => other last.2).symm,
      fun _ => iff_of_false other held⟩
  · have taken := (holdsForeign_reached calls).mp foreign
    exact ⟨by simp [kind, writingKinds], rfl, rfl, iff_of_true rfl (.inr ⟨rfl, kind⟩),
      fun _ => iff_of_true kind ⟨working, bare, taken⟩⟩

theorem failure_keeps (calls : List Call) (call : Call) (primitive : call.isPrimitive = true)
    {fault : Fault} {after : Writer}
    (failed : call.run.run (reached calls) = (.error fault, after)) :
    Kept calls call fault after := by
  -- Whatever can go wrong before the text is put at the end has changed nothing.
  have laid : ∀ {step : Writing Unit}, call ≠ .finish → Lays step →
      (Call.silent step).run (reached calls) = (.error fault, after) →
      Kept calls call fault after := by
    intro step going lays stopped
    obtain ⟨rfl, kind⟩ := Call.silent_failed lays stopped
    exact .of_unchanged going kind
  cases call with
  | startTag name attrs =>
    exact laid (by simp) (lays_openWith _ (writingOnly_looseTag name attrs)) failed
  | endTag => exact laid (by simp) lays_endTag failed
  | orphanTag name attrs =>
    exact laid (by simp) (lays_orphanWith (writingOnly_looseTag name attrs)) failed
  | inlineTag name attrs content => simp [Call.isPrimitive] at primitive
  | writeContent text => exact laid (by simp) (lays_writeContent text) failed
  | writeRaw piece =>
    rw [Call.run_writeRaw] at failed
    split at failed
    · obtain ⟨rfl, rfl⟩ : .finished = fault ∧ reached calls = after := by simpa using failed
      exact .of_unchanged (by simp) (by decide)
    · simp at failed
  | finish => exact .of_finish failed

/-- A name that is no text is refused after the attributes went well, and nothing has changed. -/
theorem failure_keeps_unnamed :
    let calls := [.startTag (.str "p") (.list []), .writeRaw (.int 5)]
    let call := Call.startTag .null (.list [.str "ab"])
    call.run.run (reached calls) = (.error (.notJoinable 0 .null), reached calls) ∧
      Kept calls call (.notJoinable 0 .null) (reached calls) :=
  ⟨rfl, failure_keeps _ _ rfl rfl⟩

/-- A number among the pieces: they cannot be joined, and the writer is finished all the same. -/
theorem finish_spent_on_number :
    let writer := reached [.writeRaw (.int 5)]
    (Call.finish.run.run writer).1 = .error (.notJoinable 0 .int) ∧
      writer.isFinished = false ∧ (Call.finish.run.run writer).2.isFinished = true :=
  ⟨rfl, rfl, rfl⟩

end Folio.Markup
