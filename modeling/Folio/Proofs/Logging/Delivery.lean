import Folio.Logging.Setup
import Folio.Proofs.Logging.Hierarchy
import Folio.Proofs.Stateful

/-! Records on their way through one configuration after another. A journal says of every record what
was asked for when it came; the error stream and every file hold just what the journal has for them,
in its order, each record once. -/
namespace Folio.Logging

open Files (Path)

/-- Whether a file can be opened is settled anew for every configuration. -/
inductive Step where
  | configure (canOpen : String → Bool) (request : Request)
  | record (logger : String) (level : Level) (message : String)

def Step.work : Step → Changing Unit
  | .configure canOpen request => Logging.configure canOpen request
  | .record logger level message => log (.str logger) level.value message

def Step.after (step : Step) (setup : Setup) : Setup := (step.work.run setup).2

/-- A step that fails does not keep the later ones from being taken. -/
def play (setup : Setup) (steps : List Step) : Setup :=
  steps.foldl (fun setup step => step.after setup) setup

/-- Lines are plain, and the file is none or is named by a path that can be handed on. -/
structure Request.Proper (request : Request) : Prop where
  plain : request.trace.truthy = false
  path : request.logFile.truthy = true → ∃ path, request.logFile = .str path ∧ '\x00' ∉ path.toList

/-- Records have a positive level, and a logger that leads up to the library's own one. -/
def Step.Proper (setup : Setup) : Step → Prop
  | .configure _ request => request.Proper
  | .record logger level _ => 0 < level.weight ∧ (setup.meet logger).isOwn logger = true

def Proper (setup : Setup) : List Step → Prop
  | [] => True
  | step :: rest => step.Proper setup ∧ Proper (step.after setup) rest

structure Setup.Unconfigured (setup : Setup) : Prop where
  level : setup.level = .number 0
  propagate : setup.propagate = .bool true
  handlers : setup.handlers = []
  verdicts : setup.verdicts = []

/-- A configuration that was not refused, with the file that was opened for it. -/
structure Standing where
  level : Level
  propagate : Value
  file? : Option String

def Request.path? (request : Request) : Option String :=
  match request.logFile with
  | .str path => if path = "" then none else some path
  | _ => none

def Request.opened? (canOpen : String → Bool) (request : Request) : Option String :=
  (request.path?.map Path.tidied).filter canOpen

def Step.standing (before : Option Standing) : Step → Option Standing
  | .configure canOpen request =>
    match resolve request.level with
    | .ok level => some ⟨level, request.propagate, request.opened? canOpen⟩
    | .error _ => before
  | .record .. => before

def standing (before : Option Standing) (steps : List Step) : Option Standing :=
  steps.foldl Step.standing before

/-- The least weight that is let through: that of the level, unless it is zero. -/
def leastWeight : Option Standing → Int
  | some asked => if asked.level.weight = 0 then rootWeight else asked.level.weight
  | none => rootWeight

def handlersOf : Option Standing → List Handler
  | some asked => ⟨.stream, false⟩ :: asked.file?.toList.map fun name => ⟨.file name, false⟩
  | none => []

structure Entry where
  standing? : Option Standing
  record : Record

/-- What a configuration says itself of the file that it was asked for. -/
def Request.remarks (canOpen : String → Bool) (request : Request) : List Record :=
  request.path?.toList.map fun path =>
    if canOpen (Path.tidied path) then
      ⟨Hierarchy.ownName, .number 10, "Logging to file: " ++ path⟩
    else ⟨Hierarchy.ownName, .number 30, notOpenedText path⟩

/-- A record whose level cannot be named is never made. -/
def Step.records : Step → List Record
  | .configure canOpen request =>
    match resolve request.level with
    | .ok _ => request.remarks canOpen
    | .error _ => []
  | .record logger level message => if level.isNamed then [⟨logger, level, message⟩] else []

/-- All records in the order in which they come, each with what stands at that time. -/
def journal (before : Option Standing) : List Step → List Entry
  | [] => []
  | step :: rest =>
    step.records.map (Entry.mk (step.standing before)) ++ journal (step.standing before) rest

namespace Entry

def Passes (entry : Entry) : Prop := leastWeight entry.standing? ≤ entry.record.level.weight

instance (entry : Entry) : Decidable entry.Passes := inferInstanceAs (Decidable (_ ≤ _))

/-- A record that comes before any configuration is written bare. -/
def line (entry : Entry) : String :=
  if entry.standing?.isSome then
    "knots " ++ entry.record.level.name ++ ": " ++ entry.record.message ++ "\n"
  else entry.record.message ++ "\n"

def streamed (entry : Entry) : String := if entry.Passes then entry.line else ""

def filed (name : String) (entry : Entry) : String :=
  if entry.Passes ∧ (entry.standing?.bind Standing.file?) = some name then entry.line else ""

end Entry

def Setup.content (setup : Setup) (name : String) : String := (setup.files.lookup name).getD ""

/-- The setup is as it was asked to be, and what was decided so far still holds. -/
structure Setup.Follows (setup : Setup) (asked : Option Standing) : Prop where
  level : setup.level = (asked.map Standing.level).getD (.number 0)
  propagate : setup.propagate = (asked.map Standing.propagate).getD (.bool true)
  handlers : setup.handlers = handlersOf asked
  decided : ∀ logger weight verdict, setup.verdicts.lookup (logger, weight) = some verdict →
    verdict = decide (0 < weight ∧ leastWeight asked ≤ weight)

/-- Between two setups just these entries were written. -/
structure Wrote (before after : Setup) (entries : List Entry) : Prop where
  stderr : after.stderr = before.stderr ++ String.join (entries.map Entry.streamed)
  files : ∀ name, after.content name =
    before.content name ++ String.join (entries.map (Entry.filed name))

theorem Wrote.append {before middle after : Setup} {first second : List Entry}
    (early : Wrote before middle first) (late : Wrote middle after second) :
    Wrote before after (first ++ second) := by
  constructor
  · rw [late.stderr, early.stderr, List.map_append, String.join_append, String.append_assoc]
  · intro name
    rw [late.files, early.files, List.map_append, String.join_append, String.append_assoc]

theorem Wrote.nothing (setup : Setup) : Wrote setup setup [] := by
  constructor
  · simp
  · simp

theorem lookup_appendTo (name other text : String) (files : List (String × String)) :
    ((appendTo name text files).lookup other).getD "" =
      (files.lookup other).getD "" ++ if name = other then text else "" := by
  induction files with
  | nil =>
    by_cases same : name = other
    · subst same
      simp [appendTo]
    · simp [appendTo, List.lookup_cons, beq_false_of_ne (Ne.symm same), same]
  | cons file files ih =>
    obtain ⟨key, held⟩ := file
    rw [appendTo]
    by_cases found : key = name
    · subst found
      by_cases same : key = other
      · subst same
        simp
      · simp [List.lookup_cons, beq_false_of_ne (Ne.symm same), same]
    · rw [if_neg (by simpa using found), List.lookup_cons, List.lookup_cons]
      by_cases here : other = key
      · subst here
        simp [Ne.symm found]
      · rw [beq_false_of_ne here]
        exact ih

theorem content_write_file (setup : Setup) (name text other : String) :
    (setup.write (.file name) text).content other =
      setup.content other ++ if name = other then text else "" :=
  lookup_appendTo name other text setup.files

@[simp] theorem content_write_stream (setup : Setup) (text other : String) :
    (setup.write .stream text).content other = setup.content other := rfl

section Writing

variable {setup : Setup} {asked : Option Standing}

theorem Setup.Follows.write (follows : setup.Follows asked) (target : Target) (text : String) :
    (setup.write target text).Follows asked := by
  cases target with
  | stream | file name => exact ⟨follows.level, follows.propagate, follows.handlers, follows.decided⟩

theorem Setup.Follows.verdict_eq (follows : setup.Follows asked) {logger : String}
    (own : setup.isOwn logger = true) (weight : Int) :
    setup.verdict logger weight = decide (0 < weight ∧ leastWeight asked ≤ weight) := by
  unfold Setup.verdict
  cases found : setup.verdicts.lookup (logger, weight) with
  | some verdict => exact follows.decided logger weight verdict found
  | none =>
    have least : setup.threshold logger = leastWeight asked := by
      unfold Setup.threshold
      rw [own, follows.level]
      cases asked with
      | none => rfl
      | some asked =>
        by_cases zero : asked.level.weight = 0 <;> simp [leastWeight, zero]
    rw [Option.getD_none, least, ← Bool.decide_and]

theorem Setup.Follows.decide_more (follows : setup.Follows asked) {logger : String}
    (own : setup.isOwn logger = true) (weight : Int) :
    (setup.decided logger weight).Follows asked := by
  refine ⟨follows.level, follows.propagate, follows.handlers, fun other given verdict found => ?_⟩
  rw [Setup.decided, List.lookup_cons] at found
  split at found
  · next same =>
    obtain ⟨rfl, rfl⟩ := Prod.mk.inj (by simpa using same)
    rw [← Option.some.inj found]
    exact follows.verdict_eq own given
  · exact follows.decided other given verdict found

theorem Setup.Follows.send (follows : setup.Follows asked) (record : Record)
    (own : setup.isOwn record.logger = true)
    (passes : leastWeight asked ≤ record.level.weight) :
    (setup.send record).Follows asked ∧ Wrote setup (setup.send record) [⟨asked, record⟩] := by
  have handlers : setup.handlersFor record.logger = handlersOf asked := by
    rw [Setup.handlersFor, own, follows.handlers]
    rfl
  unfold Setup.send
  rw [handlers]
  cases asked with
  | none =>
    have heavy : rootWeight ≤ record.level.weight := passes
    dsimp only [handlersOf]
    rw [if_pos heavy]
    refine ⟨follows.write _ _, ?_, fun name => ?_⟩
    · simp [Entry.streamed, Entry.Passes, Entry.line, passes, Setup.write]
    · simp [Entry.filed]
  | some asked =>
    have line : ∀ target, Handler.line ⟨target, false⟩ record = (Entry.mk (some asked) record).line :=
      fun _ => rfl
    cases opened : asked.file? with
    | none =>
      simp only [handlersOf, opened, Option.toList_none, List.map_nil, Setup.deliver, line]
      refine ⟨follows.write _ _, ?_, fun name => ?_⟩
      · simp [Entry.streamed, Entry.Passes, passes, Setup.write]
      · simp [Entry.filed, opened]
    | some file =>
      simp only [handlersOf, opened, Option.toList_some, List.map_cons, List.map_nil, Setup.deliver,
        line]
      refine ⟨(follows.write _ _).write _ _, ?_, fun name => ?_⟩
      · simp [Entry.streamed, Entry.Passes, passes, Setup.write]
      · rw [content_write_file, content_write_stream]
        simp [Entry.filed, Entry.Passes, passes, opened]

theorem Setup.Follows.emit (follows : setup.Follows asked) (record : Record)
    (own : setup.isOwn record.logger = true) (positive : 0 < record.level.weight) :
    (setup.emit record).Follows asked ∧ Wrote setup (setup.emit record) [⟨asked, record⟩] := by
  have more := follows.decide_more own record.level.weight
  unfold Setup.emit
  rw [follows.verdict_eq own]
  by_cases passes : leastWeight asked ≤ record.level.weight
  · simp only [positive, passes, true_and, decide_true, ↓reduceIte]
    obtain ⟨kept, wrote⟩ := more.send record own passes
    exact ⟨kept, wrote.stderr, wrote.files⟩
  · simp only [passes, and_false, decide_false, Bool.false_eq_true, ↓reduceIte]
    refine ⟨more, ?_, fun name => ?_⟩
    · simp [Entry.streamed, Entry.Passes, passes, Setup.decided]
    · simp [Entry.filed, Entry.Passes, passes, Setup.decided, Setup.content]

end Writing

theorem isOwn_ownName (setup : Setup) : setup.isOwn Hierarchy.ownName = true :=
  Hierarchy.isOwn_of_below setup.known .own

/-- A setup right after a configuration has been accepted, before it says anything of a file. -/
def Setup.configured (setup : Setup) (asked : Standing) : Setup :=
  { setup with
    level := asked.level
    propagate := asked.propagate
    handlers := handlersOf (some asked)
    verdicts := []
    files := (asked.file?.map fun name => appendTo name "" setup.files).getD setup.files }

theorem follows_configured (setup : Setup) (asked : Standing) :
    (setup.configured asked).Follows (some asked) :=
  ⟨rfl, rfl, rfl, fun _ _ _ found => by simp [Setup.configured] at found⟩

theorem wrote_configured (setup : Setup) (asked : Standing) :
    Wrote setup (setup.configured asked) [] := by
  refine ⟨by simp [Setup.configured], fun name => ?_⟩
  unfold Setup.content Setup.configured
  cases asked.file? with
  | none => simp
  -- To be opened leaves a file with what it holds.
  | some file => simp [lookup_appendTo]

theorem run_configure_refused (canOpen : String → Bool) {request : Request} {fault : Fault}
    (refused : resolve request.level = .error fault) (setup : Setup) :
    (configure canOpen request).run setup = (.error fault, setup) := by
  show Stateful.run (configure canOpen request) setup = _
  rw [configure, refused, Stateful.run_bind, Stateful.run_ofExcept]

theorem run_openFile (canOpen : String → Bool) {path : String} (whole : '\x00' ∉ path.toList)
    (setup : Setup) :
    Stateful.run (openFile canOpen false path) setup =
      (.ok (),
        if canOpen (Path.tidied path) then
          Setup.emit { setup.write (.file (Path.tidied path)) "" with
            handlers := setup.handlers ++ [⟨.file (Path.tidied path), false⟩] }
            ⟨Hierarchy.ownName, .number 10, "Logging to file: " ++ path⟩
        else setup.emit ⟨Hierarchy.ownName, .number 30, notOpenedText path⟩) := by
  have contained : path.toList.contains '\x00' = false := by simpa using whole
  unfold openFile
  rw [contained]
  by_cases opens : canOpen (Path.tidied path) = true
  · simp only [opens, ↓reduceIte]
    rfl
  · simp only [opens]
    rfl

theorem run_configure_accepted (canOpen : String → Bool) {request : Request} {level : Level}
    (proper : request.Proper) (accepted : resolve request.level = .ok level) (setup : Setup) :
    (configure canOpen request).run setup =
      (.ok (), (request.remarks canOpen).foldl Setup.emit
        (setup.configured ⟨level, request.propagate, request.opened? canOpen⟩)) := by
  show Stateful.run (configure canOpen request) setup = _
  rw [configure, accepted, Stateful.run_bind, Stateful.run_ofExcept]
  dsimp only
  rw [Stateful.run_bind, Stateful.run_modify, proper.plain]
  dsimp only
  by_cases named : request.logFile.truthy = true
  · obtain ⟨path, given, whole⟩ := proper.path named
    have filled : path ≠ "" := by simpa [given, Value.truthy] using named
    have found : request.path? = some path := by simp [Request.path?, given, filled]
    rw [if_pos named, given]
    dsimp only
    rw [run_openFile canOpen whole]
    by_cases opens : canOpen (Path.tidied path) = true
    · have opened : request.opened? canOpen = some (Path.tidied path) := by
        simp [Request.opened?, found, Option.filter, opens]
      simp [Request.remarks, opened, found, opens, Setup.configured, handlersOf, Setup.write]
    · have unopened : request.opened? canOpen = none := by
        simp [Request.opened?, found, Option.filter, opens]
      simp [Request.remarks, unopened, found, opens, Setup.configured, handlersOf]
  · have missing : request.path? = none := by
      unfold Request.path?
      cases given : request.logFile with
      | str path =>
        have empty : path = "" := by simpa [given, Value.truthy] using named
        exact if_pos empty
      | null | bool _ | int _ | float _ | list _ | object _ => rfl
    rw [if_neg named]
    simp [Request.remarks, Request.opened?, missing, Setup.configured, handlersOf]

theorem run_log (logger : String) (level : Level) (message : String) (setup : Setup) :
    (log (.str logger) level.value message).run setup =
      Stateful.run (submit ⟨logger, level, message⟩) (setup.meet logger) := by
  show Stateful.run (log (.str logger) level.value message) setup = _
  rw [log, loggerOf, Stateful.run_bind, Stateful.run_ofExcept]
  dsimp only
  rw [Stateful.run_bind, Stateful.run_modify, Level.ofValue?_value]

theorem run_submit_named {record : Record} (named : record.level.isNamed = true) (setup : Setup) :
    Stateful.run (submit record) setup = (.ok (), setup.emit record) := by
  unfold submit
  rw [Stateful.run_bind, Stateful.run_get]
  dsimp only
  rw [if_pos named, Stateful.run_set]

theorem run_submit_unnamed {record : Record} (unnamed : record.level.isNamed = false)
    (setup : Setup) :
    Stateful.run (submit record) setup =
      (if setup.verdict record.logger record.level.weight then .error (.tooManyDigits none)
        else .ok (), setup.decided record.logger record.level.weight) := by
  unfold submit
  rw [Stateful.run_bind, Stateful.run_get]
  dsimp only
  -- The verdict is kept before the name of the level is asked for.
  rw [unnamed, if_neg Bool.false_ne_true, Stateful.run_bind, Stateful.run_set]
  dsimp only
  cases setup.verdict record.logger record.level.weight <;> rfl

theorem Setup.Follows.meet {setup : Setup} {asked : Option Standing}
    (follows : setup.Follows asked) (logger : String) : (setup.meet logger).Follows asked := by
  unfold Setup.meet
  split
  · exact follows
  · exact ⟨follows.level, follows.propagate, follows.handlers, follows.decided⟩

theorem wrote_meet (setup : Setup) (logger : String) : Wrote setup (setup.meet logger) [] := by
  unfold Setup.meet
  split
  · exact .nothing setup
  · exact ⟨by simp, fun name => by simp [Setup.content]⟩

theorem wrote_decided (setup : Setup) (logger : String) (weight : Int) :
    Wrote setup (setup.decided logger weight) [] :=
  ⟨by simp [Setup.decided], fun name => by simp [Setup.decided, Setup.content]⟩

/-- How a step ends: a level that is refused makes it fail, and so does one that lets a record
through but cannot be named. -/
def Step.answer (before : Option Standing) : Step → Except Fault Unit
  | .configure _ request => (resolve request.level).map fun _ => ()
  | .record _ level _ =>
    if level.isNamed ∨ level.weight < leastWeight before then .ok ()
    else .error (.tooManyDigits none)

section Steps

variable {setup : Setup} {asked : Option Standing}

theorem Setup.Follows.remark (follows : setup.Follows asked) (canOpen : String → Bool)
    (request : Request) :
    ((request.remarks canOpen).foldl Setup.emit setup).Follows asked ∧
      Wrote setup ((request.remarks canOpen).foldl Setup.emit setup)
        ((request.remarks canOpen).map (Entry.mk asked)) := by
  unfold Request.remarks
  cases request.path? with
  | none => exact ⟨follows, .nothing setup⟩
  | some path =>
    simp only [Option.toList_some, List.map_cons, List.map_nil, List.foldl_cons, List.foldl_nil]
    split
    · exact follows.emit _ (isOwn_ownName setup) (by simp [Level.weight])
    · exact follows.emit _ (isOwn_ownName setup) (by simp [Level.weight])

/-- A step brings the setup to what it asks for, and writes what the journal has for it. -/
theorem Setup.Follows.step (follows : setup.Follows asked) {step : Step}
    (proper : step.Proper setup) :
    (step.work.run setup).1 = step.answer asked ∧
      (step.after setup).Follows (step.standing asked) ∧
      Wrote setup (step.after setup) (step.records.map (Entry.mk (step.standing asked))) := by
  cases step with
  | configure canOpen request =>
    simp only [Step.after, Step.work, Step.answer, Step.standing, Step.records]
    cases found : resolve request.level with
    | error fault =>
      rw [run_configure_refused canOpen found]
      exact ⟨rfl, follows, .nothing setup⟩
    | ok level =>
      rw [run_configure_accepted canOpen proper found]
      have ready := follows_configured setup ⟨level, request.propagate, request.opened? canOpen⟩
      obtain ⟨kept, wrote⟩ := ready.remark canOpen request
      exact ⟨rfl, kept, (wrote_configured setup _).append wrote⟩
  | record logger level message =>
    obtain ⟨positive, own⟩ := proper
    have met := follows.meet logger
    simp only [Step.after, Step.work, run_log, Step.answer, Step.standing, Step.records]
    cases named : level.isNamed with
    | true =>
      rw [run_submit_named named]
      obtain ⟨kept, wrote⟩ := met.emit ⟨logger, level, message⟩ own positive
      exact ⟨rfl, kept, (wrote_meet setup logger).append wrote⟩
    | false =>
      -- No record is made, but what was decided on the way is kept.
      rw [run_submit_unnamed named]
      refine ⟨?_, met.decide_more own level.weight,
        (wrote_meet setup logger).append (wrote_decided _ logger level.weight)⟩
      rw [met.verdict_eq own]
      by_cases passes : leastWeight asked ≤ level.weight
      · simp [positive, passes, Int.not_lt.mpr passes]
      · simp [passes, Int.not_le.mp passes]

theorem Setup.Follows.play (follows : setup.Follows asked) {steps : List Step}
    (proper : Logging.Proper setup steps) :
    (Logging.play setup steps).Follows (standing asked steps) ∧
      Wrote setup (Logging.play setup steps) (journal asked steps) := by
  induction steps generalizing setup asked with
  | nil => exact ⟨follows, .nothing setup⟩
  | cons step rest ih =>
    obtain ⟨-, kept, wrote⟩ := follows.step proper.1
    obtain ⟨last, later⟩ := ih kept proper.2
    exact ⟨last, wrote.append later⟩

end Steps

theorem Setup.Unconfigured.follows {setup : Setup} (unconfigured : setup.Unconfigured) :
    setup.Follows none where
  level := unconfigured.level
  propagate := unconfigured.propagate
  handlers := unconfigured.handlers
  decided _ _ _ found := by simp [unconfigured.verdicts] at found

end Folio.Logging
