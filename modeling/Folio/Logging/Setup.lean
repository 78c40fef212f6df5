import Folio.Logging.Hierarchy
import Folio.Logging.Level
import Folio.Noted

/-! Where records go. Until it is configured the library's logger has no handlers of its own, and
records of weight go bare to the error stream. Configuring replaces all handlers by one for the
error stream and, where a file is named and can be opened, one for that file. -/
namespace Folio.Logging

open Files (Path Refusal)

inductive Target where
  | stream
  | file (name : String)
  deriving DecidableEq

structure Handler where
  target : Target
  trace : Bool
  deriving DecidableEq

structure Record where
  logger : String
  level : Level
  message : String

/-- `files` holds every file that exists with what it contains, in the order of their creation;
`known` the loggers that were asked for; `verdicts` what was decided since the last configuration
about a logger and the weight of a level. -/
structure Setup where
  level : Level
  propagate : Value
  handlers : List Handler
  stderr : String
  files : List (String × String)
  known : List String
  verdicts : List ((String × Int) × Bool)

def Setup.initial : Setup where
  level := .number 0
  propagate := .bool true
  handlers := []
  stderr := ""
  files := []
  known := []
  verdicts := []

def Handler.format (handler : Handler) : String :=
  if handler.trace then "[%(asctime)s] [%(levelname)s] [%(name)s] %(message)s"
  else "knots %(levelname)s: %(message)s"

def Handler.dateFormat? (handler : Handler) : Option String :=
  if handler.trace then some "%Y-%m-%d %H:%M:%S" else none

/-- The line for a record. There is no clock here, so a trace line leaves out the time. -/
def Handler.line (handler : Handler) (record : Record) : String :=
  if handler.trace then
    "[] [" ++ record.level.name ++ "] [" ++ record.logger ++ "] " ++ record.message ++ "\n"
  else "knots " ++ record.level.name ++ ": " ++ record.message ++ "\n"

def rootWeight : Int := 30

def appendTo (name text : String) : List (String × String) → List (String × String)
  | [] => [(name, text)]
  | (other, content) :: rest =>
    if other == name then (other, content ++ text) :: rest
    else (other, content) :: appendTo name text rest

namespace Setup

def write (setup : Setup) (target : Target) (text : String) : Setup :=
  match target with
  | .stream => { setup with stderr := setup.stderr ++ text }
  | .file name => { setup with files := appendTo name text setup.files }

def isOwn (setup : Setup) (logger : String) : Bool := Hierarchy.isOwn setup.known logger

def threshold (setup : Setup) (logger : String) : Int :=
  if setup.isOwn logger && setup.level.weight != 0 then setup.level.weight else rootWeight

/-- Whether a logger lets a weight through. What was decided once stands until the next
configuration, even when loggers come up that change the way upwards. -/
def verdict (setup : Setup) (logger : String) (weight : Int) : Bool :=
  (setup.verdicts.lookup (logger, weight)).getD (0 < weight && setup.threshold logger ≤ weight)

def decided (setup : Setup) (logger : String) (weight : Int) : Setup :=
  { setup with verdicts := ((logger, weight), setup.verdict logger weight) :: setup.verdicts }

def handlersFor (setup : Setup) (logger : String) : List Handler :=
  if setup.isOwn logger then setup.handlers else []

def deliver (setup : Setup) (record : Record) : List Handler → Setup
  | [] => setup
  | handler :: rest => (setup.write handler.target (handler.line record)).deliver record rest

/-- Sends a record that was let through to all handlers. Where there are none, a record of weight
goes bare to the error stream. -/
def send (setup : Setup) (record : Record) : Setup :=
  match setup.handlersFor record.logger with
  | [] =>
    if rootWeight ≤ record.level.weight then setup.write .stream (record.message ++ "\n")
    else setup
  | handlers => setup.deliver record handlers

def emit (setup : Setup) (record : Record) : Setup :=
  let passes := setup.verdict record.logger record.level.weight
  let setup := setup.decided record.logger record.level.weight
  if passes then setup.send record else setup

def emitAll (setup : Setup) (notices : List Notice) : Setup :=
  notices.foldl
    (fun setup notice =>
      setup.emit ⟨notice.channel.name, .number notice.severity.level, notice.message⟩) setup

def meet (setup : Setup) (logger : String) : Setup :=
  if setup.known.contains logger then setup else { setup with known := logger :: setup.known }

end Setup

/-- Work on a setup that may fail; what it changed before that stays changed. -/
abbrev Changing := ExceptT Fault (StateM Setup)

def Changing.run (work : Changing Unit) (setup : Setup) : Except Fault Unit × Setup :=
  ExceptT.run work |>.run setup

def loggerOf : Value → Except Fault String
  | .str name => .ok name
  | value => if value.truthy then .error .loggerNotNamed else .ok ""

/-- Sends a record on its way. A level without a name of its own is written out for a record that is
let through, and this may be where it turns out to have too many digits. -/
def submit (record : Record) : Changing Unit := do
  let setup ← get
  if record.level.isNamed then set (setup.emit record)
  else
    set (setup.decided record.logger record.level.weight)
    if setup.verdict record.logger record.level.weight then throw (.tooManyDigits none)

def log (logger level : Value) (message : String) : Changing Unit := do
  let logger ← MonadExcept.ofExcept (loggerOf logger)
  modify (·.meet logger)
  match Level.ofValue? level with
  | some level => submit ⟨logger, level, message⟩
  | none => throw .levelNotWhole

structure Request where
  level : Value
  logFile : Value
  trace : Value
  propagate : Value

def refusalOf (path : String) : Refusal :=
  if Path.longest < path.utf8ByteSize then .tooLong else .notFound

def notOpenedText (path : String) : String :=
  "Could not create log file " ++ path ++ ": " ++
    (refusalOf (Path.tidied path)).describe (Path.tidied path)

def say (severity : Severity) (message : String) : Changing Unit :=
  modify (·.emit ⟨Hierarchy.ownName, .number severity.level, message⟩)

def openFile (canOpen : String → Bool) (trace : Bool) (path : String) : Changing Unit := do
  if path.toList.contains '\x00' then throw .nullInPath
  if canOpen (Path.tidied path) then
    let target := Target.file (Path.tidied path)
    modify fun setup =>
      { setup.write target "" with handlers := setup.handlers ++ [⟨target, trace⟩] }
    say .debug ("Logging to file: " ++ path)
  else say .warning (notOpenedText path)

/-- A level that is refused leaves everything as it was; whatever is wrong with a file is found only
after the rest has changed. -/
def configure (canOpen : String → Bool) (request : Request) : Changing Unit := do
  let level ← MonadExcept.ofExcept (resolve request.level)
  let trace := request.trace.truthy
  modify fun setup =>
    { setup with
      level, propagate := request.propagate, handlers := [⟨.stream, trace⟩], verdicts := [] }
  if request.logFile.truthy then
    match request.logFile with
    | .str path => openFile canOpen trace path
    | value => throw (.notAPath value.kind)

end Folio.Logging
