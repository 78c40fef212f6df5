import Folio.Markup.Tag

/-! A writer of markup. It keeps the pieces written so far and the tags still open, innermost last,
and hands out the whole text once, when nothing is open any more. A step that fails changes nothing,
but for two: an element written in one step may get as far as its content and then stays open, and a
writer whose pieces turn out not to be texts is finished all the same. -/
namespace Folio.Markup

structure Writer where
  pieces : Array Value
  stack : List String
  isFinished : Bool

abbrev Writing := ExceptT Fault (StateM Writer)

namespace Writer

def empty : Writer := ⟨#[], [], false⟩

def push (writer : Writer) (piece : Value) : Writer :=
  { writer with pieces := writer.pieces.push piece }

/-- A text followed by pieces; a piece that is no text is reported by its place. -/
def joinOnto (text : String) (index : Nat) : List Value → Except Fault String
  | [] => .ok text
  | .str piece :: rest => joinOnto (text ++ piece) (index + 1) rest
  | piece :: _ => .error (.notJoinable index piece.kind)

def text (writer : Writer) : Except Fault String := joinOnto "" 0 writer.pieces.toList

def textSince (writer earlier : Writer) : Except Fault String := do
  let _ ← writer.text
  joinOnto "" 0 (writer.pieces.toList.drop earlier.pieces.size)

def checkUnfinished : Writing Unit := do
  if (← get).isFinished then throw .finished

def append (piece : Value) : Writing Unit := modify (·.push piece)

def openWith (name : String) (tag : Except Fault String) : Writing Unit := do
  checkUnfinished
  let text ← MonadExcept.ofExcept tag
  modify fun writer => { writer.push (.str text) with stack := writer.stack ++ [name] }

def orphanWith (tag : Except Fault String) : Writing Unit := do
  checkUnfinished
  let text ← MonadExcept.ofExcept tag
  append (.str text)

def startTag (name : String) (attrs : Attributes) : Writing Unit :=
  openWith name (openingTag name attrs)

def orphanTag (name : String) (attrs : Attributes) : Writing Unit :=
  orphanWith (openingTag name attrs)

def endTag : Writing Unit := do
  checkUnfinished
  let writer ← get
  match writer.stack.getLast? with
  | none => throw .noOpenTag
  | some name =>
    set { writer.push (.str (closingTag name)) with stack := writer.stack.dropLast }

def writeContent (text : Value) : Writing Unit := do
  checkUnfinished
  let escaped ← MonadExcept.ofExcept (escape text)
  append (.str escaped)

def writeRaw (piece : Value) : Writing Unit := do
  checkUnfinished
  append piece

def inlineWith (name : String) (tag : Except Fault String) (content : Value) : Writing Unit := do
  openWith name tag
  writeContent content
  endTag

def inlineTag (name : String) (attrs : Attributes) (content : Value) : Writing Unit :=
  inlineWith name (openingTag name attrs) content

/-- The whole text. The writer counts as finished once nothing is open. -/
def finish : Writing String := do
  checkUnfinished
  let writer ← get
  if writer.stack.isEmpty then
    set { writer with isFinished := true }
    MonadExcept.ofExcept writer.text
  else throw (.unclosed writer.stack)

end Writer

def Writing.run {α : Type} (step : Writing α) (writer : Writer) : Except Fault α × Writer :=
  ExceptT.run step |>.run writer

end Folio.Markup
