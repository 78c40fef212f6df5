import Folio.Markup.Writer
import Folio.Signature

/-! Steps of writing given as plain data, where names, attributes and contents may be any value. The
attributes of a tag are judged one after the other, and the tag's name last of all. -/
namespace Folio.Markup

inductive Call where
  | startTag (name attrs : Value)
  | endTag
  | orphanTag (name attrs : Value)
  | inlineTag (name attrs content : Value)
  | writeContent (text : Value)
  | writeRaw (piece : Value)
  | finish

def pairOf (value : Value) : Except Fault (Value × Value) :=
  match value.elements? with
  | none => .error (.notUnpackable value.kind)
  | some [name, content] => .ok (name, content)
  | some parts => .error (if parts.length < 2 then .tooFewParts parts.length else .tooManyParts)

def looseAttributes : List Value → Except Fault (List String)
  | [] => .ok []
  | entry :: rest => do
    let (name, value) ← pairOf entry
    let shown ← name.shown
    let first ← attributeText shown value
    let others ← looseAttributes rest
    .ok (first :: others)

def looseTag (name attrs : Value) : Except Fault String := do
  let entries ←
    match attrs.elements? with
    | some entries => .ok entries
    | none => .error (.notIterable attrs.kind)
  let parts ← looseAttributes entries
  match name with
  | .str name => .ok (between (name :: parts))
  | name => .error (.notJoinable 0 name.kind)

namespace Call

def silent (step : Writing Unit) : Writing (Option String) := do
  step
  pure none

def run : Call → Writing (Option String)
  | .startTag name attrs => silent <| Writer.openWith name.display (looseTag name attrs)
  | .endTag => silent <| Writer.endTag
  | .orphanTag name attrs => silent <| Writer.orphanWith (looseTag name attrs)
  | .inlineTag name attrs content =>
    silent <| Writer.inlineWith name.display (looseTag name attrs) content
  | .writeContent text => silent <| Writer.writeContent text
  | .writeRaw piece => silent <| Writer.writeRaw piece
  | .finish => some <$> Writer.finish

def interface : Interface where
  owner := "HtmlSerializer"
  calls := [
    ("start_tag", ⟨["name"], ["attrs"]⟩), ("end_tag", ⟨[], []⟩),
    ("orphan_tag", ⟨["name"], ["attrs"]⟩), ("inline_tag", ⟨["name", "attrs", "content"], []⟩),
    ("write_content", ⟨["text"], []⟩), ("write_raw", ⟨["text"], []⟩), ("into_result", ⟨[], []⟩)]
  members := [
    ("depth", "int"), ("open_tags", "tuple"), ("_output", "list"), ("_tag_stack", "list"),
    ("_finalized", "bool")]

def ofNamed? : String → List Value → Option Call
  | "start_tag", [name] => some (.startTag name (.list []))
  | "start_tag", [name, attrs] => some (.startTag name attrs)
  | "end_tag", [] => some .endTag
  | "orphan_tag", [name] => some (.orphanTag name (.list []))
  | "orphan_tag", [name, attrs] => some (.orphanTag name attrs)
  | "inline_tag", [name, attrs, content] => some (.inlineTag name attrs content)
  | "write_content", [text] => some (.writeContent text)
  | "write_raw", [piece] => some (.writeRaw piece)
  | "into_result", [] => some .finish
  | _, _ => none

def partsOf (value : Value) : Except Fault (List Value) :=
  match value.elements? with
  | some parts => .ok parts
  | none => .error (.notIterable value.kind)

def arrangedAttributes (attrs : Value) : Except Fault Value := do
  let entries ← partsOf attrs
  let rows ← entries.mapM partsOf
  .ok (.list (rows.map Value.list))

def takesAttributes (name : String) : Bool :=
  name == "start_tag" || name == "orphan_tag" || name == "inline_tag"

def arranged : Value → List Value → Except Fault (List Value)
  | .str name, first :: attrs :: rest =>
    if takesAttributes name then
      (arrangedAttributes attrs).map fun attrs => first :: attrs :: rest
    else .ok (first :: attrs :: rest)
  | _, args => .ok args

/-- A call by the name of its step. What cannot be taken apart as attributes is found before
anything else is wrong with the call. -/
def ofNamed (name : Value) (args : List Value) : Except Fault Call := do
  interface.resolve ofNamed? name (← arranged name args)

end Call
end Folio.Markup
