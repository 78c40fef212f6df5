import Folio.Signature

/-! Problem reports that callers make themselves: a family of classes, what each takes to be made,
and the attributes that a report carries afterwards. -/
namespace Folio.Problem

inductive Class where
  | general | validation | invalidOptions | rendering | tagStack | finished | missingAsset
  deriving DecidableEq

namespace Class

def name : Class → String
  | .general => "KnotsError"
  | .validation => "ValidationError"
  | .invalidOptions => "InvalidOptionsError"
  | .rendering => "RenderingError"
  | .tagStack => "TagStackError"
  | .finished => "SerializerFinalizedError"
  | .missingAsset => "MissingAssetError"

def all : List Class :=
  [.general, .validation, .invalidOptions, .rendering, .tagStack, .finished, .missingAsset]

def ofName? (name : String) : Option Class := all.find? fun c => c.name == name

def ofValue : Value → Except Fault Class
  | .str name =>
    match ofName? name with
    | some c => .ok c
    | none => .error (.unknownProblem name)
  | value => .error (.memberNotNamed value.kind)

def lineage : Class → List Class
  | .general => [.general]
  | .validation => [.validation, .general]
  | .invalidOptions => [.invalidOptions, .validation, .general]
  | .rendering => [.rendering, .general]
  | .tagStack => [.tagStack, .rendering, .general]
  | .finished => [.finished, .rendering, .general]
  | .missingAsset => [.missingAsset, .rendering, .general]

def lineageNames (c : Class) : List String := c.lineage.map name ++ ["Exception"]

/-- The class that says how reports are made; two classes leave it to the most general one. -/
def maker : Class → Class
  | .rendering | .finished => .general
  | c => c

def signature : Class → Signature
  | .validation => ⟨["message"], ["parameter_name", "parameter_value", "original_error"]⟩
  | .invalidOptions =>
    ⟨["renderer_name", "expected_type", "received_type"], ["message", "original_error"]⟩
  | .tagStack => ⟨["message"], ["open_tags"]⟩
  | .missingAsset => ⟨["message", "asset_name"], []⟩
  | .general | .rendering | .finished => ⟨["message"], ["original_error"]⟩

end Class

/-- What a report is made from: plain data, a kind of options, or the text of an earlier failure. -/
inductive Argument where
  | plain (value : Value)
  | options (kind : Options.Kind)
  | failure (text : String)

namespace Argument

def ofNamed (name : String) (value : Value) : Argument :=
  match name, value with
  | "expected_type", .str "html" | "received_type", .str "html" => .options .page
  | "expected_type", .str "base" | "received_type", .str "base" => .options .base
  | "original_error", value => .failure value.display
  | _, value => .plain value

def shown : Argument → Value
  | .plain value => value
  | .options kind => .str kind.name
  | .failure text => .str text

def kindName : Argument → Except Fault String
  | .options kind => .ok kind.name
  | argument => .error (.lacks argument.shown.kind.name "__name__")

end Argument

abbrev Arguments := List (String × Argument)

structure Report where
  text : String
  attributes : Fields

def shownOr (absent : Value) (given : Arguments) (name : String) : Value :=
  ((given.lookup name).map Argument.shown).getD absent

/-- Options of the wrong kind are described unless a message is given. -/
def optionsMessage (given : Arguments) : Except Fault Value :=
  let get := shownOr .null given
  match get "message", given.lookup "expected_type", given.lookup "received_type" with
  | .null, some expected, some received => do
    let expectedName ← expected.kindName
    let receivedName ← received.kindName
    let renderer ← (get "renderer_name").shown
    .ok (.str (Fault.optionsMismatch renderer expectedName receivedName))
  | message, _, _ => .ok message

def general (message : Value) (given : Arguments) : Fields :=
  [("message", message), ("original_error", shownOr (.str "None") given "original_error")]

def attributesOf (c : Class) (given : Arguments) : Except Fault (Value × Fields) := do
  let get := shownOr .null given
  let message := get "message"
  match c with
  | .general | .rendering | .finished => .ok (message, general message given)
  | .validation =>
    .ok (message, general message given ++
      [("parameter_name", get "parameter_name"), ("parameter_value", get "parameter_value")])
  | .invalidOptions =>
    let message ← optionsMessage given
    .ok (message, general message given ++
      [("parameter_name", .str "options"), ("parameter_value", get "received_type"),
        ("renderer_name", get "renderer_name"), ("expected_type", get "expected_type"),
        ("received_type", get "received_type")])
  | .tagStack =>
    let tags := shownOr (.list []) given "open_tags"
    match tags.elements? with
    | some tags => .ok (message, general message given ++ [("open_tags", .list tags)])
    | none => .error (.notIterable tags.kind)
  | .missingAsset =>
    .ok (message, general message given ++ [("asset_name", get "asset_name")])

def make (c : Class) (given : Arguments) : Except Fault Report := do
  c.maker.signature.checkNames (Signature.maker c.maker.name) (given.map Prod.fst)
  let (message, attributes) ← attributesOf c given
  let text ← message.shown
  .ok ⟨text, attributes⟩

end Folio.Problem
