import Folio.Data.Display
import Folio.Files.Path
import Folio.Files.Refusal
import Folio.Json.Mishap
import Folio.Options.Kind
import Folio.Options.Theme
import Folio.Text.Utf8
import Folio.Tree.Kind

/-! Everything that can go wrong, as causes. One function words them all, another sorts them. -/
namespace Folio

open Number (decimalText digitsText)

inductive Fault where
  -- trees in the interchange form
  | notANode (got : Value.Kind)
  | unknownTag (tag : Value)
  | childrenNotAList (parent : Tree.BranchKind) (got : Value.Kind)
  | documentAsChild
  | missingField (kind : Tree.Kind) (field : String)
  | rootNotContainer (got : Tree.Kind)
  | levelNotInteger (got : Value.Kind)
  | levelTooSmall (level : Int)
  | notWritable (got : Value.Kind)
  | notJsonText (got : Value.Kind)
  | badJson (mishap : Json.Mishap)
  | tooManyDigits (count : Option Nat)
  | notAnObject (got : Value.Kind)
  | unsupportedVersion (version : Value)
  | badIndent (got : Value.Kind)
  | countTooGreat
  | outOfMemory
  -- values of the wrong kind
  | lacks (owner member : String)
  | memberNotNamed (got : Value.Kind)
  | notCallable (kind : String)
  | notIterable (got : Value.Kind)
  | notIndexable (got : Value.Kind)
  | missingKey (key : String)
  | emptyList
  | emptyText
  | notUnpackable (got : Value.Kind)
  | tooFewParts (count : Nat)
  | tooManyParts
  | noParts
  | notScannable (got : Value.Kind)
  | notJoinable (index : Nat) (got : Value.Kind)
  -- markup
  | noOpenTag
  | unclosed (tags : List String)
  | finished
  -- assets
  | missingGrammar (language : Value) (canonical : String)
  | missingFile (path : String)
  | refused (refusal : Files.Refusal) (path : String)
  | badUtf8 (mishap : Text.Utf8.Mishap)
  -- arguments
  | unexpectedArgument (callee argument : String)
  | repeatedArgument (callee argument : String)
  | missingArguments (callee : String) (arguments : List String)
  | tooManyArguments (callee : String) (least most given : Nat)
  | unknownProblem (name : String)
  -- options
  | blankTitle
  | unhashable (got : Value.Kind)
  | unknownTheme (field : String) (got : Value)
  | immutable (field : String)
  | wrongOptions (renderer : Value) (expected received : Options.Kind)
  -- logging
  | unknownLevel (text : String)
  | badLevel (described : String)
  | notAPath (got : Value.Kind)
  | nullInPath
  | loggerNotNamed
  | levelNotWhole

namespace Fault

inductive Category where
  | value | type | attribute | key | index | overflow | memory
  | json | utf8 | immutable | file (refusal : Files.Refusal)
  | tagStack | finished | missingAsset | wrongOptions
  deriving DecidableEq

def category : Fault → Category
  | .notANode _ | .unknownTag _ | .childrenNotAList .. | .documentAsChild | .missingField ..
  | .rootNotContainer _ | .levelNotInteger _ | .levelTooSmall _ | .notWritable _ | .notAnObject _
  | .unsupportedVersion _ | .tooFewParts _ | .tooManyParts | .noParts | .blankTitle
  | .unknownTheme .. | .unknownLevel _ | .tooManyDigits _ | .nullInPath => .value
  | .notJsonText _ | .badIndent _ | .notIterable _ | .notIndexable _ | .notUnpackable _
  | .notScannable _ | .notJoinable .. | .unexpectedArgument .. | .repeatedArgument ..
  | .missingArguments .. | .tooManyArguments .. | .unhashable _ | .badLevel _ | .notAPath _
  | .loggerNotNamed | .levelNotWhole | .memberNotNamed _ | .notCallable _ => .type
  | .lacks .. | .unknownProblem _ => .attribute
  | .missingKey _ => .key
  | .emptyList | .emptyText => .index
  | .countTooGreat => .overflow
  | .outOfMemory => .memory
  | .badJson _ => .json
  | .badUtf8 _ => .utf8
  | .immutable _ => .immutable
  | .refused refusal _ => .file refusal
  | .noOpenTag | .unclosed _ => .tagStack
  | .finished => .finished
  | .missingGrammar .. | .missingFile _ => .missingAsset
  | .wrongOptions .. => .wrongOptions

def enumerated : List String → String
  | [] => ""
  | [name] => name
  | [first, second] => first ++ " and " ++ second
  | names => ", ".intercalate names.dropLast ++ ", and " ++ names.getLastD ""

def optionsMismatch (renderer expected received : String) : String :=
  renderer ++ " expected options of type '" ++ expected ++ "' but received '" ++ received ++ "'."

def digitLimitText : String :=
  "Exceeds the limit (" ++ digitsText Number.digitLimit ++ " digits) for integer string conversion"

def arityText (least most : Nat) : String :=
  if least == most then
    digitsText most ++ " positional argument" ++ (if most == 1 then "" else "s")
  else "from " ++ digitsText least ++ " to " ++ digitsText most ++ " positional arguments"

def message : Fault → String
  | .notANode got => "Expected a node object, got " ++ got.name
  | .unknownTag tag => "Unknown node type: " ++ tag.quoted
  | .childrenNotAList parent got => parent.name ++ " children must be a list, got " ++ got.name
  | .documentAsChild => "Document is only valid at the top level, not as a child node"
  | .missingField kind field =>
    kind.name ++ " node is missing required field " ++ Text.Quoted.encoded field
  | .rootNotContainer got => "Document root must be a Container, got " ++ got.name
  | .levelNotInteger got => "Heading level must be an integer, got " ++ got.name
  | .levelTooSmall level => "Heading level must be >= 1, got " ++ decimalText level
  | .notWritable got => "Unknown node type for serialization: " ++ got.name
  | .notJsonText got => "the JSON object must be str, bytes or bytearray, not " ++ got.name
  | .badJson mishap =>
    mishap.cause.text ++ ": line " ++ digitsText mishap.line ++ " column " ++
      digitsText mishap.column ++ " (char " ++ digitsText mishap.offset ++ ")"
  | .tooManyDigits count => digitLimitText ++
      (match count with
        | some count => ": value has " ++ digitsText count ++ " digits"
        | none => "") ++ "; use sys.set_int_max_str_digits() to increase the limit"
  | .notAnObject got => "Expected a JSON object, got " ++ got.name
  | .unsupportedVersion version =>
    "Unsupported schema version: " ++ version.display ++ ". Only version 1 is supported."
  | .badIndent got => "can't multiply sequence by non-int of type '" ++ got.name ++ "'"
  | .countTooGreat => "cannot fit 'int' into an index-sized integer"
  | .outOfMemory => ""
  | .lacks owner member => "'" ++ owner ++ "' object has no attribute '" ++ member ++ "'"
  | .memberNotNamed got => "attribute name must be string, not '" ++ got.name ++ "'"
  | .notCallable kind => "'" ++ kind ++ "' object is not callable"
  | .notIterable got => "'" ++ got.name ++ "' object is not iterable"
  | .notIndexable got => "'" ++ got.name ++ "' object is not subscriptable"
  | .missingKey key => key
  | .emptyList => "list index out of range"
  | .emptyText => "string index out of range"
  | .notUnpackable got => "cannot unpack non-iterable " ++ got.name ++ " object"
  | .tooFewParts count =>
    "not enough values to unpack (expected 2, got " ++ digitsText count ++ ")"
  | .tooManyParts => "too many values to unpack (expected 2)"
  | .noParts => "not enough values to unpack (expected at least 1, got 0)"
  | .notScannable got => "expected string or bytes-like object, got '" ++ got.name ++ "'"
  | .notJoinable index got =>
    "sequence item " ++ digitsText index ++ ": expected str instance, " ++ got.name ++ " found"
  | .noOpenTag => "end_tag() called with no open tag: every end_tag needs a matching start_tag"
  | .unclosed tags =>
    "Cannot finalize HTML with " ++ digitsText tags.length ++ " unclosed tag(s): " ++
      ", ".intercalate (tags.map fun tag => "<" ++ tag ++ ">")
  | .finished => "HtmlSerializer was already finalized by into_result()"
  | .missingGrammar language _ => "No Prism plugin is bundled for language " ++ language.quoted
  | .missingFile path => "Asset " ++ path ++ " not found in " ++ Files.Path.root
  | .refused refusal path => refusal.describe path
  | .badUtf8 mishap => mishap.message
  | .unexpectedArgument callee argument =>
    callee ++ "() got an unexpected keyword argument '" ++ argument ++ "'"
  | .repeatedArgument callee argument =>
    callee ++ "() got multiple values for argument '" ++ argument ++ "'"
  | .tooManyArguments callee least most given =>
    callee ++ "() takes " ++ arityText least most ++ " but " ++ digitsText given ++ " were given"
  | .missingArguments callee names =>
    callee ++ "() missing " ++ digitsText names.length ++
      " required positional argument" ++ (if names.length == 1 then "" else "s") ++ ": " ++
      enumerated (names.map fun name => "'" ++ name ++ "'")
  | .unknownProblem name => "module 'knots.exceptions' has no attribute '" ++ name ++ "'"
  | .blankTitle => "summary_title must not be empty"
  | .unhashable got => "unhashable type: '" ++ got.name ++ "'"
  | .unknownTheme field got =>
    field ++ " must be one of " ++ Options.Theme.names.quoted ++ ", got " ++ got.quoted
  | .immutable field => "cannot assign to field " ++ Text.Quoted.encoded field
  | .wrongOptions renderer expected received =>
    optionsMismatch renderer.display expected.name received.name
  | .unknownLevel text => "Unknown level: " ++ Text.Quoted.encoded text
  | .badLevel described => "Level not an integer or a valid string: " ++ described
  | .notAPath got => "expected str, bytes or os.PathLike object, not " ++ got.name
  | .nullInPath => "embedded null byte"
  | .loggerNotNamed => "A logger name must be a string"
  | .levelNotWhole => "level must be an integer"

/-- The values that the message shows, besides texts and counts. -/
def shown : Fault → List Value
  | .unknownTag value | .unsupportedVersion value | .unknownTheme _ value
  | .missingGrammar value _ | .wrongOptions value _ _ => [value]
  | .levelTooSmall level => [.int level]
  | _ => []

/-- The message, put together from what it shows. -/
def worded (fault : Fault) : Except Fault String :=
  if fault.shown.all Value.isWritable then .ok fault.message else .error (.tooManyDigits none)

/-- The fault that is met where this one is raised: its message is put together first. -/
def raised (fault : Fault) : Fault :=
  match fault.worded with
  | .ok _ => fault
  | .error other => other

def openTags : Fault → List String
  | .unclosed tags => tags
  | _ => []

def assetName : Fault → String
  | .missingGrammar _ canonical => canonical
  | .missingFile path => path
  | _ => ""

end Fault

def Value.text? (member : String) : Value → Except Fault String
  | .str s => .ok s
  | value => .error (.lacks value.kind.name member)

def Value.shown (value : Value) : Except Fault String :=
  if value.isWritable then .ok value.display else .error (.tooManyDigits none)

theorem Value.shown_cases (value : Value) :
    value.shown = .ok value.display ∨ value.shown = .error (.tooManyDigits none) := by
  unfold Value.shown
  split
  · exact .inl rfl
  · exact .inr rfl

end Folio
