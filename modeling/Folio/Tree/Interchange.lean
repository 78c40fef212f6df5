import Folio.Noted
import Folio.Tree.Node

/-! The interchange form of a tree: objects tagged with the kind of node they describe. Loading is
strict, where anything that is no node is an error, or lenient, where an empty text takes its place
and a warning is given. Writing puts the fields of every kind in one fixed order. -/
namespace Folio.Tree

def placeholder : Node := .leaf (.text (.str "")) (.object [])

/-- What is no node is an error, or an empty text takes its place for a warning. The message for
either is put together first, and it may be that it cannot be. -/
def reject (strict : Bool) (fault : Fault) : Noted Node := do
  let message ← MonadExcept.ofExcept fault.worded
  if strict then throw fault
  else
    Noted.note ⟨.warning, .interchange, message ++ ", replacing with empty text"⟩
    pure placeholder

def require (kind : Kind) (field : String) (fields : Fields) : Noted Value :=
  match fields.lookup field with
  | some value => pure value
  | none => throw (.missingField kind field)

def field (name : String) (absent : Value) (fields : Fields) : Value :=
  (fields.lookup name).getD absent

def metadata (fields : Fields) : Value := field "metadata" (.object []) fields

def tagOf (fields : Fields) : Value := field "node_type" .null fields

def kindOf? (fields : Fields) : Option Kind :=
  match tagOf fields with
  | .str name => Kind.ofName? name
  | _ => none

def loadLeaf (kind : LeafKind) (fields : Fields) : Noted Leaf :=
  match kind with
  | .codeBlock => do
    let source ← require (.leaf kind) "source" fields
    pure (.codeBlock (field "language" (.str "") fields) source)
  | .mathExpr => do
    let source ← require (.leaf kind) "source" fields
    pure (.mathExpr source (field "display_mode" (.bool false) fields).truthy)
  | .diagram => .diagram <$> require (.leaf kind) "source" fields
  | .thematicBreak => pure .thematicBreak
  | .text => .text <$> require (.leaf kind) "content" fields
  | .inlineCode => .inlineCode <$> require (.leaf kind) "content" fields

/-- A heading's level: a whole number from 1 up, which a boolean is not. -/
def levelOf : Value → Except Fault Nat
  | .int level => if level < 1 then .error (Fault.levelTooSmall level).raised else .ok level.toNat
  | value => .error (.levelNotInteger value.kind)

/-- Looks up a branch's own fields. They have to be there before the children are loaded, but a
level is judged only afterwards, so the result is still to be checked. -/
def loadBranch (kind : BranchKind) (fields : Fields) : Noted (Except Fault Branch) :=
  match kind with
  | .container => pure (.ok (.container (field "css_class" .null fields)))
  | .heading => do
    let level ← require (.branch kind) "level" fields
    let anchor ← require (.branch kind) "anchor" fields
    let title ← require (.branch kind) "title" fields
    pure ((levelOf level).map fun level => .heading level anchor title)
  | .paragraph => pure (.ok .paragraph)
  | .blockQuote => pure (.ok .blockQuote)
  | .list => pure (.ok (.list (field "ordered" (.bool false) fields).truthy))
  | .listItem => pure (.ok .listItem)
  | .emphasis => pure (.ok .emphasis)
  | .strong => pure (.ok .strong)
  | .link => do
    let url ← require (.branch kind) "url" fields
    pure (.ok (.link url))

def loadAuthors (fields : Fields) : Noted (List Value) :=
  let value := field "authors" (.list []) fields
  match value.elements? with
  | some authors => pure authors
  | none => throw (.notIterable value.kind)

def asRoot : Loaded → Noted Root
  | .node (.branch (.container cssClass) children metadata) => pure ⟨children, cssClass, metadata⟩
  | other => throw (.rootNotContainer other.kind)

def asChild (strict : Bool) : Loaded → Noted Node
  | .node tree => pure tree
  | .document _ => reject strict .documentAsChild

mutual

def load (strict : Bool) : Value → Noted Loaded
  | .object fields =>
    match kindOf? fields with
    | none => .node <$> reject strict (.unknownTag (tagOf fields))
    | some .document => do
      let root ← loadRoot strict fields
      let title ← require .document "title" fields
      let authors ← loadAuthors fields
      pure (.document ⟨title, authors, field "license" .null fields, root⟩)
    | some (.leaf kind) => do
      let item ← loadLeaf kind fields
      pure (.node (.leaf item (metadata fields)))
    | some (.branch kind) => do
      let checked ← loadBranch kind fields
      let children ← loadChildren strict kind fields
      let frame ← MonadExcept.ofExcept checked
      pure (.node (.branch frame children (metadata fields)))
  | value => .node <$> reject strict (.notANode value.kind)

def loadChildren (strict : Bool) (parent : BranchKind) : Fields → Noted (List Node)
  | [] => pure []
  | (name, value) :: rest =>
    if name == "children" then loadChildList strict parent value
    else loadChildren strict parent rest

def loadChildList (strict : Bool) (parent : BranchKind) : Value → Noted (List Node)
  | .list items => loadItems strict items
  | value => do
    let _ ← reject strict (.childrenNotAList parent value.kind)
    pure []

def loadItems (strict : Bool) : List Value → Noted (List Node)
  | [] => pure []
  | item :: rest => do
    let loaded ← load strict item
    let node ← asChild strict loaded
    let nodes ← loadItems strict rest
    pure (node :: nodes)

def loadRoot (strict : Bool) : Fields → Noted Root
  | [] => pure .empty
  | (name, value) :: rest =>
    if name == "root" then do
      let loaded ← load strict value
      asRoot loaded
    else loadRoot strict rest

end

def Leaf.fields : Leaf → Fields
  | .codeBlock language source => [("language", language), ("source", source)]
  | .mathExpr source display => [("source", source), ("display_mode", .bool display)]
  | .diagram source => [("source", source)]
  | .thematicBreak => []
  | .text content => [("content", content)]
  | .inlineCode content => [("content", content)]

def Branch.leading : Branch → Fields
  | .heading level anchor title => [("level", .int level), ("anchor", anchor), ("title", title)]
  | _ => []

/-- The fields written after the metadata; a container without a class has none. -/
def Branch.trailing : Branch → Fields
  | .container .null => []
  | .container cssClass => [("css_class", cssClass)]
  | .list ordered => [("ordered", .bool ordered)]
  | .link url => [("url", url)]
  | _ => []

def tagField (kind : Kind) : String × Value := ("node_type", .str kind.name)

mutual

def Node.write : Node → Value
  | .leaf item metadata =>
    .object (tagField (.leaf item.kind) :: item.fields ++ [("metadata", metadata)])
  | .branch frame children metadata =>
    .object (tagField (.branch frame.kind) :: frame.leading ++
      [("children", .list (writeAll children)), ("metadata", metadata)] ++ frame.trailing)

def writeAll : List Node → List Value
  | [] => []
  | node :: rest => node.write :: writeAll rest

end

def Document.write (document : Document) : Value :=
  .object [tagField .document, ("title", document.title), ("authors", .list document.authors),
    ("license", document.license), ("root", document.root.node.write)]

def Loaded.write : Loaded → Value
  | .document described => described.write
  | .node tree => tree.write

/-- Plain data is no tree and has no written form, whatever it looks like. -/
def writePlain (value : Value) : Except Fault Value := .error (.notWritable value.kind)

end Folio.Tree
