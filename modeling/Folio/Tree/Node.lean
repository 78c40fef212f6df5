import Folio.Data.Value
import Folio.Tree.Kind

/-! Document trees. A node is a leaf or a branch over further nodes and carries metadata that
nothing but the interchange form looks at. Fields hold whatever values they were given; what a sound
tree holds in them is said by `WellTyped`. -/
namespace Folio.Tree

inductive Leaf where
  | codeBlock (language source : Value)
  | mathExpr (source : Value) (display : Bool)
  | diagram (source : Value)
  | thematicBreak
  | text (content : Value)
  | inlineCode (content : Value)

/-- A container without a class has `null` for it. -/
inductive Branch where
  | container (cssClass : Value)
  | heading (level : Nat) (anchor title : Value)
  | paragraph
  | blockQuote
  | list (ordered : Bool)
  | listItem
  | emphasis
  | strong
  | link (url : Value)

inductive Node where
  | leaf (item : Leaf) (metadata : Value)
  | branch (frame : Branch) (children : List Node) (metadata : Value)

structure Root where
  children : List Node
  cssClass : Value
  metadata : Value

structure Document where
  title : Value
  authors : List Value
  license : Value
  root : Root

inductive Loaded where
  | document (document : Document)
  | node (tree : Node)

def Root.node (root : Root) : Node := .branch (.container root.cssClass) root.children root.metadata

def Root.empty : Root := ⟨[], .null, .object []⟩

def Leaf.kind : Leaf → LeafKind
  | .codeBlock .. => .codeBlock
  | .mathExpr .. => .mathExpr
  | .diagram _ => .diagram
  | .thematicBreak => .thematicBreak
  | .text _ => .text
  | .inlineCode _ => .inlineCode

def Branch.kind : Branch → BranchKind
  | .container _ => .container
  | .heading .. => .heading
  | .paragraph => .paragraph
  | .blockQuote => .blockQuote
  | .list _ => .list
  | .listItem => .listItem
  | .emphasis => .emphasis
  | .strong => .strong
  | .link _ => .link

def Node.kind : Node → Kind
  | .leaf item _ => .leaf item.kind
  | .branch frame _ _ => .branch frame.kind

def Loaded.kind : Loaded → Kind
  | .document _ => .document
  | .node tree => tree.kind

def Leaf.alike : Leaf → Leaf → Bool
  | .codeBlock language source, .codeBlock language' source' =>
    language.alike language' && source.alike source'
  | .mathExpr source display, .mathExpr source' display' =>
    source.alike source' && display == display'
  | .diagram source, .diagram source' => source.alike source'
  | .thematicBreak, .thematicBreak => true
  | .text content, .text content' => content.alike content'
  | .inlineCode content, .inlineCode content' => content.alike content'
  | _, _ => false

def Branch.alike : Branch → Branch → Bool
  | .container cssClass, .container cssClass' => cssClass.alike cssClass'
  | .heading level anchor title, .heading level' anchor' title' =>
    level == level' && anchor.alike anchor' && title.alike title'
  | .paragraph, .paragraph => true
  | .blockQuote, .blockQuote => true
  | .list ordered, .list ordered' => ordered == ordered'
  | .listItem, .listItem => true
  | .emphasis, .emphasis => true
  | .strong, .strong => true
  | .link url, .link url' => url.alike url'
  | _, _ => false

mutual

def Node.alike : Node → Node → Bool
  | .leaf item metadata, .leaf item' metadata' => item.alike item' && metadata.alike metadata'
  | .branch frame children metadata, .branch frame' children' metadata' =>
    frame.alike frame' && allAlike children children' && metadata.alike metadata'
  | _, _ => false

def allAlike : List Node → List Node → Bool
  | [], [] => true
  | node :: rest, node' :: rest' => node.alike node' && allAlike rest rest'
  | _, _ => false

end

def Document.alike (left right : Document) : Bool :=
  left.title.alike right.title && Value.itemsAlike left.authors right.authors &&
    left.license.alike right.license && left.root.node.alike right.root.node

def Loaded.alike : Loaded → Loaded → Bool
  | .document left, .document right => left.alike right
  | .node left, .node right => left.alike right
  | _, _ => false

def IsText : Value → Prop
  | .str _ => True
  | _ => False

def Leaf.WellTyped : Leaf → Prop
  | .codeBlock language source => IsText language ∧ IsText source
  | .mathExpr source _ => IsText source
  | .diagram source => IsText source
  | .thematicBreak => True
  | .text content => IsText content
  | .inlineCode content => IsText content

def Branch.WellTyped : Branch → Prop
  | .container cssClass => IsText cssClass ∨ cssClass = .null
  | .heading level anchor title => 1 ≤ level ∧ IsText anchor ∧ IsText title
  | .link url => IsText url
  | _ => True

mutual

def Node.WellTyped : Node → Prop
  | .leaf item _ => item.WellTyped
  | .branch frame children _ => frame.WellTyped ∧ AllWellTyped children

def AllWellTyped : List Node → Prop
  | [] => True
  | node :: rest => node.WellTyped ∧ AllWellTyped rest

end

def Document.WellTyped (document : Document) : Prop :=
  IsText document.title ∧ (∀ author ∈ document.authors, IsText author) ∧
    (IsText document.license ∨ document.license = .null) ∧ document.root.node.WellTyped

end Folio.Tree
