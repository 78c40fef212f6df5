/-! The sixteen kinds of a tree: the document itself, leaves, and branches that hold further nodes.
-/
namespace Folio.Tree

inductive LeafKind where
  | codeBlock | mathExpr | diagram | thematicBreak | text | inlineCode
  deriving DecidableEq

inductive BranchKind where
  | container | heading | paragraph | blockQuote | list | listItem | emphasis | strong | link
  deriving DecidableEq

inductive Kind where
  | document
  | leaf (kind : LeafKind)
  | branch (kind : BranchKind)
  deriving DecidableEq

def LeafKind.name : LeafKind → String
  | .codeBlock => "CodeBlock"
  | .mathExpr => "MathExpr"
  | .diagram => "Diagram"
  | .thematicBreak => "ThematicBreak"
  | .text => "Text"
  | .inlineCode => "InlineCode"

def BranchKind.name : BranchKind → String
  | .container => "Container"
  | .heading => "Heading"
  | .paragraph => "Paragraph"
  | .blockQuote => "BlockQuote"
  | .list => "List"
  | .listItem => "ListItem"
  | .emphasis => "Emphasis"
  | .strong => "Strong"
  | .link => "Link"

namespace Kind

def name : Kind → String
  | .document => "Document"
  | .leaf kind => kind.name
  | .branch kind => kind.name

def all : List Kind := [
  .document,
  .branch .container, .branch .heading, .branch .paragraph, .leaf .codeBlock, .leaf .mathExpr,
  .leaf .diagram, .branch .blockQuote, .branch .list, .branch .listItem, .leaf .thematicBreak,
  .leaf .text, .branch .emphasis, .branch .strong, .leaf .inlineCode, .branch .link]

def ofName? (name : String) : Option Kind := all.find? fun kind => kind.name == name

theorem ofName?_name (kind : Kind) : ofName? kind.name = some kind := by
  rcases kind with _ | kind | kind <;> (try cases kind) <;> decide +kernel

end Kind
end Folio.Tree
