import Folio.Tree.Node

/-! The nodes of a tree from left to right, every node before its children, and the names under
which a visitor meets them. -/
namespace Folio.Tree

mutual

def Node.preorder : Node → List Node
  | .leaf item metadata => [.leaf item metadata]
  | .branch frame children metadata =>
    .branch frame children metadata :: preorderAll children

def preorderAll : List Node → List Node
  | [] => []
  | node :: rest => node.preorder ++ preorderAll rest

end

def LeafKind.visitName : LeafKind → String
  | .codeBlock => "visit_code_block"
  | .mathExpr => "visit_math_expr"
  | .diagram => "visit_diagram"
  | .thematicBreak => "visit_thematic_break"
  | .text => "visit_text"
  | .inlineCode => "visit_inline_code"

def BranchKind.visitName : BranchKind → String
  | .container => "visit_container"
  | .heading => "visit_heading"
  | .paragraph => "visit_paragraph"
  | .blockQuote => "visit_block_quote"
  | .list => "visit_list"
  | .listItem => "visit_list_item"
  | .emphasis => "visit_emphasis"
  | .strong => "visit_strong"
  | .link => "visit_link"

def Node.visitName : Node → String
  | .leaf item _ => item.kind.visitName
  | .branch frame _ _ => frame.kind.visitName

/-- The visits that a tree receives: all of its nodes, or the outermost one alone. -/
def Node.visits (deep : Bool) (node : Node) : List String :=
  if deep then node.preorder.map Node.visitName else [node.visitName]

end Folio.Tree
