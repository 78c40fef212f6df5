import Folio.Proofs.Render.Page
import Mathlib.Logic.Relation

/-! What is invisible of a tree. Metadata is not looked at, and a container without a class is no more
than its children; the one thing that counts besides is whether a heading has anything under it. So a
tree is rendered by its marks, which leave metadata and such containers out, and by what its headings say
about themselves. -/
namespace Folio.Tree

/-- Classes that give a container no element. -/
def IsBare (cssClass : Value) : Prop := cssClass = .null ∨ cssClass = .str ""

def Node.relabelled (metadata : Value) : Node → Node
  | .leaf item _ => .leaf item metadata
  | .branch frame children _ => .branch frame children metadata

/-- One edit of a row of siblings: metadata is changed, or a container without a class gives way to its
children. It is made anywhere in the row and at any depth. -/
inductive Edited : List Node → List Node → Prop
  | relabelled (node : Node) (metadata : Value) : Edited [node] [node.relabelled metadata]
  | spliced {cssClass : Value} (bare : IsBare cssClass) (children : List Node) (metadata : Value) :
      Edited [.branch (.container cssClass) children metadata] children
  | amid (front back : List Node) {left right : List Node} (edited : Edited left right) :
      Edited (front ++ left ++ back) (front ++ right ++ back)
  | inside (frame : Branch) (metadata : Value) {left right : List Node} (edited : Edited left right) :
      Edited [.branch frame left metadata] [.branch frame right metadata]

/-- Rows that edits lead to from one another. An edit that is taken back wraps a run of siblings. -/
def Regrouped : List Node → List Node → Prop := Relation.EqvGen Edited

/-- Of a heading, whether it has anything under it. -/
def Node.section? : Node → Option Bool
  | .branch (.heading ..) children _ => some (!children.isEmpty)
  | _ => none

def sections (nodes : List Node) : List Bool := (preorderAll nodes).filterMap Node.section?

/-- Documents that differ in metadata and in how their nodes are grouped. The headings of both are the
same, and none has something under it in one and nothing in the other. -/
structure Document.Regrouped (left right : Document) : Prop where
  title : left.title = right.title
  authors : left.authors = right.authors
  license : left.license = right.license
  root : Tree.Regrouped [left.root.node] [right.root.node]
  sections : Tree.sections [left.root.node] = Tree.sections [right.root.node]

inductive Mark where
  | leaf (item : Leaf)
  | enter (frame : Branch)
  | leave

def Branch.isBare : Branch → Bool
  | .container cssClass => !cssClass.truthy
  | _ => false

mutual

/-- A tree without metadata and without the containers that have no class. -/
def Node.marks : Node → List Mark
  | .leaf item _ => [.leaf item]
  | .branch frame children _ =>
    if frame.isBare then marksAll children else .enter frame :: marksAll children ++ [.leave]

def marksAll : List Node → List Mark
  | [] => []
  | node :: rest => node.marks ++ marksAll rest

end

theorem marksAll_append (left right : List Node) :
    marksAll (left ++ right) = marksAll left ++ marksAll right := by
  induction left with
  | nil => rfl
  | cons node rest ih => simp [marksAll, ih]

theorem isBare_container {cssClass : Value} (bare : IsBare cssClass) :
    (Branch.container cssClass).isBare = true := by
  rcases bare with rfl | rfl <;> rfl

theorem Edited.marks_eq {left right : List Node} (edited : Edited left right) :
    marksAll left = marksAll right := by
  induction edited with
  | relabelled node metadata => cases node <;> simp [marksAll, Node.relabelled, Node.marks]
  | spliced bare children metadata => simp [marksAll, Node.marks, isBare_container bare]
  | amid front back _ ih => simp [marksAll_append, ih]
  | inside frame metadata _ ih => simp [marksAll, Node.marks, ih]

theorem Regrouped.marks_eq {left right : List Node} (regrouped : Regrouped left right) :
    marksAll left = marksAll right := by
  induction regrouped with
  | rel _ _ edited => exact edited.marks_eq
  | refl _ => rfl
  | symm _ _ _ ih => exact ih.symm
  | trans _ _ _ _ _ first second => exact first.trans second

theorem sections_cons (node : Node) (rest : List Node) :
    sections (node :: rest) = sections [node] ++ sections rest := by
  simp [sections, preorderAll]

theorem sections_branch (frame : Branch) (children : List Node) (metadata : Value) :
    sections [.branch frame children metadata] =
      (Node.section? (.branch frame children metadata)).toList ++ sections children := by
  cases found : Node.section? (.branch frame children metadata) <;>
    simp [sections, preorderAll, Node.preorder, found]

end Folio.Tree

namespace Folio.Render

open Markup (Writer)
open Folio.Tree (Branch Document Mark Node marksAll sections)

/-- What a branch is told of having children. Only a heading asks, and its answer is used up. -/
def answered : Branch → List Bool → Bool × List Bool
  | .heading .., answer :: rest => (answer, rest)
  | _, answers => (true, answers)

/-- Goes along marks. Of every branch that is open it is known whether an element was. -/
def retrace (setting : Setting) : List Bool → List Bool → List Mark → Rendering Unit
  | opened, answers, .leaf item :: rest => do
    renderLeaf setting item
    retrace setting opened answers rest
  | opened, answers, .enter frame :: rest => do
    let (answer, answers) := answered frame answers
    step setting (.enter answer frame)
    retrace setting ((frame.element answer).isSome :: opened) answers rest
  | element :: opened, answers, .leave :: rest => do
    if element then Rendering.write Writer.endTag
    retrace setting opened answers rest
  | _, _, _ => pure ()

theorem answered_branch (setting : Setting) (frame : Branch) (children : List Node)
    (metadata : Value) (answers : List Bool) :
    ∃ answer, answered frame (sections [.branch frame children metadata] ++ answers) =
        (answer, sections children ++ answers) ∧
      step setting (.enter answer frame) = step setting (.enter (!children.isEmpty) frame) ∧
      frame.element answer = frame.element (!children.isEmpty) := by
  rw [Tree.sections_branch]
  cases frame with
  | heading level anchor title => exact ⟨!children.isEmpty, rfl, rfl, rfl⟩
  | _ => exact ⟨true, rfl, rfl, rfl⟩

theorem renderNode_bare (setting : Setting) {frame : Branch} (bare : frame.isBare = true)
    (children : List Node) (metadata : Value) :
    renderNode setting (.branch frame children metadata) = renderNodes setting children := by
  cases frame with
  | container cssClass =>
    have falsy : cssClass.truthy = false := by simpa [Branch.isBare] using bare
    simp [renderNode, enter, falsy]
  | _ => simp [Branch.isBare] at bare

theorem section?_bare {frame : Branch} (bare : frame.isBare = true) (children : List Node)
    (metadata : Value) : Node.section? (.branch frame children metadata) = none := by
  cases frame with
  | heading _ _ _ => simp [Branch.isBare] at bare
  | _ => rfl

mutual

theorem retrace_node (setting : Setting) (opened answers : List Bool) (rest : List Mark) :
    (node : Node) → retrace setting opened (sections [node] ++ answers) (node.marks ++ rest) = (do
      renderNode setting node
      retrace setting opened answers rest)
  | .leaf item metadata => by
    have silent : sections [.leaf item metadata] = [] := rfl
    rw [silent]
    rfl
  | .branch frame children metadata => by
    -- A container without a class has no marks of its own and writes nothing.
    by_cases bare : frame.isBare = true
    · have along := retrace_nodes setting opened answers rest children
      rw [renderNode_bare setting bare, Tree.sections_branch, section?_bare bare, Node.marks,
        if_pos bare]
      exact along
    · obtain ⟨answer, told, same, element⟩ :=
        answered_branch setting frame children metadata answers
      have along := retrace_nodes setting ((frame.element (!children.isEmpty)).isSome :: opened)
        answers (.leave :: rest) children
      rw [renderNode_branch, Node.marks, if_neg bare, List.append_assoc, List.cons_append, retrace,
        told]
      simp only [List.cons_append, List.nil_append, same, element, along, retrace, bind_assoc]
      cases frame.element (!children.isEmpty) <;> simp

theorem retrace_nodes (setting : Setting) (opened answers : List Bool) (rest : List Mark) :
    (nodes : List Node) →
    retrace setting opened (sections nodes ++ answers) (marksAll nodes ++ rest) = (do
      renderNodes setting nodes
      retrace setting opened answers rest)
  | [] => by simp [sections, Tree.preorderAll, marksAll, renderNodes]
  | node :: others => by
    have first :=
      retrace_node setting opened (sections others ++ answers) (marksAll others ++ rest) node
    have later := retrace_nodes setting opened answers rest others
    rw [Tree.sections_cons, marksAll, List.append_assoc, List.append_assoc, first, later,
      renderNodes, bind_assoc]

end

theorem renderNodes_eq (setting : Setting) {left right : List Node}
    (marked : marksAll left = marksAll right) (headed : sections left = sections right) :
    renderNodes setting left = renderNodes setting right := by
  have rendered (nodes : List Node) :
      renderNodes setting nodes = retrace setting [] (sections nodes) (marksAll nodes) := by
    have along := retrace_nodes setting [] [] [] nodes
    simp only [List.append_nil, retrace] at along
    rw [along]
    exact (bind_pure _).symm
  rw [rendered left, rendered right, marked, headed]

theorem renderNodes_singleton (setting : Setting) (node : Node) :
    renderNodes setting [node] = renderNode setting node := bind_pure _

/-- Regrouped documents have the same page or fail in the same way, and give the same notices. -/
theorem page_regrouped (catalogue : Assets.Catalogue) (settled : Except Fault Options.Page)
    {left right : Document} (regrouped : left.Regrouped right) :
    pageOf catalogue settled (.document left) = pageOf catalogue settled (.document right) := by
  obtain ⟨title, authors, license, root, headed⟩ := regrouped
  cases settled with
  | error fault => rfl
  | ok options =>
    have rendered := renderNodes_eq ⟨options, catalogue⟩ root.marks_eq headed
    rw [renderNodes_singleton, renderNodes_singleton] at rendered
    simp only [pageOf, page, renderPage, renderFragment, rendered, writeUpper, writeHeader, title,
      authors, license]

/-- A section beside a group that is no more than its two members. -/
def groupedDocument : Document where
  title := .str "Notes"
  authors := [.str "A"]
  license := .null
  root := ⟨[.branch (.heading 1 (.str "a") (.str "A")) [.leaf (.text (.str "under")) .null] .null,
    .branch (.container .null)
      [.leaf (.codeBlock (.str "lua") (.str "x")) .null, .leaf .thematicBreak .null]
      (.object [])], .null, .object []⟩

/-- The same without the group, but with one around what stands in the section. -/
def wrappedDocument : Document where
  title := .str "Notes"
  authors := [.str "A"]
  license := .null
  root := ⟨[.branch (.heading 1 (.str "a") (.str "A"))
      [.branch (.container (.str "")) [.leaf (.text (.str "under")) .null] .null] .null,
    .leaf (.codeBlock (.str "lua") (.str "x")) .null, .leaf .thematicBreak .null], .null,
    .object [("line", .int 1)]⟩

theorem groupedDocument_regrouped : groupedDocument.Regrouped wrappedDocument where
  title := rfl
  authors := rfl
  license := rfl
  root := by
    let under : Node := .leaf (.text (.str "under")) .null
    let code : Node := .leaf (.codeBlock (.str "lua") (.str "x")) .null
    let line : Node := .leaf .thematicBreak .null
    let head (children : List Node) : Node :=
      .branch (.heading 1 (.str "a") (.str "A")) children .null
    have opened : Tree.Edited [.branch (.container .null) [code, line] (.object [])]
        [code, line] := .spliced (.inl rfl) _ _
    have wrapped : Tree.Edited [.branch (.container (.str "")) [under] .null] [under] :=
      .spliced (.inr rfl) _ _
    have first := Tree.Edited.inside (.container .null) (.object []) (opened.amid [head [under]] [])
    have second := Tree.Edited.inside (.container .null) (.object [])
      ((Tree.Edited.inside (.heading 1 (.str "a") (.str "A")) .null wrapped).amid [] [code, line])
    have third := Tree.Edited.relabelled wrappedDocument.root.node (.object [])
    exact .trans _ _ _ (.rel _ _ first)
      (.trans _ _ _ (.symm _ _ (.rel _ _ second)) (.symm _ _ (.rel _ _ third)))
  sections := rfl

theorem page_regrouped_wrapped :
    groupedDocument.Regrouped wrappedDocument ∧
      pageOf smallSetting.catalogue (.ok smallSetting.options) (.document groupedDocument) =
        pageOf smallSetting.catalogue (.ok smallSetting.options) (.document wrappedDocument) :=
  ⟨groupedDocument_regrouped, page_regrouped _ _ groupedDocument_regrouped⟩

end Folio.Render
