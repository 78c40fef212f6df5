import Folio.Proofs.Tree.Loading

/-! Whatever is loaded can be written, and what is written loads again, strictly and in silence, as
the very same tree. Loading is where odd data is bent into shape, so a loaded tree is sound in the
one way that writing relies on: its headings have a level from 1 up. -/
namespace Folio.Tree

open Stateful (run)

def Branch.Levelled : Branch → Prop
  | .heading level _ _ => 1 ≤ level
  | _ => True

mutual

/-- Every heading has a level that an author could have given it. -/
def Node.Levelled : Node → Prop
  | .leaf _ _ => True
  | .branch frame children _ => frame.Levelled ∧ AllLevelled children

def AllLevelled : List Node → Prop
  | [] => True
  | node :: rest => node.Levelled ∧ AllLevelled rest

end

def Loaded.Levelled : Loaded → Prop
  | .document described => described.root.node.Levelled
  | .node tree => tree.Levelled

theorem levelled_of_levelOf {value : Value} {level : Nat} (judged : levelOf value = .ok level) :
    1 ≤ level := by
  cases value with
  | int given =>
    simp only [levelOf] at judged
    split at judged
    · exact absurd judged (by simp)
    · obtain rfl := Except.ok.inj judged
      omega
  | null | bool _ | float _ | str _ | list _ | object _ => simp [levelOf] at judged

theorem levelled_of_loadBranch {kind : BranchKind} {fields : Fields} {frame : Branch}
    (yields : Yields (loadBranch kind fields) (.ok frame)) : frame.Levelled := by
  cases kind with
  | heading =>
    obtain ⟨level, _, rest⟩ := yields.bind
    obtain ⟨anchor, _, rest⟩ := rest.bind
    obtain ⟨title, _, rest⟩ := rest.bind
    obtain ⟨number, found, rfl⟩ := Outcome.map_eq_ok_iff.mp rest.pure
    exact levelled_of_levelOf found
  | link =>
    obtain ⟨url, _, rest⟩ := yields.bind
    obtain rfl := Except.ok.inj rest.pure
    trivial
  | container | paragraph | blockQuote | list | listItem | emphasis | strong =>
    obtain rfl := Except.ok.inj yields.pure
    trivial

theorem allLevelled_iff (nodes : List Node) : AllLevelled nodes ↔ ∀ node ∈ nodes, node.Levelled := by
  induction nodes with
  | nil => simp [AllLevelled]
  | cons node rest ih => simp [AllLevelled, ih]

theorem levelled_inherited : Inherited (fun _ => True) Loaded.Levelled where
  items _ _ _ := trivial
  fields _ _ _ := trivial
  placed := trivial
  leaf _ _ := trivial
  branch _ looked children := ⟨levelled_of_loadBranch looked, (allLevelled_iff _).mpr children⟩
  empty := ⟨trivial, trivial⟩
  document _ _ _ root := root

theorem levelled_of_load {strict : Bool} (data : Value) {loaded : Loaded}
    (yields : Yields (load strict data) loaded) : loaded.Levelled :=
  levelled_inherited.load data trivial yields

theorem kindOf?_tagged (kind : Kind) (fields : Fields) :
    kindOf? (tagField kind :: fields) = some kind := by
  simp [kindOf?, tagOf, field, tagField, Kind.ofName?_name]

theorem run_loadBranch (frame : Branch) (levelled : frame.Levelled) (children metadata : Value)
    (notices : List Notice) :
    run (loadBranch frame.kind (tagField (.branch frame.kind) :: frame.leading ++
      [("children", children), ("metadata", metadata)] ++ frame.trailing)) notices =
        (.ok (.ok frame), notices) := by
  cases frame with
  | container cssClass =>
    cases cssClass <;>
      simp [Branch.kind, Branch.leading, Branch.trailing, loadBranch, field, tagField, List.lookup_cons]
  | heading level anchor title =>
    have judged : levelOf (.int level) = .ok level := by
      have positive : ¬ (level : Int) < 1 := by
        have : 1 ≤ level := levelled
        omega
      simp [levelOf, positive]
    simp [Branch.kind, Branch.leading, Branch.trailing, loadBranch, require, tagField, List.lookup_cons,
      judged, Except.map]
  | link url =>
    simp [Branch.kind, Branch.leading, Branch.trailing, loadBranch, require, tagField, List.lookup_cons]
  | list ordered =>
    simp [Branch.kind, Branch.leading, Branch.trailing, loadBranch, field, tagField, List.lookup_cons,
      Value.truthy]
  | paragraph | blockQuote | listItem | emphasis | strong => rfl

theorem metadata_branch (frame : Branch) (children data : Value) :
    metadata (tagField (.branch frame.kind) :: frame.leading ++
      [("children", children), ("metadata", data)] ++ frame.trailing) = data := by
  cases frame <;> simp [metadata, field, Branch.leading, tagField, List.lookup_cons]

theorem loadChildren_branch (strict : Bool) (parent : BranchKind) (frame : Branch)
    (items : List Value) (rest : Fields) :
    loadChildren strict parent (tagField (.branch frame.kind) :: frame.leading ++
      ("children", .list items) :: rest) = loadItems strict items := by
  cases frame <;> simp [loadChildren, loadChildList, Branch.leading, tagField]

mutual

/-- A written tree loads as itself and gives no notice. -/
theorem Node.run_load_write (notices : List Notice) : (node : Node) → node.Levelled →
    run (load true node.write) notices = (.ok (.node node), notices)
  | .leaf item data, _ => by
    rw [Node.write, load, List.cons_append, kindOf?_tagged]
    cases item <;>
      simp [Leaf.kind, Leaf.fields, loadLeaf, require, metadata, field, tagField, List.lookup_cons,
        Value.truthy]
  | .branch frame children data, levelled => by
    have tagged : kindOf? (tagField (.branch frame.kind) :: frame.leading ++
        [("children", .list (writeAll children)), ("metadata", data)] ++ frame.trailing) =
          some (.branch frame.kind) := kindOf?_tagged _ _
    -- The frame, the children and the metadata are all looked up among the same fields.
    have looked := run_loadBranch frame levelled.1 (.list (writeAll children)) data notices
    have found := loadChildren_branch true frame.kind frame (writeAll children)
      (("metadata", data) :: frame.trailing)
    have loaded := run_loadItems_writeAll notices children levelled.2
    rw [Node.write, load, tagged]
    rw [Stateful.run_bind_ok _ looked, List.append_assoc]
    simp only [List.cons_append, List.nil_append] at found ⊢
    rw [found, Stateful.run_bind_ok _ loaded, Stateful.run_bind_ok _ (Stateful.run_ofExcept _ _)]
    have kept := metadata_branch frame (.list (writeAll children)) data
    simp only [List.append_assoc, List.cons_append, List.nil_append] at kept
    rw [kept, Stateful.run_pure]

theorem run_loadItems_writeAll (notices : List Notice) : (nodes : List Node) → AllLevelled nodes →
    run (loadItems true (writeAll nodes)) notices = (.ok nodes, notices)
  | [], _ => by
    rw [writeAll, loadItems, Stateful.run_pure]
  | node :: rest, levelled => by
    rw [writeAll, loadItems, Stateful.run_bind_ok _ (node.run_load_write notices levelled.1), asChild,
      pure_bind, Stateful.run_bind_ok _ (run_loadItems_writeAll notices rest levelled.2),
      Stateful.run_pure]

end

theorem Document.run_load_write (notices : List Notice) (described : Document)
    (levelled : described.root.node.Levelled) :
    run (load true described.write) notices = (.ok (.document described), notices) := by
  have root := described.root.node.run_load_write notices levelled
  have tagged : kindOf? [tagField .document, ("title", described.title),
      ("authors", .list described.authors), ("license", described.license),
      ("root", described.root.node.write)] = some .document := kindOf?_tagged _ _
  have rooted : run (loadRoot true [tagField .document, ("title", described.title),
      ("authors", .list described.authors), ("license", described.license),
      ("root", described.root.node.write)]) notices = (.ok described.root, notices) := by
    simp only [loadRoot, tagField]
    simp only [String.reduceBEq, Bool.false_eq_true, ↓reduceIte]
    rw [Stateful.run_bind_ok _ root]
    rfl
  rw [Document.write, load, tagged]
  rw [Stateful.run_bind_ok _ rooted]
  simp [require, loadAuthors, field, tagField, List.lookup_cons, Value.elements?]

/-- Whatever loading lets through, leniently or not, is written in a form that loads strictly, gives
no notice and is the same tree: every node, field and metadata of it. -/
theorem load_write_of_load (strict : Bool) (data : Value) (loaded : Loaded)
    (read : (load strict data).outcome.1 = .ok loaded) :
    (load true loaded.write).outcome = (.ok loaded, []) := by
  have yields : Yields (load strict data) loaded :=
    ⟨[], (load strict data).outcome.2, Prod.ext read rfl⟩
  have levelled := levelled_of_load data yields
  cases loaded with
  | document described => exact described.run_load_write [] levelled
  | node tree => exact tree.run_load_write [] levelled

def oddData : Value :=
  .object [("node_type", .str "Document"), ("title", .int 5), ("authors", .str "ab"),
    ("root", .object [("node_type", .str "Container"), ("children", .list [
      .int 3,
      .object [("node_type", .str "List"), ("ordered", .str "yes"), ("children", .str "none")],
      .object [("node_type", .str "Heading"), ("level", .int 2), ("anchor", .null),
        ("title", .str "t"), ("metadata", .bool true)]])])]

def oddTree : Loaded :=
  .document ⟨.int 5, [.str "a", .str "b"], .null,
    ⟨[placeholder, .branch (.list true) [] (.object []),
      .branch (.heading 2 .null (.str "t")) [] (.bool true)], .null, .object []⟩⟩

theorem oddData_loads : (load false oddData).outcome.1 = .ok oddTree := by
  rfl

theorem load_write_odd :
    (load false oddData).outcome.1 = .ok oddTree ∧
      (load true oddTree.write).outcome = (.ok oddTree, []) :=
  ⟨oddData_loads, load_write_of_load false oddData oddTree oddData_loads⟩

end Folio.Tree
