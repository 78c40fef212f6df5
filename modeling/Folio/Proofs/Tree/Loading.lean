import Folio.Proofs.Outcome
import Folio.Proofs.Stateful
import Folio.Tree.Interchange

/-! What data pass on to the trees that are loaded from them. A node is loaded from the fields of one
object and from whatever its children are loaded from, or an empty text takes its place; so what holds
of every node made in these ways holds of every tree. -/
namespace Folio.Tree

open Stateful (run run_bind_eq_ok)

/-- Some run of the work ends with this value. -/
def Yields {α : Type} (work : Noted α) (value : α) : Prop :=
  ∃ before after, run work before = (.ok value, after)

theorem Yields.bind {α β : Type} {first : Noted α} {next : α → Noted β} {result : β}
    (yields : Yields (first >>= next) result) :
    ∃ value, Yields first value ∧ Yields (next value) result := by
  obtain ⟨before, after, ran⟩ := yields
  obtain ⟨value, middle, here, later⟩ := run_bind_eq_ok ran
  exact ⟨value, ⟨before, middle, here⟩, ⟨middle, after, later⟩⟩

theorem Yields.map {α β : Type} {f : α → β} {work : Noted α} {result : β}
    (yields : Yields (f <$> work) result) : ∃ value, Yields work value ∧ f value = result := by
  rw [map_eq_pure_bind] at yields
  obtain ⟨value, here, before, after, ran⟩ := yields.bind
  exact ⟨value, here, Except.ok.inj (Prod.mk.inj ran).1⟩

theorem Yields.pure {α : Type} {value result : α} (yields : Yields (pure value) result) :
    value = result := by
  obtain ⟨before, after, ran⟩ := yields
  exact Except.ok.inj (Prod.mk.inj ran).1

theorem not_yields_throw {α : Type} {fault : Fault} {result : α}
    (yields : Yields (throw fault) result) : False := by
  obtain ⟨before, after, ran⟩ := yields
  exact absurd (Prod.mk.inj ran).1 (by simp)

theorem Yields.ofExcept {α : Type} {outcome : Except Fault α} {result : α}
    (yields : Yields (MonadExcept.ofExcept outcome) result) : outcome = .ok result := by
  obtain ⟨before, after, ran⟩ := yields
  rw [Stateful.run_ofExcept] at ran
  exact (Prod.mk.inj ran).1

theorem lookup_of_require {kind : Kind} {name : String} {fields : Fields} {value : Value}
    (yields : Yields (require kind name fields) value) : fields.lookup name = some value := by
  unfold require at yields
  split at yields
  · next found =>
    obtain rfl := yields.pure
    exact found
  · exact (not_yields_throw yields).elim

theorem not_yields_reject {fault : Fault} {node : Node} (yields : Yields (reject true fault) node) :
    False := by
  obtain ⟨_, _, thrown⟩ := yields.bind
  exact not_yields_throw thrown

theorem yields_reject {fault : Fault} {node : Node} (yields : Yields (reject false fault) node) :
    node = placeholder := by
  obtain ⟨_, _, kept⟩ := yields.bind
  obtain ⟨_, _, placed⟩ := kept.bind
  exact placed.pure.symm

/-- Given in the data, a property of them makes for a property of the trees. -/
structure Inherited (given : Value → Prop) (made : Loaded → Prop) : Prop where
  items {items : List Value} : given (.list items) → ∀ item ∈ items, given item
  fields {fields : Fields} : given (.object fields) → ∀ field ∈ fields, given field.2
  placed : made (.node placeholder)
  leaf {kind : LeafKind} {fields : Fields} {item : Leaf} : given (.object fields) →
    Yields (loadLeaf kind fields) item → made (.node (.leaf item (metadata fields)))
  branch {kind : BranchKind} {fields : Fields} {frame : Branch} {children : List Node} :
    given (.object fields) → Yields (loadBranch kind fields) (.ok frame) →
    (∀ child ∈ children, made (.node child)) →
    made (.node (.branch frame children (metadata fields)))
  empty : made (.node Root.empty.node)
  document {fields : Fields} {title : Value} {authors : List Value} {root : Root} :
    given (.object fields) → Yields (require .document "title" fields) title →
    Yields (loadAuthors fields) authors → made (.node root.node) →
    made (.document ⟨title, authors, field "license" .null fields, root⟩)

theorem made_of_asRoot {made : Loaded → Prop} {loaded : Loaded} (held : made loaded) {root : Root}
    (yields : Yields (asRoot loaded) root) : made (.node root.node) := by
  unfold asRoot at yields
  split at yields
  · obtain rfl := yields.pure
    exact held
  · exact (not_yields_throw yields).elim

namespace Inherited

variable {given : Value → Prop} {made : Loaded → Prop}

theorem reject (inherited : Inherited given made) {strict : Bool} {fault : Fault} {node : Node}
    (yields : Yields (Tree.reject strict fault) node) : made (.node node) := by
  cases strict with
  | true => exact (not_yields_reject yields).elim
  | false =>
    rw [yields_reject yields]
    exact inherited.placed

theorem asChild (inherited : Inherited given made) {strict : Bool} {loaded : Loaded}
    (held : made loaded) {node : Node} (yields : Yields (Tree.asChild strict loaded) node) :
    made (.node node) := by
  cases loaded with
  | node tree =>
    obtain rfl := yields.pure
    exact held
  | document described => exact inherited.reject yields

mutual

/-- What is given in the data is made of every tree loaded from them. -/
theorem load (inherited : Inherited given made) {strict : Bool} : (data : Value) → given data →
    {loaded : Loaded} → Yields (Tree.load strict data) loaded → made loaded
  | .object fields, here, loaded, yields => by
    unfold Tree.load at yields
    split at yields
    · obtain ⟨node, rejected, rfl⟩ := yields.map
      exact inherited.reject rejected
    · obtain ⟨root, rooted, rest⟩ := yields.bind
      obtain ⟨title, titled, rest⟩ := rest.bind
      obtain ⟨authors, written, rest⟩ := rest.bind
      obtain rfl := rest.pure
      exact inherited.document here titled written
        (inherited.loadRoot fields (inherited.fields here) rooted)
    · obtain ⟨item, found, rest⟩ := yields.bind
      obtain rfl := rest.pure
      exact inherited.leaf here found
    · obtain ⟨checked, looked, rest⟩ := yields.bind
      obtain ⟨children, found, rest⟩ := rest.bind
      obtain ⟨frame, judged, rest⟩ := rest.bind
      obtain rfl := rest.pure
      rw [judged.ofExcept] at looked
      exact inherited.branch here looked
        (inherited.loadChildren fields (inherited.fields here) found)
  | .null, _, _, yields | .bool _, _, _, yields | .int _, _, _, yields | .float _, _, _, yields
  | .str _, _, _, yields | .list _, _, _, yields => by
    unfold Tree.load at yields
    obtain ⟨node, rejected, rfl⟩ := yields.map
    exact inherited.reject rejected

theorem loadChildren (inherited : Inherited given made) {strict : Bool} {parent : BranchKind} :
    (fields : Fields) → (∀ field ∈ fields, given field.2) → {nodes : List Node} →
    Yields (Tree.loadChildren strict parent fields) nodes → ∀ node ∈ nodes, made (.node node)
  | [], _, nodes, yields => by
    obtain rfl := yields.pure
    simp
  | (name, value) :: rest, here, nodes, yields => by
    unfold Tree.loadChildren at yields
    split at yields
    · exact inherited.loadChildList value (here (name, value) (by simp)) yields
    · exact inherited.loadChildren rest (fun field member => here field (by simp [member])) yields

theorem loadChildList (inherited : Inherited given made) {strict : Bool} {parent : BranchKind} :
    (value : Value) → given value → {nodes : List Node} →
    Yields (Tree.loadChildList strict parent value) nodes → ∀ node ∈ nodes, made (.node node)
  | .list items, here, nodes, yields => inherited.loadItems items (inherited.items here) yields
  | .null, _, _, yields | .bool _, _, _, yields | .int _, _, _, yields | .float _, _, _, yields
  | .str _, _, _, yields | .object _, _, _, yields => by
    obtain ⟨_, _, rest⟩ := yields.bind
    obtain rfl := rest.pure
    simp

theorem loadItems (inherited : Inherited given made) {strict : Bool} : (items : List Value) →
    (∀ item ∈ items, given item) → {nodes : List Node} →
    Yields (Tree.loadItems strict items) nodes → ∀ node ∈ nodes, made (.node node)
  | [], _, nodes, yields => by
    obtain rfl := yields.pure
    simp
  | item :: rest, here, nodes, yields => by
    unfold Tree.loadItems at yields
    obtain ⟨loaded, first, later⟩ := yields.bind
    obtain ⟨node, child, later⟩ := later.bind
    obtain ⟨siblings, found, later⟩ := later.bind
    obtain rfl := later.pure
    have others := inherited.loadItems rest (fun item member => here item (by simp [member])) found
    intro sibling member
    rcases List.mem_cons.mp member with rfl | later
    · exact inherited.asChild (inherited.load item (here item (by simp)) first) child
    · exact others sibling later

theorem loadRoot (inherited : Inherited given made) {strict : Bool} : (fields : Fields) →
    (∀ field ∈ fields, given field.2) → {root : Root} →
    Yields (Tree.loadRoot strict fields) root → made (.node root.node)
  | [], _, root, yields => by
    obtain rfl := yields.pure
    exact inherited.empty
  | (name, value) :: rest, here, root, yields => by
    unfold Tree.loadRoot at yields
    split at yields
    · obtain ⟨loaded, first, later⟩ := yields.bind
      exact made_of_asRoot (inherited.load value (here (name, value) (by simp)) first) later
    · exact inherited.loadRoot rest (fun field member => here field (by simp [member])) yields

end

end Inherited

end Folio.Tree
