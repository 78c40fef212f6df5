import Folio.Proofs.Tree.Loading
import Mathlib.Data.List.Forall2

/-! Strict and lenient loading side by side. What is loaded strictly is what is loaded leniently
without a warning; and whatever is loaded leniently is what strict loading makes of the same data
with every rejected place repaired, so leniency does nothing but repair. -/
namespace Folio.Tree

open Stateful (run run_bind run_bind_ok run_bind_eq_ok)

/-- Work that neither gives notice nor looks at what was noticed before. -/
def Silent {α : Type} (work : Noted α) : Prop :=
  ∃ outcome, ∀ notices, run work notices = (outcome, notices)

section Silent
variable {α β : Type}

theorem silent_pure (value : α) : Silent (pure value) := ⟨.ok value, fun _ => rfl⟩

theorem silent_throw (fault : Fault) : Silent (throw fault : Noted α) :=
  ⟨.error fault, fun _ => rfl⟩

theorem Silent.bind {first : Noted α} {next : α → Noted β} (silent : Silent first)
    (later : ∀ value, Silent (next value)) : Silent (first >>= next) := by
  obtain ⟨outcome, ran⟩ := silent
  cases outcome with
  | error fault =>
    refine ⟨.error fault, fun notices => ?_⟩
    rw [run_bind, ran]
  | ok value =>
    obtain ⟨result, finished⟩ := later value
    refine ⟨result, fun notices => ?_⟩
    rw [run_bind_ok _ (ran notices), finished]

theorem Silent.map {work : Noted α} (silent : Silent work) (f : α → β) : Silent (f <$> work) := by
  rw [map_eq_pure_bind]
  exact silent.bind fun value => silent_pure (f value)

end Silent

theorem silent_require (kind : Kind) (name : String) (fields : Fields) :
    Silent (require kind name fields) := by
  unfold require
  cases fields.lookup name with
  | none => exact silent_throw _
  | some value => exact silent_pure value

theorem silent_ofExcept {α : Type} (outcome : Except Fault α) :
    Silent (MonadExcept.ofExcept outcome) :=
  ⟨outcome, Stateful.run_ofExcept outcome⟩

theorem silent_loadLeaf (kind : LeafKind) (fields : Fields) : Silent (loadLeaf kind fields) := by
  cases kind with
  | thematicBreak => exact silent_pure _
  | codeBlock | mathExpr => exact (silent_require _ _ _).bind fun _ => silent_pure _
  | diagram | text | inlineCode => exact (silent_require _ _ _).map _

theorem silent_loadBranch (kind : BranchKind) (fields : Fields) :
    Silent (loadBranch kind fields) := by
  cases kind with
  | heading =>
    exact (silent_require _ _ _).bind fun _ => (silent_require _ _ _).bind fun _ =>
      (silent_require _ _ _).bind fun _ => silent_pure _
  | link => exact (silent_require _ _ _).bind fun _ => silent_pure _
  | container | paragraph | blockQuote | list | listItem | emphasis | strong => exact silent_pure _

theorem silent_loadAuthors (fields : Fields) : Silent (loadAuthors fields) := by
  unfold loadAuthors
  dsimp only
  split
  · exact silent_pure _
  · exact silent_throw _

theorem silent_asRoot (loaded : Loaded) : Silent (asRoot loaded) := by
  unfold asRoot
  split
  · exact silent_pure _
  · exact silent_throw _

/-- Strict work goes through where lenient work does so without notice, and with the same result. -/
structure Agrees {α : Type} (strict lenient : Noted α) : Prop where
  strictly {before after : List Notice} {result : α} :
    run strict before = (.ok result, after) →
      after = before ∧ run lenient before = (.ok result, before)
  leniently {before after : List Notice} {result : α} :
    run lenient before = (.ok result, after) →
      before <+: after ∧ (after = before → run strict before = (.ok result, before))

section Agrees
variable {α β : Type}

theorem Silent.agrees {work : Noted α} (silent : Silent work) : Agrees work work := by
  obtain ⟨outcome, ran⟩ := silent
  constructor
  · intro before after result finished
    rw [ran] at finished
    obtain ⟨rfl, rfl⟩ := Prod.mk.inj finished
    exact ⟨rfl, ran before⟩
  · intro before after result finished
    rw [ran] at finished
    obtain ⟨rfl, rfl⟩ := Prod.mk.inj finished
    exact ⟨List.prefix_rfl, fun _ => ran before⟩

theorem Agrees.bind {strict lenient : Noted α} {next other : α → Noted β}
    (first : Agrees strict lenient) (later : ∀ value, Agrees (next value) (other value)) :
    Agrees (strict >>= next) (lenient >>= other) := by
  constructor
  · intro before after result finished
    obtain ⟨value, middle, here, rest⟩ := run_bind_eq_ok finished
    obtain ⟨rfl, ran⟩ := first.strictly here
    obtain ⟨rfl, done⟩ := (later value).strictly rest
    exact ⟨rfl, (run_bind_ok _ ran).trans done⟩
  · intro before after result finished
    obtain ⟨value, middle, here, rest⟩ := run_bind_eq_ok finished
    obtain ⟨start, ran⟩ := first.leniently here
    obtain ⟨more, done⟩ := (later value).leniently rest
    refine ⟨start.trans more, ?_⟩
    rintro rfl
    -- Nothing was added to the notices in the end, so nothing was on the way.
    obtain rfl := more.eq_of_length (Nat.le_antisymm more.length_le start.length_le)
    exact (run_bind_ok _ (ran rfl)).trans (done rfl)

theorem Agrees.map {strict lenient : Noted α} (agrees : Agrees strict lenient) (f : α → β) :
    Agrees (f <$> strict) (f <$> lenient) := by
  rw [map_eq_pure_bind, map_eq_pure_bind]
  exact agrees.bind fun value => (silent_pure (f value)).agrees

end Agrees

theorem reject_agrees (fault : Fault) : Agrees (reject true fault) (reject false fault) := by
  constructor
  · intro before after result finished
    exact (not_yields_reject ⟨before, after, finished⟩).elim
  · intro before after result finished
    obtain ⟨message, middle, worded, noted⟩ := run_bind_eq_ok finished
    rw [Stateful.run_ofExcept] at worded
    obtain ⟨-, rfl⟩ := Prod.mk.inj worded
    obtain ⟨-, rfl⟩ := Prod.mk.inj noted
    refine ⟨List.prefix_append _ _, fun same => ?_⟩
    exact absurd same (by simp)

theorem asChild_agrees (loaded : Loaded) : Agrees (asChild true loaded) (asChild false loaded) := by
  cases loaded with
  | node tree => exact (silent_pure tree).agrees
  | document described => exact reject_agrees .documentAsChild

mutual

theorem load_agrees : (data : Value) → Agrees (load true data) (load false data)
  | .object fields => by
    unfold load
    cases kindOf? fields with
    | none => exact (reject_agrees _).map _
    | some kind =>
      cases kind with
      | document =>
        exact (loadRoot_agrees fields).bind fun root => (silent_require _ _ _).agrees.bind fun title =>
          (silent_loadAuthors fields).agrees.bind fun authors => (silent_pure _).agrees
      | leaf kind =>
        exact (silent_loadLeaf kind fields).agrees.bind fun item => (silent_pure _).agrees
      | branch kind =>
        exact (silent_loadBranch kind fields).agrees.bind fun checked =>
          (loadChildren_agrees kind fields).bind fun children =>
            (silent_ofExcept checked).agrees.bind fun frame => (silent_pure _).agrees
  | .null | .bool _ | .int _ | .float _ | .str _ | .list _ => (reject_agrees _).map _

theorem loadChildren_agrees (parent : BranchKind) : (fields : Fields) →
    Agrees (loadChildren true parent fields) (loadChildren false parent fields)
  | [] => (silent_pure []).agrees
  | (name, value) :: rest => by
    rw [loadChildren, loadChildren]
    by_cases named : (name == "children") = true
    · rw [if_pos named, if_pos named]
      exact loadChildList_agrees parent value
    · rw [if_neg named, if_neg named]
      exact loadChildren_agrees parent rest

theorem loadChildList_agrees (parent : BranchKind) : (value : Value) →
    Agrees (loadChildList true parent value) (loadChildList false parent value)
  | .list items => loadItems_agrees items
  | .null | .bool _ | .int _ | .float _ | .str _ | .object _ =>
    (reject_agrees _).bind fun _ => (silent_pure []).agrees

theorem loadItems_agrees : (items : List Value) →
    Agrees (loadItems true items) (loadItems false items)
  | [] => (silent_pure []).agrees
  | item :: rest => by
    rw [loadItems, loadItems]
    exact (load_agrees item).bind fun loaded => (asChild_agrees loaded).bind fun node =>
      (loadItems_agrees rest).bind fun nodes => (silent_pure _).agrees

theorem loadRoot_agrees : (fields : Fields) → Agrees (loadRoot true fields) (loadRoot false fields)
  | [] => (silent_pure Root.empty).agrees
  | (name, value) :: rest => by
    rw [loadRoot, loadRoot]
    by_cases named : (name == "root") = true
    · rw [if_pos named, if_pos named]
      exact (load_agrees value).bind fun loaded => (silent_asRoot loaded).agrees
    · rw [if_neg named, if_neg named]
      exact loadRoot_agrees rest

end

def emptyText : Value := .object [("node_type", .str "Text"), ("content", .str "")]

def describesDocument : Value → Bool
  | .object fields => decide (kindOf? fields = some .document)
  | _ => false

mutual

/-- Data in which every place that lenient loading rejects holds an empty text, and every row of
children that is none is empty. Only the places that loading looks at are repaired. -/
def repair : Value → Value
  | .object fields =>
    match kindOf? fields with
    | none => emptyText
    | some .document => .object (repairRoot fields)
    | some (.leaf _) => .object fields
    | some (.branch _) => .object (repairChildren fields)
  | _ => emptyText

def repairChildren : Fields → Fields
  | [] => []
  | (name, value) :: rest =>
    if name == "children" then (name, repairChildList value) :: rest
    else (name, value) :: repairChildren rest

def repairChildList : Value → Value
  | .list items => .list (repairItems items)
  | _ => .list []

/-- Among children a document has no place, whatever it holds. -/
def repairItems : List Value → List Value
  | [] => []
  | item :: rest =>
    (if describesDocument item then emptyText else repair item) :: repairItems rest

def repairRoot : Fields → Fields
  | [] => []
  | (name, value) :: rest =>
    if name == "root" then (name, repair value) :: rest else (name, value) :: repairRoot rest

end

def repairChild (item : Value) : Value := if describesDocument item then emptyText else repair item

def SameBut (name : String) (fields others : Fields) : Prop :=
  ∀ key, key ≠ name → others.lookup key = fields.lookup key

theorem sameBut_replaced (name : String) (value other : Value) (rest : Fields) :
    SameBut name ((name, value) :: rest) ((name, other) :: rest) := by
  intro key different
  rw [List.lookup_cons, List.lookup_cons, beq_false_of_ne different]

theorem SameBut.cons {name : String} {rest others : Fields} (same : SameBut name rest others)
    (field : String × Value) : SameBut name (field :: rest) (field :: others) := by
  intro key different
  rw [List.lookup_cons, List.lookup_cons, same key different]

theorem sameBut_repairChildren : (fields : Fields) →
    SameBut "children" fields (repairChildren fields)
  | [] => fun _ _ => rfl
  | (name, value) :: rest => by
    rw [repairChildren]
    by_cases named : name = "children"
    · subst named
      exact sameBut_replaced _ value _ rest
    · rw [if_neg (by simpa using named)]
      exact (sameBut_repairChildren rest).cons _

theorem sameBut_repairRoot : (fields : Fields) → SameBut "root" fields (repairRoot fields)
  | [] => fun _ _ => rfl
  | (name, value) :: rest => by
    rw [repairRoot]
    by_cases named : name = "root"
    · subst named
      exact sameBut_replaced _ value _ rest
    · rw [if_neg (by simpa using named)]
      exact (sameBut_repairRoot rest).cons _

section SameBut
variable {name : String} {fields others : Fields}

theorem SameBut.field (same : SameBut name fields others) {key : String} (other : key ≠ name)
    (absent : Value) : field key absent others = field key absent fields := by
  rw [Tree.field, Tree.field, same key other]

theorem SameBut.require (same : SameBut name fields others) (kind : Kind) {key : String}
    (other : key ≠ name) : require kind key others = require kind key fields := by
  rw [Tree.require, Tree.require, same key other]

theorem SameBut.kindOf? (same : SameBut name fields others) (other : "node_type" ≠ name) :
    kindOf? others = kindOf? fields := by
  rw [Tree.kindOf?, Tree.kindOf?, tagOf, tagOf, same.field other]

end SameBut

theorem SameBut.loadBranch {fields others : Fields} (same : SameBut "children" fields others)
    (kind : BranchKind) : loadBranch kind others = loadBranch kind fields := by
  cases kind with
  | heading =>
    simp only [Tree.loadBranch]
    rw [same.require _ (by decide), same.require _ (by decide), same.require _ (by decide)]
  | container | list =>
    simp only [Tree.loadBranch]
    rw [same.field (by decide)]
  | link =>
    simp only [Tree.loadBranch]
    rw [same.require _ (by decide)]
  | paragraph | blockQuote | listItem | emphasis | strong => rfl

/-- Whatever the one work ends with, the other ends with as well, and gives no notice. -/
structure Mends {α : Type} (lenient strict : Noted α) : Prop where
  mended {result : α} : Yields lenient result → ∀ notices,
    run strict notices = (.ok result, notices)

section Mends
variable {α β : Type}

theorem Silent.mends {work : Noted α} (silent : Silent work) : Mends work work := by
  obtain ⟨outcome, ran⟩ := silent
  constructor
  rintro result ⟨before, after, finished⟩ notices
  rw [ran] at finished
  rw [ran, (Prod.mk.inj finished).1]

theorem Mends.bind {lenient strict : Noted α} {next other : α → Noted β}
    (first : Mends lenient strict) (later : ∀ value, Mends (next value) (other value)) :
    Mends (lenient >>= next) (strict >>= other) := by
  constructor
  intro result yields notices
  obtain ⟨value, here, rest⟩ := yields.bind
  rw [run_bind_ok _ (first.mended here notices)]
  exact (later value).mended rest notices

end Mends

theorem reject_mends (fault : Fault) :
    Mends (Loaded.node <$> reject false fault) (load true emptyText) := by
  constructor
  intro result yields notices
  obtain ⟨node, rejected, rfl⟩ := yields.map
  rw [yields_reject rejected]
  rfl

theorem kind_of_load {strict : Bool} {data : Value} {loaded : Loaded}
    (yields : Yields (load strict data) loaded) :
    match loaded with
    | .document _ => describesDocument data = true
    | .node _ => describesDocument data = false := by
  cases data with
  | object fields =>
    unfold load at yields
    cases found : kindOf? fields with
    | none =>
      rw [found] at yields
      obtain ⟨node, -, rfl⟩ := yields.map
      simp [describesDocument, found]
    | some kind =>
      rw [found] at yields
      cases kind with
      | document =>
        obtain ⟨root, -, rest⟩ := yields.bind
        obtain ⟨title, -, rest⟩ := rest.bind
        obtain ⟨authors, -, rest⟩ := rest.bind
        obtain rfl := rest.pure
        simp [describesDocument, found]
      | leaf kind =>
        obtain ⟨item, -, rest⟩ := yields.bind
        obtain rfl := rest.pure
        simp [describesDocument, found]
      | branch kind =>
        obtain ⟨checked, -, rest⟩ := yields.bind
        obtain ⟨children, -, rest⟩ := rest.bind
        obtain ⟨frame, -, rest⟩ := rest.bind
        obtain rfl := rest.pure
        simp [describesDocument, found]
  | null | bool _ | int _ | float _ | str _ | list _ =>
    unfold load at yields
    obtain ⟨node, -, rfl⟩ := yields.map
    rfl

/-- A single child: loaded, and rejected if it turns out to be a document. -/
def loadChild (strict : Bool) (item : Value) : Noted Node := do
  let loaded ← load strict item
  asChild strict loaded

theorem loadChild_mends (item : Value) (mends : Mends (load false item) (load true (repair item))) :
    Mends (loadChild false item) (loadChild true (repairChild item)) := by
  constructor
  intro result yields notices
  obtain ⟨loaded, here, rest⟩ := yields.bind
  have kind := kind_of_load here
  cases loaded with
  | node tree =>
    -- A node is kept, and the repaired item is loaded as the same node.
    obtain rfl := rest.pure
    have repaired : repairChild item = repair item := by
      rw [repairChild, kind]
      rfl
    rw [loadChild, repaired, run_bind_ok _ (mends.mended here notices)]
    rfl
  | document described =>
    -- A document is dropped, and there is an empty text in both.
    have repaired : repairChild item = emptyText := by
      rw [repairChild, kind]
      rfl
    rw [yields_reject rest, repaired]
    rfl

mutual

theorem load_mends : (data : Value) → Mends (load false data) (load true (repair data))
  | .object fields => by
    rw [repair]
    cases found : kindOf? fields with
    | none =>
      rw [load, found]
      exact reject_mends _
    | some kind =>
      cases kind with
      | document =>
        have same := sameBut_repairRoot fields
        rw [load, load, same.kindOf? (by decide), found]
        simp only [same.require _ (show "title" ≠ "root" by decide), loadAuthors,
          same.field (show "authors" ≠ "root" by decide),
          same.field (show "license" ≠ "root" by decide)]
        exact (loadRoot_mends fields).bind fun root => (silent_require _ _ _).mends.bind fun title =>
          (silent_loadAuthors fields).mends.bind fun authors => (silent_pure _).mends
      | leaf kind =>
        rw [load, load, found]
        exact (silent_loadLeaf kind fields).mends.bind fun item => (silent_pure _).mends
      | branch kind =>
        have same := sameBut_repairChildren fields
        rw [load, load, same.kindOf? (by decide), found]
        simp only [same.loadBranch, metadata, same.field (show "metadata" ≠ "children" by decide)]
        exact (silent_loadBranch kind fields).mends.bind fun checked =>
          (loadChildren_mends kind fields).bind fun children =>
            (silent_ofExcept checked).mends.bind fun frame => (silent_pure _).mends
  | .null | .bool _ | .int _ | .float _ | .str _ | .list _ => reject_mends _

theorem loadChildren_mends (parent : BranchKind) : (fields : Fields) →
    Mends (loadChildren false parent fields) (loadChildren true parent (repairChildren fields))
  | [] => (silent_pure []).mends
  | (name, value) :: rest => by
    rw [loadChildren, repairChildren]
    by_cases named : (name == "children") = true
    · rw [if_pos named, if_pos named, loadChildren, if_pos named]
      exact loadChildList_mends parent value
    · rw [if_neg named, if_neg named, loadChildren, if_neg named]
      exact loadChildren_mends parent rest

theorem loadChildList_mends (parent : BranchKind) : (value : Value) →
    Mends (loadChildList false parent value) (loadChildList true parent (repairChildList value))
  | .list items => loadItems_mends items
  | .null | .bool _ | .int _ | .float _ | .str _ | .object _ => by
    constructor
    intro result yields notices
    obtain ⟨_, _, rest⟩ := yields.bind
    obtain rfl := rest.pure
    rfl

theorem loadItems_mends : (items : List Value) →
    Mends (loadItems false items) (loadItems true (repairItems items))
  | [] => (silent_pure []).mends
  | item :: rest => by
    have first := loadChild_mends item (load_mends item)
    have both := first.bind fun node => (loadItems_mends rest).bind fun nodes =>
      (silent_pure (node :: nodes)).mends
    rw [loadItems, repairItems, loadItems]
    simpa only [loadChild, repairChild, bind_assoc] using both

theorem loadRoot_mends : (fields : Fields) →
    Mends (loadRoot false fields) (loadRoot true (repairRoot fields))
  | [] => (silent_pure Root.empty).mends
  | (name, value) :: rest => by
    rw [loadRoot, repairRoot]
    by_cases named : (name == "root") = true
    · rw [if_pos named, if_pos named, loadRoot, if_pos named]
      exact (load_mends value).bind fun loaded => (silent_asRoot loaded).mends
    · rw [if_neg named, if_neg named, loadRoot, if_neg named]
      exact loadRoot_mends rest

end

mutual

theorem repair_of_strict : (data : Value) → {loaded : Loaded} → Yields (load true data) loaded →
    repair data = data
  | .object fields, loaded, yields => by
    unfold load at yields
    rw [repair]
    cases found : kindOf? fields with
    | none =>
      rw [found] at yields
      -- Strict loading rejects nothing that it lets through.
      obtain ⟨node, rejected, -⟩ := yields.map
      exact (not_yields_reject rejected).elim
    | some kind =>
      rw [found] at yields
      cases kind with
      | document =>
        obtain ⟨root, rooted, -⟩ := yields.bind
        exact congrArg Value.object (repairRoot_of_strict fields rooted)
      | leaf kind => rfl
      | branch kind =>
        obtain ⟨checked, -, rest⟩ := yields.bind
        obtain ⟨children, row, -⟩ := rest.bind
        exact congrArg Value.object (repairChildren_of_strict kind fields row)
  | .null, _, yields | .bool _, _, yields | .int _, _, yields | .float _, _, yields
  | .str _, _, yields | .list _, _, yields => by
    obtain ⟨node, rejected, -⟩ := yields.map
    exact (not_yields_reject rejected).elim

theorem repairChildren_of_strict (parent : BranchKind) : (fields : Fields) → {nodes : List Node} →
    Yields (loadChildren true parent fields) nodes → repairChildren fields = fields
  | [], _, _ => rfl
  | (name, value) :: rest, nodes, yields => by
    rw [loadChildren] at yields
    rw [repairChildren]
    by_cases named : (name == "children") = true
    · rw [if_pos named] at yields ⊢
      rw [repairChildList_of_strict parent value yields]
    · rw [if_neg named] at yields ⊢
      rw [repairChildren_of_strict parent rest yields]

theorem repairChildList_of_strict (parent : BranchKind) : (value : Value) → {nodes : List Node} →
    Yields (loadChildList true parent value) nodes → repairChildList value = value
  | .list items, nodes, yields => congrArg Value.list (repairItems_of_strict items yields)
  | .null, _, yields | .bool _, _, yields | .int _, _, yields | .float _, _, yields
  | .str _, _, yields | .object _, _, yields => by
    obtain ⟨node, rejected, -⟩ := yields.bind
    exact (not_yields_reject rejected).elim

theorem repairItems_of_strict : (items : List Value) → {nodes : List Node} →
    Yields (loadItems true items) nodes → repairItems items = items
  | [], _, _ => rfl
  | item :: rest, nodes, yields => by
    rw [loadItems] at yields
    obtain ⟨loaded, here, later⟩ := yields.bind
    obtain ⟨node, child, later⟩ := later.bind
    obtain ⟨siblings, others, -⟩ := later.bind
    have kind := kind_of_load here
    cases loaded with
    | document described => exact (not_yields_reject child).elim
    | node tree =>
      rw [repairItems, kind, repair_of_strict item here, repairItems_of_strict rest others]
      rfl

theorem repairRoot_of_strict : (fields : Fields) → {root : Root} →
    Yields (loadRoot true fields) root → repairRoot fields = fields
  | [], _, _ => rfl
  | (name, value) :: rest, root, yields => by
    rw [loadRoot] at yields
    rw [repairRoot]
    by_cases named : (name == "root") = true
    · rw [if_pos named] at yields ⊢
      obtain ⟨loaded, here, -⟩ := yields.bind
      rw [repair_of_strict value here]
    · rw [if_neg named] at yields ⊢
      rw [repairRoot_of_strict rest yields]

end

/-- Children that are loaded leniently are as many as were given, each the node that its repaired
data describe strictly. -/
theorem loadItems_each (items : List Value) {nodes : List Node}
    (yields : Yields (loadItems false items) nodes) :
    List.Forall₂ (fun item node => (load true (repairChild item)).outcome = (.ok (.node node), []))
      items nodes := by
  induction items generalizing nodes with
  | nil =>
    obtain rfl := yields.pure
    exact .nil
  | cons item rest ih =>
    rw [loadItems, ← bind_assoc] at yields
    obtain ⟨node, child, later⟩ := yields.bind
    obtain ⟨siblings, others, last⟩ := later.bind
    obtain rfl := last.pure
    refine .cons ?_ (ih others)
    have ran := (loadChild_mends item (load_mends item)).mended child []
    obtain ⟨loaded, middle, here, kept⟩ := run_bind_eq_ok ran
    cases loaded with
    | node tree =>
      obtain ⟨rfl, rfl⟩ : tree = node ∧ middle = [] := by simpa [asChild] using kept
      exact here
    | document described => exact absurd (Prod.mk.inj kept).1 (by simp)

/-- A tree is loaded strictly just where it is loaded leniently and no warning is given, which is
where the data have no place to repair. Whatever is loaded leniently is loaded strictly, and in
silence, from the repaired data; and so is every child from its own repaired data, so children keep
their number and their places. -/
theorem strict_lenient_agree (data : Value) :
    (∀ loaded, (load true data).outcome.1 = .ok loaded ↔
      (load false data).outcome = (.ok loaded, [])) ∧
    (∀ loaded, (load true data).outcome.1 = .ok loaded ↔
      (load false data).outcome.1 = .ok loaded ∧ repair data = data) ∧
    (∀ loaded, (load false data).outcome.1 = .ok loaded →
      (load true (repair data)).outcome = (.ok loaded, [])) ∧
    ∀ items nodes, (loadItems false items).outcome.1 = .ok nodes →
      List.Forall₂
        (fun item node => (load true (repairChild item)).outcome = (.ok (.node node), []))
        items nodes := by
  have unwarned : ∀ loaded, (load true data).outcome.1 = .ok loaded ↔
      (load false data).outcome = (.ok loaded, []) := by
    intro loaded
    constructor
    · intro read
      exact ((load_agrees data).strictly (Prod.ext read rfl)).2
    · intro read
      have ran := ((load_agrees data).leniently read).2 rfl
      exact congrArg Prod.fst ran
  have repaired : ∀ loaded, (load false data).outcome.1 = .ok loaded →
      (load true (repair data)).outcome = (.ok loaded, []) := by
    intro loaded read
    exact (load_mends data).mended ⟨[], _, Prod.ext read rfl⟩ []
  refine ⟨unwarned, ?_, repaired, ?_⟩
  · intro loaded
    constructor
    · intro read
      have kept := repair_of_strict data ⟨[], _, Prod.ext read rfl⟩
      exact ⟨congrArg Prod.fst ((unwarned loaded).mp read), kept⟩
    · rintro ⟨read, kept⟩
      have ran := repaired loaded read
      rw [kept] at ran
      exact congrArg Prod.fst ran
  · intro items nodes read
    exact loadItems_each items ⟨[], _, Prod.ext read rfl⟩

/-- Every place that can be rejected, one inside another: the document among the children holds
rejected data itself, and goes with them. -/
def brokenData : Value :=
  .object [("node_type", .str "Document"), ("title", .str "t"), ("root", .object [
    ("node_type", .str "Container"), ("children", .list [
      .str "loose",
      .object [("node_type", .str "Table"), ("children", .list [])],
      .object [("node_type", .str "Paragraph"), ("children", .list [
        .object [("node_type", .str "Document"), ("title", .null), ("root", .object [
          ("node_type", .str "Container"), ("children", .int 1)])],
        .object [("node_type", .str "Strong"), ("children", .null)]])]])])]

def brokenTree : Loaded :=
  .document ⟨.str "t", [], .null, ⟨[placeholder, placeholder,
    .branch .paragraph [placeholder, .branch .strong [] (.object [])] (.object [])],
    .null, .object []⟩⟩

theorem brokenData_loads : (load false brokenData).outcome.1 = .ok brokenTree := by
  rfl

theorem strict_lenient_agree_broken :
    (load false brokenData).outcome.1 = .ok brokenTree ∧
      (load false brokenData).outcome.2.length = 5 ∧
      (load true (repair brokenData)).outcome = (.ok brokenTree, []) ∧
      repair brokenData = .object [("node_type", .str "Document"), ("title", .str "t"),
        ("root", .object [("node_type", .str "Container"), ("children", .list [
          emptyText, emptyText,
          .object [("node_type", .str "Paragraph"), ("children", .list [
            emptyText,
            .object [("node_type", .str "Strong"), ("children", .list [])]])]])])] ∧
      (loadItems false [.str "loose"]).outcome.1 = .ok [placeholder] ∧
      List.Forall₂
        (fun item node => (load true (repairChild item)).outcome = (.ok (.node node), []))
        [.str "loose"] [placeholder] :=
  ⟨brokenData_loads, rfl, (strict_lenient_agree brokenData).2.2.1 brokenTree brokenData_loads, rfl, rfl,
    (strict_lenient_agree brokenData).2.2.2 [.str "loose"] [placeholder] rfl⟩

end Folio.Tree
