import Folio.Proofs.Tree.Loading

/-! Which data describe a tree, said without loading: objects with the tag of a known kind, with the
fields that the kind asks for, and with well-formed data wherever loading goes on. Strict loading
accepts the data that are well formed, and no others. -/
namespace Folio.Tree

namespace Kind

def required : Kind → List String
  | .document => ["title"]
  | .leaf .codeBlock | .leaf .mathExpr | .leaf .diagram => ["source"]
  | .leaf .text | .leaf .inlineCode => ["content"]
  | .leaf .thematicBreak => []
  | .branch .heading => ["level", "anchor", "title"]
  | .branch .link => ["url"]
  | .branch _ => []

theorem name_of_ofName? {name : String} {kind : Kind} (found : ofName? name = some kind) :
    kind.name = name := by
  have named := List.find?_some found
  simpa using named

end Kind

def Tagged (fields : Fields) (kind : Kind) : Prop :=
  fields.lookup "node_type" = some (.str kind.name)

def Describes (kind : Kind) (data : Value) : Prop :=
  ∃ fields, data = .object fields ∧ Tagged fields kind

def Complete (kind : Kind) (fields : Fields) : Prop :=
  ∀ name ∈ kind.required, ∃ value, fields.lookup name = some value

/-- A whole number from 1 up; a boolean is none. -/
def HasLevel (fields : Fields) : Prop :=
  ∃ level : Int, fields.lookup "level" = some (.int level) ∧ 1 ≤ level

def IsRow (data : Value) : Prop := data.kind = .list ∨ data.kind = .str ∨ data.kind = .object

inductive WellFormed : Value → Prop
  | leaf {kind : LeafKind} {fields : Fields} (tagged : Tagged fields (.leaf kind))
      (complete : Complete (.leaf kind) fields) : WellFormed (.object fields)
  | branch {kind : BranchKind} {fields : Fields} (tagged : Tagged fields (.branch kind))
      (complete : Complete (.branch kind) fields) (levelled : kind = .heading → HasLevel fields)
      (listed : ∀ data, fields.lookup "children" = some data → data.kind = .list)
      (each : ∀ items, fields.lookup "children" = some (.list items) →
        ∀ item ∈ items, WellFormed item)
      (inner : ∀ items, fields.lookup "children" = some (.list items) →
        ∀ item ∈ items, ¬ Describes .document item) : WellFormed (.object fields)
  | document {fields : Fields} (tagged : Tagged fields .document)
      (complete : Complete .document fields)
      (root : ∀ data, fields.lookup "root" = some data → WellFormed data)
      (contained : ∀ data, fields.lookup "root" = some data → Describes (.branch .container) data)
      (authored : ∀ data, fields.lookup "authors" = some data → IsRow data) :
      WellFormed (.object fields)

theorem kindOf?_eq_some_iff {fields : Fields} {kind : Kind} :
    kindOf? fields = some kind ↔ Tagged fields kind := by
  constructor
  · intro found
    unfold kindOf? tagOf field at found
    cases tag : fields.lookup "node_type" with
    | none => simp [tag] at found
    | some value =>
      rw [tag, Option.getD_some] at found
      cases value with
      | str name => rw [Tagged, tag, Kind.name_of_ofName? found]
      | null | bool _ | int _ | float _ | list _ | object _ => simp at found
  · intro tagged
    simp [kindOf?, tagOf, field, show fields.lookup "node_type" = _ from tagged, Kind.ofName?_name]

theorem Tagged.unique {fields : Fields} {kind other : Kind} (first : Tagged fields kind)
    (second : Tagged fields other) : kind = other := by
  have found := kindOf?_eq_some_iff.mpr first
  rw [kindOf?_eq_some_iff.mpr second] at found
  exact (Option.some.inj found).symm

theorem not_tagged {fields : Fields} (untagged : kindOf? fields = none) {kind : Kind} :
    ¬ Tagged fields kind := by
  intro tagged
  rw [kindOf?_eq_some_iff.mpr tagged] at untagged
  exact absurd untagged (by simp)

theorem describes_object {kind : Kind} {fields : Fields} :
    Describes kind (.object fields) ↔ Tagged fields kind := by
  constructor
  · rintro ⟨others, same, tagged⟩
    rwa [Value.object.inj same]
  · intro tagged
    exact ⟨fields, rfl, tagged⟩

def SoundChildren (given : Option Value) : Prop :=
  ∀ data, given = some data →
    ∃ items, data = .list items ∧ ∀ item ∈ items, WellFormed item ∧ ¬ Describes .document item

def SoundRoot (given : Option Value) : Prop :=
  ∀ data, given = some data → WellFormed data ∧ Describes (.branch .container) data

theorem wellFormed_leaf_iff {kind : LeafKind} {fields : Fields}
    (tagged : Tagged fields (.leaf kind)) :
    WellFormed (.object fields) ↔ Complete (.leaf kind) fields := by
  constructor
  · intro wellFormed
    cases wellFormed with
    | leaf other complete =>
      obtain rfl := Kind.leaf.inj (tagged.unique other)
      exact complete
    | branch other => exact absurd (tagged.unique other) (by simp)
    | document other => exact absurd (tagged.unique other) (by simp)
  · exact .leaf tagged

theorem wellFormed_branch_iff {kind : BranchKind} {fields : Fields}
    (tagged : Tagged fields (.branch kind)) :
    WellFormed (.object fields) ↔ Complete (.branch kind) fields ∧
      (kind = .heading → HasLevel fields) ∧ SoundChildren (fields.lookup "children") := by
  constructor
  · intro wellFormed
    cases wellFormed with
    | leaf other => exact absurd (tagged.unique other) (by simp)
    | document other => exact absurd (tagged.unique other) (by simp)
    | branch other complete levelled listed each inner =>
      obtain rfl := Kind.branch.inj (tagged.unique other)
      refine ⟨complete, levelled, fun data given => ?_⟩
      have list := listed data given
      cases data with
      | list items =>
        exact ⟨items, rfl, fun item member =>
          ⟨each items given item member, inner items given item member⟩⟩
      | null | bool _ | int _ | float _ | str _ | object _ =>
        exact absurd list (by simp [Value.kind])
  · rintro ⟨complete, levelled, sound⟩
    refine .branch tagged complete levelled ?_ ?_ ?_
    · intro data given
      obtain ⟨items, rfl, -⟩ := sound data given
      rfl
    · intro items given item member
      obtain ⟨others, same, all⟩ := sound _ given
      obtain rfl := Value.list.inj same
      exact (all item member).1
    · intro items given item member
      obtain ⟨others, same, all⟩ := sound _ given
      obtain rfl := Value.list.inj same
      exact (all item member).2

theorem wellFormed_document_iff {fields : Fields} (tagged : Tagged fields .document) :
    WellFormed (.object fields) ↔ Complete .document fields ∧ SoundRoot (fields.lookup "root") ∧
      ∀ data, fields.lookup "authors" = some data → IsRow data := by
  constructor
  · intro wellFormed
    cases wellFormed with
    | leaf other => exact absurd (tagged.unique other) (by simp)
    | branch other => exact absurd (tagged.unique other) (by simp)
    | document _ complete root contained authored =>
      exact ⟨complete, fun data given => ⟨root data given, contained data given⟩, authored⟩
  · rintro ⟨complete, sound, authored⟩
    exact .document tagged complete (fun data given => (sound data given).1)
      (fun data given => (sound data given).2) authored

theorem require_of_lookup {kind : Kind} {name : String} {fields : Fields} {value : Value}
    (found : fields.lookup name = some value) : require kind name fields = pure value := by
  rw [require, found]

def loadChildrenAt (strict : Bool) (parent : BranchKind) : Option Value → Noted (List Node)
  | some data => loadChildList strict parent data
  | none => pure []

theorem loadChildren_eq (strict : Bool) (parent : BranchKind) (fields : Fields) :
    loadChildren strict parent fields =
      loadChildrenAt strict parent (fields.lookup "children") := by
  induction fields with
  | nil => rfl
  | cons field rest ih =>
    obtain ⟨name, data⟩ := field
    rw [loadChildren, List.lookup_cons, BEq.comm]
    cases "children" == name with
    | true => rfl
    | false => exact ih

def loadRootAt (strict : Bool) : Option Value → Noted Root
  | some data => do
    let loaded ← load strict data
    asRoot loaded
  | none => pure .empty

theorem loadRoot_eq (strict : Bool) (fields : Fields) :
    loadRoot strict fields = loadRootAt strict (fields.lookup "root") := by
  induction fields with
  | nil => rfl
  | cons field rest ih =>
    obtain ⟨name, data⟩ := field
    rw [loadRoot, List.lookup_cons, BEq.comm]
    cases "root" == name with
    | true => rfl
    | false => exact ih

theorem elements?_isSome_iff (data : Value) : data.elements?.isSome ↔ IsRow data := by
  cases data <;> simp [Value.elements?, IsRow, Value.kind]

theorem levelOf_int {level : Int} (positive : 1 ≤ level) :
    levelOf (.int level) = .ok level.toNat := by
  rw [levelOf, if_neg (by omega)]

theorem loadLeaf_of_complete {kind : LeafKind} {fields : Fields}
    (complete : Complete (.leaf kind) fields) :
    ∃ item, loadLeaf kind fields = pure item ∧ item.kind = kind := by
  cases kind with
  | thematicBreak => exact ⟨_, rfl, rfl⟩
  | codeBlock | mathExpr | diagram =>
    obtain ⟨source, found⟩ := complete "source" (by simp [Kind.required])
    exact ⟨_, by simp only [loadLeaf, require_of_lookup found, pure_bind, map_pure]; rfl, rfl⟩
  | text | inlineCode =>
    obtain ⟨content, found⟩ := complete "content" (by simp [Kind.required])
    exact ⟨_, by simp only [loadLeaf, require_of_lookup found, map_pure]; rfl, rfl⟩

theorem loadBranch_of_complete {kind : BranchKind} {fields : Fields}
    (complete : Complete (.branch kind) fields) :
    ∃ checked, loadBranch kind fields = pure checked ∧
      ((kind = .heading → HasLevel fields) → ∃ frame, checked = .ok frame ∧ frame.kind = kind) := by
  cases kind with
  | heading =>
    obtain ⟨level, levelled⟩ := complete "level" (by simp [Kind.required])
    obtain ⟨anchor, anchored⟩ := complete "anchor" (by simp [Kind.required])
    obtain ⟨title, titled⟩ := complete "title" (by simp [Kind.required])
    refine ⟨(levelOf level).map fun level => .heading level anchor title, ?_, fun sound => ?_⟩
    · simp only [loadBranch, require_of_lookup levelled, require_of_lookup anchored,
        require_of_lookup titled, pure_bind]
    · obtain ⟨number, given, positive⟩ := sound rfl
      obtain rfl := Option.some.inj (levelled.symm.trans given)
      exact ⟨.heading number.toNat anchor title, by rw [levelOf_int positive]; rfl, rfl⟩
  | link =>
    obtain ⟨url, found⟩ := complete "url" (by simp [Kind.required])
    exact ⟨.ok (.link url), by simp only [loadBranch, require_of_lookup found, pure_bind],
      fun _ => ⟨_, rfl, rfl⟩⟩
  | container | paragraph | blockQuote | list | listItem | emphasis | strong =>
    exact ⟨_, rfl, fun _ => ⟨_, rfl, rfl⟩⟩

theorem loadItems_of_each {items : List Value}
    (each : ∀ item ∈ items, ∃ tree, load true item = pure (.node tree)) :
    ∃ nodes, loadItems true items = pure nodes := by
  induction items with
  | nil => exact ⟨[], by rw [loadItems]⟩
  | cons item rest ih =>
    obtain ⟨tree, loaded⟩ := each item (by simp)
    obtain ⟨nodes, others⟩ := ih fun item member => each item (by simp [member])
    exact ⟨tree :: nodes, by rw [loadItems, loaded, others]; rfl⟩

theorem loadChildren_of_each {parent : BranchKind} {fields : Fields}
    (listed : ∀ data, fields.lookup "children" = some data → data.kind = .list)
    (each : ∀ items, fields.lookup "children" = some (.list items) →
      ∀ item ∈ items, ∃ tree, load true item = pure (.node tree)) :
    ∃ nodes, loadChildren true parent fields = pure nodes := by
  rw [loadChildren_eq]
  cases given : fields.lookup "children" with
  | none => exact ⟨[], rfl⟩
  | some data =>
    have list := listed data given
    cases data with
    | list items => exact loadItems_of_each (each items given)
    | null | bool _ | int _ | float _ | str _ | object _ => exact absurd list (by simp [Value.kind])

theorem loadAuthors_of_row {fields : Fields}
    (authored : ∀ data, fields.lookup "authors" = some data → IsRow data) :
    ∃ authors, loadAuthors fields = pure authors := by
  unfold loadAuthors field
  cases found : fields.lookup "authors" with
  | none => exact ⟨[], rfl⟩
  | some data =>
    have row := (elements?_isSome_iff data).mpr (authored data found)
    obtain ⟨authors, listed⟩ := Option.isSome_iff_exists.mp row
    exact ⟨authors, by simp [listed]⟩

theorem asRoot_of_container {loaded : Loaded} (container : loaded.kind = .branch .container) :
    ∃ root, asRoot loaded = pure root := by
  cases loaded with
  | document _ => exact absurd container (by simp [Loaded.kind])
  | node tree =>
    cases tree with
    | leaf item _ => exact absurd container (by simp [Loaded.kind, Node.kind])
    | branch frame children metadata =>
      cases frame with
      | container cssClass => exact ⟨⟨children, cssClass, metadata⟩, rfl⟩
      | _ => exact absurd container (by simp [Loaded.kind, Node.kind, Branch.kind])

theorem loadRoot_of_container {fields : Fields}
    (each : ∀ data, fields.lookup "root" = some data →
      ∃ loaded, load true data = pure loaded ∧ loaded.kind = .branch .container) :
    ∃ root, loadRoot true fields = pure root := by
  rw [loadRoot_eq]
  cases given : fields.lookup "root" with
  | none => exact ⟨.empty, rfl⟩
  | some data =>
    obtain ⟨loaded, ran, container⟩ := each data given
    simp only [loadRootAt, ran, pure_bind]
    exact asRoot_of_container container

/-- Well-formed data are loaded without an error or a notice, as a tree of the kind they say. -/
theorem load_of_wellFormed {data : Value} (wellFormed : WellFormed data) :
    ∃ loaded, load true data = pure loaded ∧ Describes loaded.kind data := by
  induction wellFormed with
  | @leaf kind fields tagged complete =>
    obtain ⟨item, found, same⟩ := loadLeaf_of_complete complete
    refine ⟨.node (.leaf item (metadata fields)), ?_, ?_⟩
    · rw [load, kindOf?_eq_some_iff.mpr tagged]
      simp only [found, pure_bind]
    · rw [describes_object, Loaded.kind, Node.kind, same]
      exact tagged
  | @branch kind fields tagged complete levelled listed each inner ih =>
    obtain ⟨checked, looked, sound⟩ := loadBranch_of_complete complete
    obtain ⟨frame, rfl, same⟩ := sound levelled
    obtain ⟨nodes, found⟩ : ∃ nodes, loadChildren true kind fields = pure nodes := by
      refine loadChildren_of_each listed fun items given item member => ?_
      obtain ⟨loaded, ran, described⟩ := ih items given item member
      cases loaded with
      | node tree => exact ⟨tree, ran⟩
      | document _ => exact absurd described (inner items given item member)
    refine ⟨.node (.branch frame nodes (metadata fields)), ?_, ?_⟩
    · rw [load, kindOf?_eq_some_iff.mpr tagged]
      simp only [looked, found, pure_bind]
      rfl
    · rw [describes_object, Loaded.kind, Node.kind, same]
      exact tagged
  | @document fields tagged complete root contained authored ih =>
    obtain ⟨title, titled⟩ := complete "title" (by simp [Kind.required])
    obtain ⟨authors, written⟩ := loadAuthors_of_row authored
    obtain ⟨root, rooted⟩ : ∃ root, loadRoot true fields = pure root := by
      refine loadRoot_of_container fun data given => ?_
      obtain ⟨loaded, ran, described⟩ := ih data given
      obtain ⟨others, rfl, tag⟩ := contained data given
      exact ⟨loaded, ran, (describes_object.mp described).unique tag⟩
    refine ⟨.document ⟨title, authors, field "license" .null fields, root⟩, ?_, ?_⟩
    · rw [load, kindOf?_eq_some_iff.mpr tagged]
      simp only [rooted, require_of_lookup titled, written, pure_bind]
    · exact describes_object.mpr tagged

theorem complete_of_loadLeaf {kind : LeafKind} {fields : Fields} {item : Leaf}
    (yields : Yields (loadLeaf kind fields) item) :
    Complete (.leaf kind) fields ∧ item.kind = kind := by
  cases kind with
  | thematicBreak =>
    obtain rfl := yields.pure
    exact ⟨by simp [Complete, Kind.required], rfl⟩
  | codeBlock | mathExpr =>
    obtain ⟨source, found, rest⟩ := yields.bind
    obtain rfl := rest.pure
    exact ⟨by simp [Complete, Kind.required, lookup_of_require found], rfl⟩
  | diagram | text | inlineCode =>
    obtain ⟨source, found, rfl⟩ := yields.map
    exact ⟨by simp [Complete, Kind.required, lookup_of_require found], rfl⟩

theorem levelOf_eq_ok {value : Value} {level : Nat} (judged : levelOf value = .ok level) :
    ∃ given : Int, value = .int given ∧ 1 ≤ given := by
  cases value with
  | int given =>
    rw [levelOf] at judged
    split at judged
    · exact absurd judged (by simp)
    · exact ⟨given, rfl, by omega⟩
  | null | bool _ | float _ | str _ | list _ | object _ => simp [levelOf] at judged

theorem complete_of_loadBranch {kind : BranchKind} {fields : Fields} {checked : Except Fault Branch}
    (yields : Yields (loadBranch kind fields) checked) : Complete (.branch kind) fields := by
  cases kind with
  | heading =>
    obtain ⟨level, levelled, rest⟩ := yields.bind
    obtain ⟨anchor, anchored, rest⟩ := rest.bind
    obtain ⟨title, titled, -⟩ := rest.bind
    simp [Complete, Kind.required, lookup_of_require levelled, lookup_of_require anchored,
      lookup_of_require titled]
  | link =>
    obtain ⟨url, found, -⟩ := yields.bind
    simp [Complete, Kind.required, lookup_of_require found]
  | container | paragraph | blockQuote | list | listItem | emphasis | strong =>
    simp [Complete, Kind.required]

theorem level_of_loadBranch {kind : BranchKind} {fields : Fields} {frame : Branch}
    (yields : Yields (loadBranch kind fields) (.ok frame)) :
    (kind = .heading → HasLevel fields) ∧ frame.kind = kind := by
  cases kind with
  | heading =>
    obtain ⟨level, levelled, rest⟩ := yields.bind
    obtain ⟨anchor, -, rest⟩ := rest.bind
    obtain ⟨title, -, rest⟩ := rest.bind
    obtain ⟨number, judged, rfl⟩ := Outcome.map_eq_ok_iff.mp rest.pure
    obtain ⟨given, rfl, positive⟩ := levelOf_eq_ok judged
    exact ⟨fun _ => ⟨given, lookup_of_require levelled, positive⟩, rfl⟩
  | link =>
    obtain ⟨url, -, rest⟩ := yields.bind
    obtain rfl := Except.ok.inj rest.pure
    exact ⟨nofun, rfl⟩
  | container | paragraph | blockQuote | list | listItem | emphasis | strong =>
    obtain rfl := Except.ok.inj yields.pure
    exact ⟨nofun, rfl⟩

theorem row_of_loadAuthors {fields : Fields} {authors : List Value}
    (yields : Yields (loadAuthors fields) authors) :
    ∀ data, fields.lookup "authors" = some data → IsRow data := by
  intro data given
  unfold loadAuthors field at yields
  simp only [given, Option.getD_some] at yields
  rw [← elements?_isSome_iff]
  cases listed : data.elements? with
  | some authors => rfl
  | none =>
    rw [listed] at yields
    exact (not_yields_throw yields).elim

theorem lookup_field_cons (name : String) (field : String × Value) (rest : Fields) :
    List.lookup name (field :: rest) =
      if field.1 == name then some field.2 else rest.lookup name := by
  rw [List.lookup_cons, BEq.comm]
  cases field.1 == name <;> rfl

mutual

theorem wellFormed_of_load : (data : Value) → {loaded : Loaded} → Yields (load true data) loaded →
    WellFormed data ∧ Describes loaded.kind data
  | .object fields, loaded, yields => by
    rw [load] at yields
    cases found : kindOf? fields with
    | none =>
      rw [found] at yields
      obtain ⟨node, rejected, -⟩ := yields.map
      exact (not_yields_reject rejected).elim
    | some kind =>
      have tagged := kindOf?_eq_some_iff.mp found
      rw [found] at yields
      cases kind with
      | document =>
        obtain ⟨root, rooted, rest⟩ := yields.bind
        obtain ⟨title, titled, rest⟩ := rest.bind
        obtain ⟨authors, written, rest⟩ := rest.bind
        obtain rfl := rest.pure
        have complete : Complete .document fields := by
          simp [Complete, Kind.required, lookup_of_require titled]
        exact ⟨(wellFormed_document_iff tagged).mpr
          ⟨complete, soundRoot_of_loadRoot fields rooted, row_of_loadAuthors written⟩,
          describes_object.mpr tagged⟩
      | leaf kind =>
        obtain ⟨item, looked, rest⟩ := yields.bind
        obtain rfl := rest.pure
        obtain ⟨complete, rfl⟩ := complete_of_loadLeaf looked
        exact ⟨.leaf tagged complete, describes_object.mpr tagged⟩
      | branch kind =>
        obtain ⟨checked, looked, rest⟩ := yields.bind
        obtain ⟨nodes, row, rest⟩ := rest.bind
        obtain ⟨frame, judged, rest⟩ := rest.bind
        obtain rfl := rest.pure
        rw [judged.ofExcept] at looked
        obtain ⟨levelled, rfl⟩ := level_of_loadBranch looked
        exact ⟨(wellFormed_branch_iff tagged).mpr ⟨complete_of_loadBranch looked, levelled,
          soundChildren_of_loadChildren frame.kind fields row⟩, describes_object.mpr tagged⟩
  | .null, _, yields | .bool _, _, yields | .int _, _, yields | .float _, _, yields
  | .str _, _, yields | .list _, _, yields => by
    obtain ⟨node, rejected, -⟩ := yields.map
    exact (not_yields_reject rejected).elim

theorem soundChildren_of_loadChildren (parent : BranchKind) : (fields : Fields) →
    {nodes : List Node} → Yields (loadChildren true parent fields) nodes →
    SoundChildren (fields.lookup "children")
  | [], _, _ => fun _ given => absurd given (by simp)
  | (name, data) :: rest, nodes, yields => by
    rw [loadChildren] at yields
    rw [lookup_field_cons]
    by_cases named : (name == "children") = true
    · rw [if_pos named] at yields ⊢
      rintro _ ⟨⟩
      exact each_of_loadChildList parent data yields
    · rw [if_neg named] at yields ⊢
      exact soundChildren_of_loadChildren parent rest yields

theorem each_of_loadChildList (parent : BranchKind) : (data : Value) → {nodes : List Node} →
    Yields (loadChildList true parent data) nodes →
    ∃ items, data = .list items ∧ ∀ item ∈ items, WellFormed item ∧ ¬ Describes .document item
  | .list items, nodes, yields => ⟨items, rfl, each_of_loadItems items yields⟩
  | .null, _, yields | .bool _, _, yields | .int _, _, yields | .float _, _, yields
  | .str _, _, yields | .object _, _, yields => by
    obtain ⟨node, rejected, -⟩ := yields.bind
    exact (not_yields_reject rejected).elim

theorem each_of_loadItems : (items : List Value) → {nodes : List Node} →
    Yields (loadItems true items) nodes →
    ∀ item ∈ items, WellFormed item ∧ ¬ Describes .document item
  | [], _, _ => by simp
  | item :: rest, nodes, yields => by
    rw [loadItems] at yields
    obtain ⟨loaded, here, later⟩ := yields.bind
    obtain ⟨node, child, later⟩ := later.bind
    obtain ⟨siblings, others, -⟩ := later.bind
    obtain ⟨wellFormed, described⟩ := wellFormed_of_load item here
    have inner : ¬ Describes .document item := by
      rintro ⟨fields, rfl, tagged⟩
      have same := tagged.unique (describes_object.mp described)
      cases loaded with
      | document _ => exact not_yields_reject child
      | node tree => cases tree <;> simp [Loaded.kind, Node.kind] at same
    intro other member
    rcases List.mem_cons.mp member with rfl | later
    · exact ⟨wellFormed, inner⟩
    · exact each_of_loadItems rest others other later

theorem soundRoot_of_loadRoot : (fields : Fields) → {root : Root} →
    Yields (loadRoot true fields) root → SoundRoot (fields.lookup "root")
  | [], _, _ => fun _ given => absurd given (by simp)
  | (name, data) :: rest, root, yields => by
    rw [loadRoot] at yields
    rw [lookup_field_cons]
    by_cases named : (name == "root") = true
    · rw [if_pos named] at yields ⊢
      obtain ⟨loaded, here, later⟩ := yields.bind
      obtain ⟨wellFormed, described⟩ := wellFormed_of_load data here
      rintro _ ⟨⟩
      refine ⟨wellFormed, ?_⟩
      unfold asRoot at later
      split at later
      · exact described
      · exact (not_yields_throw later).elim
    · rw [if_neg named] at yields ⊢
      exact soundRoot_of_loadRoot rest yields

end

def Accepted (data : Value) : Prop := ∃ loaded, (load true data).outcome.1 = .ok loaded

theorem accepted_iff (data : Value) : Accepted data ↔ WellFormed data := by
  constructor
  · rintro ⟨loaded, read⟩
    exact (wellFormed_of_load data ⟨[], _, Prod.ext read rfl⟩).1
  · intro wellFormed
    obtain ⟨loaded, ran, -⟩ := load_of_wellFormed wellFormed
    exact ⟨loaded, by rw [ran]; rfl⟩

end Folio.Tree
