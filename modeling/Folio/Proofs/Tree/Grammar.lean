import Folio.Proofs.Tree.WellFormed
import Mathlib.Logic.Relation

/-! Which fields of an object count. Whether strict loading accepts data rests on their decisive
fields alone, and the tree on the known ones; so fields of other names can be added anywhere, and
nothing changes. -/
namespace Folio.Tree

namespace Kind

/-- The fields that can be left out but not hold just anything. -/
def constrained : Kind → List String
  | .document => ["root", "authors"]
  | .branch _ => ["children"]
  | .leaf _ => []

def free : Kind → List String
  | .document => ["license"]
  | .leaf .codeBlock => ["language", "metadata"]
  | .leaf .mathExpr => ["display_mode", "metadata"]
  | .branch .container => ["css_class", "metadata"]
  | .branch .list => ["ordered", "metadata"]
  | .leaf _ | .branch _ => ["metadata"]

def decisive (kind : Kind) : List String := kind.required ++ kind.constrained

def known (kind : Kind) : List String := kind.decisive ++ kind.free

def nested : List String := ["children", "root"]

theorem required_plain (kind : Kind) : ∀ name ∈ kind.required, name ∉ nested := by
  rcases kind with _ | kind | kind <;> (try cases kind) <;> decide

theorem known_leaf_plain (kind : LeafKind) : ∀ name ∈ (Kind.leaf kind).known, name ∉ nested := by
  cases kind <;> decide

theorem known_branch_plain (kind : BranchKind) :
    ∀ name ∈ (Kind.branch kind).known, name ≠ "children" → name ∉ nested := by
  cases kind <;> decide

theorem children_mem_decisive (kind : BranchKind) : "children" ∈ (Kind.branch kind).decisive :=
  List.mem_append_right _ (List.mem_singleton.mpr rfl)

theorem metadata_mem_leaf (kind : LeafKind) : "metadata" ∈ (Kind.leaf kind).known := by
  cases kind <;> decide

theorem metadata_mem_branch (kind : BranchKind) : "metadata" ∈ (Kind.branch kind).known := by
  cases kind <;> decide

end Kind

mutual

/-- The same data but for fields that are not among the given ones of their object's kind, in any
order and at any depth that loading reaches. -/
inductive SameOn (counted : Kind → List String) : Value → Value → Prop
  | refl (data : Value) : SameOn counted data data
  | object {fields others : Fields}
      (tag : others.lookup "node_type" = fields.lookup "node_type")
      (each : ∀ kind, Tagged fields kind → ∀ name ∈ counted kind,
        SameAt counted name (fields.lookup name) (others.lookup name)) :
      SameOn counted (.object fields) (.object others)

inductive SameAt (counted : Kind → List String) : String → Option Value → Option Value → Prop
  | refl (name : String) (given : Option Value) : SameAt counted name given given
  | children {items others : List Value} (all : AllSameOn counted items others) :
      SameAt counted "children" (some (.list items)) (some (.list others))
  | root {data other : Value} (same : SameOn counted data other) :
      SameAt counted "root" (some data) (some other)

inductive AllSameOn (counted : Kind → List String) : List Value → List Value → Prop
  | nil : AllSameOn counted [] []
  | cons {item other : Value} {rest others : List Value} (same : SameOn counted item other)
      (all : AllSameOn counted rest others) : AllSameOn counted (item :: rest) (other :: others)

end

section SameOn

variable {counted : Kind → List String}

theorem SameAt.eq {name : String} {given other : Option Value}
    (same : SameAt counted name given other) (plain : name ∉ Kind.nested) : other = given := by
  cases same with
  | refl => rfl
  | children all => exact absurd plain (by decide)
  | root same => exact absurd plain (by decide)

theorem tagged_of_tag {fields others : Fields}
    (tag : others.lookup "node_type" = fields.lookup "node_type") {kind : Kind} :
    Tagged others kind ↔ Tagged fields kind := by
  rw [Tagged, Tagged, tag]

theorem SameOn.describes {data other : Value} (same : SameOn counted data other) (kind : Kind) :
    Describes kind other ↔ Describes kind data := by
  cases same with
  | refl => exact Iff.rfl
  | object tag each => rw [describes_object, describes_object, tagged_of_tag tag]

theorem complete_of_each {fields others : Fields} {kind : Kind}
    (each : ∀ name ∈ kind.decisive, SameAt counted name (fields.lookup name) (others.lookup name)) :
    Complete kind others ↔ Complete kind fields := by
  have asked : ∀ name ∈ kind.required, others.lookup name = fields.lookup name :=
    fun name member =>
      (each name (List.mem_append_left _ member)).eq (kind.required_plain name member)
  constructor
  · intro complete name member
    rw [← asked name member]
    exact complete name member
  · intro complete name member
    rw [asked name member]
    exact complete name member

end SameOn

theorem not_wellFormed_of_untagged {fields : Fields} (untagged : kindOf? fields = none) :
    ¬ WellFormed (.object fields) := by
  intro wellFormed
  cases wellFormed with
  | leaf tagged | branch tagged | document tagged => exact not_tagged untagged tagged

theorem kindOf?_of_tag {fields others : Fields}
    (tag : others.lookup "node_type" = fields.lookup "node_type") :
    kindOf? others = kindOf? fields := by
  rw [kindOf?, kindOf?, tagOf, tagOf, field, field, tag]

mutual

theorem wellFormed_sameOn : {data other : Value} → SameOn Kind.decisive data other →
    (WellFormed other ↔ WellFormed data)
  | _, _, .refl _ => Iff.rfl
  | .object fields, .object others, .object tag each => by
    cases found : kindOf? fields with
    | none =>
      have missing := (kindOf?_of_tag tag).trans found
      exact iff_of_false (not_wellFormed_of_untagged missing) (not_wellFormed_of_untagged found)
    | some kind =>
      have tagged := kindOf?_eq_some_iff.mp found
      have retagged := (tagged_of_tag tag).mpr tagged
      have complete := complete_of_each (each kind tagged)
      cases kind with
      | leaf kind => rw [wellFormed_leaf_iff retagged, wellFormed_leaf_iff tagged, complete]
      | branch kind =>
        have children := (sound_sameAt
          (each _ tagged "children" (Kind.children_mem_decisive kind))).1 rfl
        have level : kind = .heading → (HasLevel others ↔ HasLevel fields) := by
          rintro rfl
          have same := (each _ tagged "level" (by decide)).eq (by decide)
          rw [HasLevel, HasLevel, same]
        rw [wellFormed_branch_iff retagged, wellFormed_branch_iff tagged, complete, children,
          forall_congr' level]
      | document =>
        have root := (sound_sameAt (each _ tagged "root" (by decide))).2 rfl
        have authors := (each _ tagged "authors" (by decide)).eq (by decide)
        rw [wellFormed_document_iff retagged, wellFormed_document_iff tagged, complete, root,
          authors]

theorem sound_sameAt : {name : String} → {given other : Option Value} →
    SameAt Kind.decisive name given other →
    (name = "children" → (SoundChildren other ↔ SoundChildren given)) ∧
      (name = "root" → (SoundRoot other ↔ SoundRoot given))
  | _, _, _, .refl _ _ => ⟨fun _ => Iff.rfl, fun _ => Iff.rfl⟩
  | _, _, _, .children all => by
    have each := each_sameOn all
    refine ⟨fun _ => ?_, fun other => absurd other (by decide)⟩
    simpa [SoundChildren] using each
  | _, _, _, .root same => by
    have first := wellFormed_sameOn same
    refine ⟨fun other => absurd other (by decide), fun _ => ?_⟩
    simp [SoundRoot, first, same.describes]

theorem each_sameOn : {items others : List Value} → AllSameOn Kind.decisive items others →
    ((∀ item ∈ others, WellFormed item ∧ ¬ Describes .document item) ↔
      ∀ item ∈ items, WellFormed item ∧ ¬ Describes .document item)
  | _, _, .nil => Iff.rfl
  | _, _, .cons same all => by
    have first := wellFormed_sameOn same
    have later := each_sameOn all
    simp only [List.forall_mem_cons, first, same.describes, later]

end

section Lookups

variable {fields others : Fields}

theorem loadLeaf_of_each {kind : LeafKind}
    (each : ∀ name ∈ (Kind.leaf kind).known, others.lookup name = fields.lookup name) :
    loadLeaf kind others = loadLeaf kind fields := by
  cases kind <;>
    simp only [Kind.known, Kind.decisive, Kind.required, Kind.constrained, Kind.free,
      List.nil_append, List.cons_append, List.append_nil, List.forall_mem_cons] at each <;>
    simp only [loadLeaf, require, field, each]

theorem loadBranch_of_each {kind : BranchKind}
    (each : ∀ name ∈ (Kind.branch kind).known, name ≠ "children" →
      others.lookup name = fields.lookup name) :
    loadBranch kind others = loadBranch kind fields := by
  cases kind <;> simp_all [Kind.known, Kind.decisive, Kind.required, Kind.constrained, Kind.free,
    loadBranch, require, field]

theorem metadata_of_lookup (same : others.lookup "metadata" = fields.lookup "metadata") :
    metadata others = metadata fields := by
  rw [metadata, metadata, field, field, same]

end Lookups

mutual

theorem load_sameOn (strict : Bool) : {data other : Value} → SameOn Kind.known data other →
    load strict other = load strict data
  | _, _, .refl _ => rfl
  | .object fields, .object others, .object tag each => by
    rw [load, load, kindOf?_of_tag tag]
    cases found : kindOf? fields with
    | none => simp only [tagOf, field, tag]
    | some kind =>
      have tagged := kindOf?_eq_some_iff.mp found
      -- Fields that hold no further data are the same, not only alike.
      have plain : ∀ name ∈ kind.known, name ∉ Kind.nested →
          others.lookup name = fields.lookup name :=
        fun name member => (each kind tagged name member).eq
      cases kind with
      | leaf kind =>
        have looked : loadLeaf kind others = loadLeaf kind fields :=
          loadLeaf_of_each fun name member =>
            plain name member (Kind.known_leaf_plain kind name member)
        have data := metadata_of_lookup (plain _ (Kind.metadata_mem_leaf kind) (by decide))
        simp only [looked, data]
      | branch kind =>
        have looked : loadBranch kind others = loadBranch kind fields :=
          loadBranch_of_each fun name member other =>
            plain name member (Kind.known_branch_plain kind name member other)
        have children := (loadAt_sameAt strict (each _ tagged "children"
          (List.mem_append_left _ (Kind.children_mem_decisive kind)))).1 rfl kind
        have data := metadata_of_lookup (plain _ (Kind.metadata_mem_branch kind) (by decide))
        simp only [looked, loadChildren_eq, children, data]
      | document =>
        have root := (loadAt_sameAt strict (each _ tagged "root" (by decide))).2 rfl
        have title := plain "title" (by decide) (by decide)
        have authors := plain "authors" (by decide) (by decide)
        have license := plain "license" (by decide) (by decide)
        simp only [loadRoot_eq, root, require, title, loadAuthors, field, authors, license]

theorem loadAt_sameAt (strict : Bool) : {name : String} → {given other : Option Value} →
    SameAt Kind.known name given other →
    (name = "children" → ∀ parent,
      loadChildrenAt strict parent other = loadChildrenAt strict parent given) ∧
    (name = "root" → loadRootAt strict other = loadRootAt strict given)
  | _, _, _, .refl _ _ => ⟨fun _ _ => rfl, fun _ => rfl⟩
  | _, _, _, .children all => by
    have items := loadItems_sameOn strict all
    refine ⟨fun _ parent => ?_, fun other => absurd other (by decide)⟩
    rw [loadChildrenAt, loadChildrenAt, loadChildList, loadChildList, items]
  | _, _, _, .root same => by
    have first := load_sameOn strict same
    refine ⟨fun other => absurd other (by decide), fun _ => ?_⟩
    rw [loadRootAt, loadRootAt, first]

theorem loadItems_sameOn (strict : Bool) : {items others : List Value} →
    AllSameOn Kind.known items others → loadItems strict others = loadItems strict items
  | _, _, .nil => rfl
  | _, _, .cons same all => by
    have first := load_sameOn strict same
    have later := loadItems_sameOn strict all
    rw [loadItems, loadItems, first, later]

end

/-- A field is added to one of the objects that describe nodes, under a name that nodes of its kind
do not know. -/
inductive Enriched : Value → Value → Prop
  | here (front : Fields) {back : Fields} {name : String} {extra : Value} (plain : name ≠ "node_type")
      (unknown : ∀ kind, Tagged (front ++ back) kind → name ∉ kind.known) :
      Enriched (.object (front ++ back)) (.object (front ++ (name, extra) :: back))
  | child (front : Fields) {back : Fields} (before : List Value) {after : List Value}
      {item other : Value} (inside : Enriched item other) :
      Enriched (.object (front ++ ("children", .list (before ++ item :: after)) :: back))
        (.object (front ++ ("children", .list (before ++ other :: after)) :: back))
  | root (front : Fields) {back : Fields} {data other : Value} (inside : Enriched data other) :
      Enriched (.object (front ++ ("root", data) :: back))
        (.object (front ++ ("root", other) :: back))

theorem lookup_inserted {front back : Fields} {name other : String} (extra : Value)
    (apart : other ≠ name) :
    (front ++ (name, extra) :: back).lookup other = (front ++ back).lookup other := by
  rw [List.lookup_append, List.lookup_append, List.lookup_cons, beq_false_of_ne apart]

theorem allSameOn_refl {counted : Kind → List String} (items : List Value) :
    AllSameOn counted items items := by
  induction items with
  | nil => exact .nil
  | cons item rest ih => exact .cons (.refl item) ih

theorem allSameOn_replaced {counted : Kind → List String} {item other : Value}
    (before after : List Value) (same : SameOn counted item other) :
    AllSameOn counted (before ++ item :: after) (before ++ other :: after) := by
  induction before with
  | nil => exact .cons same (allSameOn_refl after)
  | cons first before ih => exact .cons (.refl first) ih

theorem sameOn_replaced {counted : Kind → List String} {front back : Fields} {name : String}
    {given other : Value} (tag : name ≠ "node_type")
    (same : SameAt counted name (some given) (some other)) :
    SameOn counted (.object (front ++ (name, given) :: back))
      (.object (front ++ (name, other) :: back)) := by
  refine .object ?_ fun kind tagged key member => ?_
  · rw [lookup_inserted _ tag.symm, lookup_inserted _ tag.symm]
  · by_cases here : key = name
    · subst here
      rw [List.lookup_append, List.lookup_append, List.lookup_cons_self, List.lookup_cons_self]
      -- A field of the same name further in front is the one that counts.
      cases front.lookup key with
      | some earlier => exact .refl _ _
      | none => exact same
    · rw [lookup_inserted _ here, lookup_inserted _ here]
      exact .refl _ _

theorem Enriched.sameOn {data other : Value} (enriched : Enriched data other) :
    SameOn Kind.known data other := by
  induction enriched with
  | @here front _ name extra plain unknown =>
    refine .object (lookup_inserted extra plain.symm) fun kind tagged key member => ?_
    have apart : key ≠ name := by
      rintro rfl
      exact unknown kind tagged member
    rw [lookup_inserted extra apart]
    exact .refl _ _
  | child _ before inside ih => exact sameOn_replaced (by decide) (.children (allSameOn_replaced before _ ih))
  | root _ inside ih => exact sameOn_replaced (by decide) (.root ih)

/-- Strict loading accepts the well-formed data and no others. Whether it accepts data rests on
their decisive fields, and all that comes of loading them, the tree or the error, rests on the known
fields; so it stays the same when fields of other names are added, however many and however deep. -/
theorem strict_grammar (data : Value) :
    (Accepted data ↔ WellFormed data) ∧
    (∀ other, SameOn Kind.decisive data other → (Accepted other ↔ Accepted data)) ∧
    (∀ other, SameOn Kind.known data other → load true other = load true data) ∧
    ∀ other, Relation.ReflTransGen Enriched data other → load true other = load true data := by
  refine ⟨accepted_iff data, ?_, fun other => load_sameOn true, ?_⟩
  · intro other same
    rw [accepted_iff, accepted_iff]
    exact wellFormed_sameOn same
  · intro other enriched
    induction enriched with
    | refl => rfl
    | tail _ step ih => exact (load_sameOn true step.sameOn).trans ih

def describedHeading (metadata : Value) : Value :=
  .object [("node_type", .str "Heading"), ("level", .int 2), ("anchor", .null), ("title", .int 7),
    ("metadata", metadata)]

def describedPage (heading : Value) : Value :=
  .object [("authors", .str "ab"), ("node_type", .str "Document"), ("title", .str "t"),
    ("root", .object [("node_type", .str "Container"), ("children", .list [.object
      [("node_type", .str "ThematicBreak")], heading])])]

def enrichedHeading : Value :=
  .object [("node_type", .str "Heading"), ("level", .int 2), ("source", .list []),
    ("anchor", .null), ("title", .int 7), ("metadata", .null)]

theorem heading_tagged (metadata : Value) :
    Tagged [("node_type", .str "Heading"), ("level", .int 2), ("anchor", .null),
      ("title", .int 7), ("metadata", metadata)] (.branch .heading) := rfl

theorem heading_enriched : Enriched (describedHeading .null) enrichedHeading := by
  refine .here [("node_type", .str "Heading"), ("level", .int 2)] (by decide) ?_
  intro kind tagged
  obtain rfl := tagged.unique (heading_tagged _)
  decide

theorem page_enriched :
    Enriched (describedPage (describedHeading .null)) (describedPage enrichedHeading) :=
  .root [("authors", .str "ab"), ("node_type", .str "Document"), ("title", .str "t")]
    (.child [("node_type", .str "Container")] [.object [("node_type", .str "ThematicBreak")]]
      heading_enriched)

theorem heading_remarked :
    SameOn Kind.decisive (describedHeading .null) (describedHeading (.int 1)) := by
  refine .object rfl fun kind tagged name member => ?_
  obtain rfl := tagged.unique (heading_tagged _)
  simp only [Kind.decisive, Kind.required, Kind.constrained, List.cons_append, List.nil_append,
    List.mem_cons, List.not_mem_nil, or_false] at member
  rcases member with rfl | rfl | rfl | rfl <;> exact .refl _ _

theorem strict_grammar_enriched :
    Accepted (describedPage (describedHeading .null)) ∧
      WellFormed (describedPage (describedHeading .null)) ∧
      SameOn Kind.decisive (describedHeading .null) (describedHeading (.int 1)) ∧
      (Accepted (describedHeading (.int 1)) ↔ Accepted (describedHeading .null)) ∧
      SameOn Kind.known (describedHeading .null) enrichedHeading ∧
      load true enrichedHeading = load true (describedHeading .null) ∧
      Relation.ReflTransGen Enriched (describedPage (describedHeading .null))
        (describedPage enrichedHeading) ∧
      load true (describedPage enrichedHeading) =
        load true (describedPage (describedHeading .null)) := by
  have accepted : Accepted (describedPage (describedHeading .null)) := ⟨_, rfl⟩
  have grammar := strict_grammar (describedPage (describedHeading .null))
  have heading := strict_grammar (describedHeading .null)
  exact ⟨accepted, grammar.1.mp accepted, heading_remarked, heading.2.1 _ heading_remarked,
    heading_enriched.sameOn, heading.2.2.1 _ heading_enriched.sameOn, .single page_enriched,
    grammar.2.2.2 _ (.single page_enriched)⟩

end Folio.Tree
