import Folio.Proofs.Tree.Lenient
import Folio.Proofs.Tree.WellFormed

/-! What goes wrong when a tree is loaded. Every error says that a value is not sound, but for one: a
document whose authors cannot be gone through item by item is an error of its own kind. It is met just
where loading comes upon such a document before anything else stops it. -/
namespace Folio.Tree

open Stateful (run run_bind run_bind_ok run_bind_error)

mutual

/-- Loading comes upon a document whose authors are of a kind that yields nothing, and nothing before
it is an error. -/
inductive Chokes (strict : Bool) : Value → Value.Kind → Prop
  | authors {fields : Fields} {root : Root} {title data : Value} (tagged : Tagged fields .document)
      (rooted : (loadRoot strict fields).outcome.1 = .ok root)
      (titled : fields.lookup "title" = some title)
      (given : fields.lookup "authors" = some data) (loose : ¬ IsRow data) :
      Chokes strict (.object fields) data.kind
  | root {fields : Fields} {data : Value} {kind : Value.Kind} (tagged : Tagged fields .document)
      (given : fields.lookup "root" = some data) (inside : Chokes strict data kind) :
      Chokes strict (.object fields) kind
  | children {parent : BranchKind} {fields : Fields} {items : List Value} {kind : Value.Kind}
      (tagged : Tagged fields (.branch parent)) (complete : Complete (.branch parent) fields)
      (given : fields.lookup "children" = some (.list items)) (inside : OneChokes strict items kind) :
      Chokes strict (.object fields) kind

inductive OneChokes (strict : Bool) : List Value → Value.Kind → Prop
  | here {item : Value} {rest : List Value} {kind : Value.Kind} (inside : Chokes strict item kind) :
      OneChokes strict (item :: rest) kind
  | later {item : Value} {rest : List Value} {kind : Value.Kind} {node : Node}
      (passed : (loadChild strict item).outcome.1 = .ok node) (inside : OneChokes strict rest kind) :
      OneChokes strict (item :: rest) kind

end

section Chokes

variable {strict : Bool} {fields : Fields} {kind : Value.Kind}

theorem chokes_document_iff (tagged : Tagged fields .document) :
    Chokes strict (.object fields) kind ↔
      (∃ data, fields.lookup "root" = some data ∧ Chokes strict data kind) ∨
      ∃ root, (loadRoot strict fields).outcome.1 = .ok root ∧
        ∃ title, fields.lookup "title" = some title ∧
          ∃ data, fields.lookup "authors" = some data ∧ ¬ IsRow data ∧ data.kind = kind := by
  constructor
  · intro chokes
    cases chokes with
    | authors _ rooted titled given loose => exact .inr ⟨_, rooted, _, titled, _, given, loose, rfl⟩
    | root _ given inside => exact .inl ⟨_, given, inside⟩
    | children other => exact absurd (tagged.unique other) (by simp)
  · rintro (⟨data, given, inside⟩ | ⟨root, rooted, title, titled, data, given, loose, rfl⟩)
    · exact .root tagged given inside
    · exact .authors tagged rooted titled given loose

theorem chokes_branch_iff {parent : BranchKind} (tagged : Tagged fields (.branch parent)) :
    Chokes strict (.object fields) kind ↔ Complete (.branch parent) fields ∧
      ∃ items, fields.lookup "children" = some (.list items) ∧ OneChokes strict items kind := by
  constructor
  · intro chokes
    cases chokes with
    | authors other => exact absurd (tagged.unique other) (by simp)
    | root other => exact absurd (tagged.unique other) (by simp)
    | children other complete given inside =>
      obtain rfl := Kind.branch.inj (tagged.unique other)
      exact ⟨complete, _, given, inside⟩
  · rintro ⟨complete, items, given, inside⟩
    exact .children tagged complete given inside

theorem not_chokes_leaf {leaf : LeafKind} (tagged : Tagged fields (.leaf leaf)) :
    ¬ Chokes strict (.object fields) kind := by
  intro chokes
  cases chokes with
  | authors other | root other | children other => exact absurd (tagged.unique other) (by simp)

theorem not_chokes_untagged (untagged : kindOf? fields = none) :
    ¬ Chokes strict (.object fields) kind := by
  intro chokes
  cases chokes with
  | authors tagged | root tagged | children tagged => exact not_tagged untagged tagged

theorem oneChokes_cons_iff {item : Value} {rest : List Value} :
    OneChokes strict (item :: rest) kind ↔ Chokes strict item kind ∨
      ∃ node, (loadChild strict item).outcome.1 = .ok node ∧ OneChokes strict rest kind := by
  constructor
  · intro chokes
    cases chokes with
    | here inside => exact .inl inside
    | later passed inside => exact .inr ⟨_, passed, inside⟩
  · rintro (inside | ⟨node, passed, inside⟩)
    · exact .here inside
    · exact .later passed inside

end Chokes

/-- The work comes to the same whatever was noticed before, it stops at a value that cannot be gone
through just where this is said of the value's kind, and all its other errors are of one category. -/
structure Diagnosed {α : Type} (work : Noted α) (chokes : Value.Kind → Prop) : Prop where
  steady : ∀ notices, (run work notices).1 = work.outcome.1
  choked : ∀ kind, work.outcome.1 = .error (.notIterable kind) ↔ chokes kind
  sorted : ∀ fault, work.outcome.1 = .error fault →
    fault.category = .value ∨ ∃ kind, fault = .notIterable kind

abbrev Orderly {α : Type} (work : Noted α) : Prop := Diagnosed work fun _ => False

section Diagnosed

variable {α β : Type}

theorem Diagnosed.congr {work : Noted α} {chokes other : Value.Kind → Prop}
    (diagnosed : Diagnosed work chokes) (same : ∀ kind, chokes kind ↔ other kind) :
    Diagnosed work other where
  steady := diagnosed.steady
  choked kind := (diagnosed.choked kind).trans (same kind)
  sorted := diagnosed.sorted

theorem outcome_bind_error {first : Noted α} {fault : Fault} (next : α → Noted β)
    (stopped : first.outcome.1 = .error fault) : (first >>= next).outcome.1 = .error fault :=
  congrArg Prod.fst (run_bind_error next (Prod.ext stopped rfl))

theorem outcome_bind_ok {first : Noted α} {next : α → Noted β} {value : α}
    (passed : first.outcome.1 = .ok value)
    (steady : ∀ notices, (run (next value) notices).1 = (next value).outcome.1) :
    (first >>= next).outcome.1 = (next value).outcome.1 := by
  have ran : run (first >>= next) [] = run (next value) first.outcome.2 :=
    run_bind_ok next (Prod.ext passed rfl)
  exact (congrArg Prod.fst ran).trans (steady _)

theorem Diagnosed.bind {first : Noted α} {next : α → Noted β} {chokes : Value.Kind → Prop}
    {later : α → Value.Kind → Prop} (here : Diagnosed first chokes)
    (rest : ∀ value, first.outcome.1 = .ok value → Diagnosed (next value) (later value)) :
    Diagnosed (first >>= next)
      (fun kind => chokes kind ∨ ∃ value, first.outcome.1 = .ok value ∧ later value kind) := by
  cases found : first.outcome.1 with
  | error fault =>
    have stopped := outcome_bind_error next found
    refine ⟨fun notices => ?_, fun kind => ?_, fun other failed => ?_⟩
    · have ran := here.steady notices
      rw [found] at ran
      exact (congrArg Prod.fst (run_bind_error next (Prod.ext ran rfl))).trans stopped.symm
    · have choked := here.choked kind
      rw [found] at choked
      simpa [stopped] using choked
    · rw [stopped] at failed
      obtain rfl := Except.error.inj failed
      exact here.sorted fault found
  | ok value =>
    have after := rest value found
    have passed := outcome_bind_ok found after.steady
    have clear : ∀ kind, ¬ chokes kind := by
      intro kind chokes
      rw [(here.choked kind).mpr chokes] at found
      exact absurd found (by simp)
    refine ⟨fun notices => ?_, fun kind => ?_, fun fault failed => ?_⟩
    · have ran := here.steady notices
      rw [found] at ran
      rw [passed]
      exact (congrArg Prod.fst (run_bind_ok next (Prod.ext ran rfl))).trans (after.steady _)
    · rw [passed, after.choked]
      simp [clear kind]
    · rw [passed] at failed
      exact after.sorted fault failed

theorem Orderly.bind {first : Noted α} {next : α → Noted β} (here : Orderly first)
    (rest : ∀ value, first.outcome.1 = .ok value → Orderly (next value)) :
    Orderly (first >>= next) :=
  (Diagnosed.bind here rest).congr (by simp)

theorem orderly_pure (value : α) : Orderly (pure value) where
  steady _ := rfl
  choked _ := iff_of_false (fun failed => nomatch failed) id
  sorted _ failed := nomatch failed

theorem orderly_throw {fault : Fault} (category : fault.category = .value) :
    Orderly (throw fault : Noted α) where
  steady _ := rfl
  choked kind := by
    refine ⟨fun failed => ?_, False.elim⟩
    rw [Except.error.inj failed] at category
    exact nomatch category
  sorted other failed := by
    obtain rfl := Except.error.inj failed
    exact .inl category

theorem Diagnosed.map {work : Noted α} {chokes : Value.Kind → Prop}
    (diagnosed : Diagnosed work chokes) (f : α → β) : Diagnosed (f <$> work) chokes := by
  rw [map_eq_pure_bind]
  exact (diagnosed.bind fun value _ => orderly_pure (f value)).congr (by simp)

end Diagnosed

theorem orderly_require (kind : Kind) (name : String) (fields : Fields) :
    Orderly (require kind name fields) := by
  unfold require
  cases fields.lookup name with
  | none => exact orderly_throw rfl
  | some value => exact orderly_pure value

theorem outcome_require {kind : Kind} {name : String} {fields : Fields} {value : Value} :
    (require kind name fields).outcome.1 = .ok value ↔ fields.lookup name = some value := by
  constructor
  · intro passed
    exact lookup_of_require ⟨[], _, Prod.ext passed rfl⟩
  · intro found
    rw [require_of_lookup found]
    rfl

theorem loadBranch_passes_iff {kind : BranchKind} {fields : Fields} :
    (∃ checked, (loadBranch kind fields).outcome.1 = .ok checked) ↔
      Complete (.branch kind) fields := by
  constructor
  · rintro ⟨checked, passed⟩
    exact complete_of_loadBranch ⟨[], _, Prod.ext passed rfl⟩
  · intro complete
    obtain ⟨checked, looked, -⟩ := loadBranch_of_complete complete
    exact ⟨checked, by rw [looked]; rfl⟩

theorem orderly_ofExcept {α : Type} {outcome : Except Fault α}
    (sorted : ∀ fault, outcome = .error fault → fault.category = .value) :
    Orderly (MonadExcept.ofExcept outcome : Noted α) := by
  cases outcome with
  | ok value => exact orderly_pure value
  | error fault => exact orderly_throw (sorted fault rfl)

theorem orderly_loadLeaf (kind : LeafKind) (fields : Fields) : Orderly (loadLeaf kind fields) := by
  cases kind with
  | thematicBreak => exact orderly_pure _
  | codeBlock | mathExpr => exact (orderly_require _ _ _).bind fun _ _ => orderly_pure _
  | diagram | text | inlineCode => exact (orderly_require _ _ _).map _

theorem orderly_loadBranch (kind : BranchKind) (fields : Fields) :
    Orderly (loadBranch kind fields) := by
  cases kind with
  | heading =>
    exact (orderly_require _ _ _).bind fun _ _ => (orderly_require _ _ _).bind fun _ _ =>
      (orderly_require _ _ _).bind fun _ _ => orderly_pure _
  | link => exact (orderly_require _ _ _).bind fun _ _ => orderly_pure _
  | container | paragraph | blockQuote | list | listItem | emphasis | strong => exact orderly_pure _

theorem category_of_worded {fault other : Fault} (failed : fault.worded = .error other) :
    other.category = .value := by
  unfold Fault.worded at failed
  split at failed
  · exact absurd failed (by simp)
  · rw [← Except.error.inj failed]
    rfl

theorem category_raised {fault : Fault} (category : fault.category = .value) :
    fault.raised.category = .value := by
  unfold Fault.raised
  split
  · exact category
  · next failed => exact category_of_worded failed

theorem category_of_levelOf {value : Value} {fault : Fault} (judged : levelOf value = .error fault) :
    fault.category = .value := by
  cases value with
  | int given =>
    rw [levelOf] at judged
    split at judged
    · rw [← Except.error.inj judged]
      exact category_raised rfl
    · exact absurd judged (by simp)
  | null | bool _ | float _ | str _ | list _ | object _ =>
    rw [← Except.error.inj judged]
    rfl

theorem category_of_loadBranch {kind : BranchKind} {fields : Fields} {fault : Fault}
    (yields : Yields (loadBranch kind fields) (.error fault)) : fault.category = .value := by
  cases kind with
  | heading =>
    obtain ⟨level, _, rest⟩ := yields.bind
    obtain ⟨anchor, _, rest⟩ := rest.bind
    obtain ⟨title, _, rest⟩ := rest.bind
    have judged := rest.pure
    cases number : levelOf level with
    | ok n => simp [number, Except.map] at judged
    | error found =>
      rw [number] at judged
      obtain rfl := Except.error.inj judged
      exact category_of_levelOf number
  | link =>
    obtain ⟨url, _, rest⟩ := yields.bind
    exact nomatch rest.pure
  | container | paragraph | blockQuote | list | listItem | emphasis | strong =>
    exact nomatch yields.pure

theorem orderly_reject (strict : Bool) {fault : Fault} (category : fault.category = .value) :
    Orderly (reject strict fault) := by
  -- The message comes first, and a message that cannot be put together fails alike.
  refine Orderly.bind (orderly_ofExcept fun other failed => ?_) fun message _ => ?_
  · exact category_of_worded failed
  · cases strict with
    | true => exact orderly_throw category
    | false =>
      refine ⟨fun _ => rfl, fun _ => iff_of_false (fun failed => nomatch failed) id, ?_⟩
      exact fun _ failed => nomatch failed

theorem orderly_asChild (strict : Bool) (loaded : Loaded) : Orderly (asChild strict loaded) := by
  cases loaded with
  | node tree => exact orderly_pure tree
  | document _ => exact orderly_reject strict rfl

theorem orderly_asRoot (loaded : Loaded) : Orderly (asRoot loaded) := by
  unfold asRoot
  split
  · exact orderly_pure _
  · exact orderly_throw rfl

theorem diagnosed_loadAuthors (fields : Fields) :
    Diagnosed (loadAuthors fields) fun kind =>
      ∃ data, fields.lookup "authors" = some data ∧ ¬ IsRow data ∧ data.kind = kind := by
  unfold loadAuthors field
  cases given : fields.lookup "authors" with
  | none =>
    refine (orderly_pure []).congr fun kind => ?_
    simp
  | some data =>
    have row := elements?_isSome_iff data
    dsimp only [Option.getD_some]
    cases listed : data.elements? with
    | some authors =>
      have sound : IsRow data := row.mp (by rw [listed]; rfl)
      refine (orderly_pure authors).congr fun kind => ?_
      simp [sound]
    | none =>
      have loose : ¬ IsRow data := by
        rw [← row, listed]
        simp
      refine ⟨fun _ => rfl, fun kind => ?_, ?_⟩
      · constructor
        · intro failed
          exact ⟨data, rfl, loose, Fault.notIterable.inj (Except.error.inj failed)⟩
        · rintro ⟨_, ⟨⟩, _, rfl⟩
          rfl
      · intro fault failed
        exact .inr ⟨data.kind, (Except.error.inj failed).symm⟩

mutual

theorem load_diagnosed (strict : Bool) : (data : Value) →
    Diagnosed (load strict data) (Chokes strict data)
  | .object fields => by
    rw [load]
    cases found : kindOf? fields with
    | none =>
      refine ((orderly_reject strict rfl).map _).congr fun kind => ?_
      exact iff_of_false id (not_chokes_untagged found)
    | some kind =>
      have tagged := kindOf?_eq_some_iff.mp found
      cases kind with
      | document =>
        refine ((loadRoot_diagnosed strict fields).bind fun root _ =>
          Diagnosed.bind (orderly_require .document "title" fields) fun title _ =>
            (diagnosed_loadAuthors fields).bind fun authors _ => orderly_pure _).congr fun kind => ?_
        rw [chokes_document_iff tagged]
        simp [outcome_require]
      | leaf kind =>
        refine ((orderly_loadLeaf kind fields).bind fun _ _ => orderly_pure _).congr fun kind => ?_
        exact iff_of_false id (not_chokes_leaf tagged)
      | branch kind =>
        refine (Diagnosed.bind (orderly_loadBranch kind fields) fun checked looked =>
          (loadChildren_diagnosed strict kind fields).bind fun nodes _ =>
            Orderly.bind (orderly_ofExcept ?_) fun frame _ => orderly_pure _).congr fun given => ?_
        · rintro fault rfl
          exact category_of_loadBranch ⟨[], _, Prod.ext looked rfl⟩
        · rw [chokes_branch_iff tagged, ← loadBranch_passes_iff]
          simp
  | .null | .bool _ | .int _ | .float _ | .str _ | .list _ => by
    refine ((orderly_reject strict rfl).map _).congr fun kind => ?_
    exact iff_of_false id nofun

theorem loadChildren_diagnosed (strict : Bool) (parent : BranchKind) : (fields : Fields) →
    Diagnosed (loadChildren strict parent fields) fun kind =>
      ∃ items, fields.lookup "children" = some (.list items) ∧ OneChokes strict items kind
  | [] => by
    refine (orderly_pure []).congr fun kind => ?_
    simp
  | (name, data) :: rest => by
    rw [loadChildren]
    simp only [lookup_field_cons]
    by_cases named : (name == "children") = true
    · rw [if_pos named]
      refine (loadChildList_diagnosed strict parent data).congr fun kind => ?_
      simp [named]
    · rw [if_neg named]
      refine (loadChildren_diagnosed strict parent rest).congr fun kind => ?_
      simp [named]

theorem loadChildList_diagnosed (strict : Bool) (parent : BranchKind) : (data : Value) →
    Diagnosed (loadChildList strict parent data) fun kind =>
      ∃ items, data = .list items ∧ OneChokes strict items kind
  | .list items => by
    refine (loadItems_diagnosed strict items).congr fun kind => ?_
    simp
  | .null | .bool _ | .int _ | .float _ | .str _ | .object _ => by
    refine ((orderly_reject strict rfl).bind fun _ _ => orderly_pure []).congr fun kind => ?_
    simp

theorem loadItems_diagnosed (strict : Bool) : (items : List Value) →
    Diagnosed (loadItems strict items) (OneChokes strict items)
  | [] => (orderly_pure []).congr fun kind => iff_of_false id nofun
  | item :: rest => by
    have child : Diagnosed (loadChild strict item) (Chokes strict item) := by
      refine ((load_diagnosed strict item).bind fun loaded _ => orderly_asChild strict loaded).congr
        fun kind => ?_
      simp
    have later := loadItems_diagnosed strict rest
    have both := child.bind fun node _ => later.bind fun nodes _ => orderly_pure (node :: nodes)
    rw [loadChild, bind_assoc] at both
    rw [loadItems]
    refine both.congr fun kind => ?_
    rw [oneChokes_cons_iff]
    simp [loadChild]

theorem loadRoot_diagnosed (strict : Bool) : (fields : Fields) →
    Diagnosed (loadRoot strict fields) fun kind =>
      ∃ data, fields.lookup "root" = some data ∧ Chokes strict data kind
  | [] => by
    refine (orderly_pure Root.empty).congr fun kind => ?_
    simp
  | (name, data) :: rest => by
    rw [loadRoot]
    simp only [lookup_field_cons]
    by_cases named : (name == "root") = true
    · rw [if_pos named]
      refine ((load_diagnosed strict data).bind fun loaded _ => orderly_asRoot loaded).congr
        fun kind => ?_
      simp [named]
    · rw [if_neg named]
      refine (loadRoot_diagnosed strict rest).congr fun kind => ?_
      simp [named]

end

/-- A tag that cannot be shown is an error in lenient loading too, which has no warning for it. -/
theorem load_unshown {fields : Fields} (untagged : kindOf? fields = none)
    (unwritable : (tagOf fields).isWritable = false) (strict : Bool) :
    (load strict (.object fields)).outcome = (.error (.tooManyDigits none), []) := by
  have unworded : (Fault.unknownTag (tagOf fields)).worded = .error (.tooManyDigits none) := by
    simp [Fault.worded, Fault.shown, unwritable]
  rw [load, untagged, reject, unworded]
  rfl

/-- Loading ends with a tree or with an error of the one category, unless it comes upon a document
whose authors cannot be gone through; and where it does, this is the error. -/
theorem load_errors_sorted (strict : Bool) (data : Value) :
    (((∃ loaded, (load strict data).outcome.1 = .ok loaded) ∨
        ∃ fault, (load strict data).outcome.1 = .error fault ∧ fault.category = .value) ↔
      ∀ kind, ¬ Chokes strict data kind) ∧
    ∀ kind, (load strict data).outcome.1 = .error (.notIterable kind) ↔ Chokes strict data kind := by
  have diagnosed := load_diagnosed strict data
  refine ⟨?_, diagnosed.choked⟩
  constructor
  · rintro (⟨loaded, passed⟩ | ⟨fault, failed, category⟩) kind chokes
    · rw [(diagnosed.choked kind).mpr chokes] at passed
      exact nomatch passed
    · rw [(diagnosed.choked kind).mpr chokes] at failed
      rw [← Except.error.inj failed] at category
      exact nomatch category
  · intro clear
    cases found : (load strict data).outcome.1 with
    | ok loaded => exact .inl ⟨loaded, rfl⟩
    | error fault =>
      rcases diagnosed.sorted fault found with category | ⟨kind, rfl⟩
      · exact .inr ⟨fault, rfl, category⟩
      · exact absurd ((diagnosed.choked kind).mp found) (clear kind)

/-- A document among children that would be dropped for a warning, and whose authors stop it all. -/
def chokingData : Value :=
  .object [("node_type", .str "Paragraph"), ("children", .list [.str "loose",
    .object [("node_type", .str "Document"), ("title", .null), ("authors", .bool true)],
    .object [("node_type", .str "Text")]])]

theorem chokingData_chokes : Chokes false chokingData .bool := by
  refine @Chokes.children _ .paragraph _ _ _ rfl ?_ rfl (@OneChokes.later _ _ _ _ placeholder rfl
    (.here ?_))
  · simp [Complete, Kind.required]
  · exact @Chokes.authors _ _ _ _ (.bool true) rfl rfl rfl rfl (by simp [IsRow, Value.kind])

theorem load_errors_sorted_choking :
    Chokes false chokingData .bool ∧
      (load false chokingData).outcome.1 = .error (.notIterable .bool) ∧
      ∃ fault, (load true chokingData).outcome.1 = .error fault ∧ fault.category = .value := by
  have stopped := ((load_errors_sorted false chokingData).2 .bool).mpr chokingData_chokes
  exact ⟨chokingData_chokes, stopped, .notANode .str, rfl, rfl⟩

def authorlessData : Value :=
  .object [("node_type", .str "Document"), ("title", .str "t"), ("authors", .null)]

/-- Not every data that describe no tree are refused as unsound values. -/
theorem authorlessData_error :
    (load true authorlessData).outcome.1 = .error (.notIterable .null) ∧
      (load false authorlessData).outcome.1 = .error (.notIterable .null) ∧
      (Fault.notIterable .null).message = "'NoneType' object is not iterable" ∧
      ¬ ∀ (strict : Bool) (data : Value), (∃ loaded, (load strict data).outcome.1 = .ok loaded) ∨
        ∃ fault, (load strict data).outcome.1 = .error fault ∧ fault.category = .value := by
  refine ⟨rfl, rfl, rfl, fun sorted => ?_⟩
  rcases sorted true authorlessData with ⟨loaded, passed⟩ | ⟨fault, failed, category⟩
  · exact nomatch passed
  · rw [← Except.error.inj failed] at category
    exact nomatch category

end Folio.Tree
