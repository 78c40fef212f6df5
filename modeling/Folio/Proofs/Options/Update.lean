import Folio.Options.History
import Folio.Proofs.Outcome

/-! What options are made of. Options are of a kind and hold a value for every field of that kind; one
statement says when values make options and which, and all that is known of updates follows from it. -/
namespace Folio.Options

def fieldNames (kind : Kind) : List String := (default kind).fields.map Prod.fst

/-- Fields with some of them given anew. Fields that were not there come last. -/
def overridden (fields given : Fields) : Fields :=
  fields.map (fun field => (field.1, (given.lookup field.1).getD field.2)) ++
    given.filter fun field => (fields.lookup field.1).isNone

theorem lookup_renewed (fields given : Fields) (name : String) :
    (fields.map fun field => (field.1, (given.lookup field.1).getD field.2)).lookup name =
      (fields.lookup name).map fun value => (given.lookup name).getD value := by
  induction fields with
  | nil => rfl
  | cons field rest ih =>
    obtain ⟨key, value⟩ := field
    by_cases same : name = key
    · simp [same]
    · have other : (name == key) = false := beq_false_of_ne same
      simp [List.lookup_cons, other, ih]

theorem lookup_filter (keep : String → Bool) (fields : Fields) (name : String)
    (kept : keep name = true) :
    (fields.filter fun field => keep field.1).lookup name = fields.lookup name := by
  induction fields with
  | nil => rfl
  | cons field rest ih =>
    obtain ⟨key, value⟩ := field
    by_cases same : name = key
    · subst same
      simp [kept]
    · have other : (name == key) = false := beq_false_of_ne same
      by_cases stays : keep key = true <;> simp [stays, List.lookup_cons, other, ih]

theorem lookup_overridden (fields given : Fields) (name : String) :
    (overridden fields given).lookup name = (given.lookup name).or (fields.lookup name) := by
  rw [overridden, List.lookup_append, lookup_renewed]
  cases found : fields.lookup name with
  | some value => cases given.lookup name <;> rfl
  | none =>
    have new := lookup_filter (fun name => (fields.lookup name).isNone) given name (by simp [found])
    rw [new]
    simp

theorem mem_names_overridden {fields given : Fields} {name : String} :
    name ∈ (overridden fields given).map Prod.fst ↔
      name ∈ fields.map Prod.fst ∨ name ∈ given.map Prod.fst := by
  have looked : ∀ fields : Fields,
      name ∈ fields.map Prod.fst ↔ (fields.lookup name).isSome = true := by
    intro fields
    rw [List.lookup_isSome_iff]
    simp
  rw [looked, looked, looked, lookup_overridden, Option.isSome_or, Bool.or_eq_true, or_comm]

theorem names_fields (options : Options) : options.fields.map Prod.fst = fieldNames options.kind := by
  cases options <;> rfl

@[simp] theorem kind_default (kind : Kind) : (default kind).kind = kind := by
  cases kind <;> rfl

theorem exists_lookup_fields (options : Options) {name : String}
    (known : name ∈ fieldNames options.kind) : ∃ value, options.fields.lookup name = some value := by
  rw [← names_fields] at known
  exact Option.isSome_iff_exists.mp (List.lookup_isSome_iff.mpr (by simpa using known))

theorem takes_eq (kind : Kind) (name : String) :
    (signature kind).takes name = (fieldNames kind).contains name := rfl

theorem checkNames_eq_ok_iff {kind : Kind} {callee : String} {names : List String} :
    (signature kind).checkNames callee names = .ok () ↔ ∀ name ∈ names, name ∈ fieldNames kind := by
  cases found : names.find? fun name => !(signature kind).takes name with
  | some name =>
    have stray := List.find?_some found
    simp only [Signature.checkNames, found, reduceCtorEq, false_iff]
    intro known
    rw [takes_eq, List.contains_iff_mem.mpr (known name (List.mem_of_find?_eq_some found))] at stray
    exact absurd stray (by simp)
  | none =>
    have none_required : (signature kind).required = [] := rfl
    simp only [Signature.checkNames, found, none_required, List.filter_nil, true_iff]
    intro name member
    have taken := List.find?_eq_none.mp found name member
    rw [takes_eq] at taken
    exact List.contains_iff_mem.mp (by simpa using taken)

theorem checkNames_eq_error {kind : Kind} {front back : List String} {name : String}
    (known : ∀ earlier ∈ front, earlier ∈ fieldNames kind) (unknown : name ∉ fieldNames kind)
    (callee : String) :
    (signature kind).checkNames callee (front ++ name :: back) =
      .error (Signature.stray callee name) := by
  have passed : front.find? (fun name => !(signature kind).takes name) = none := by
    rw [List.find?_eq_none]
    intro earlier member
    simp [takes_eq, known earlier member]
  have stray : (!(signature kind).takes name) = true := by simp [takes_eq, unknown]
  have found : (front ++ name :: back).find? (fun name => !(signature kind).takes name) =
      some name := by
    rw [List.find?_append, passed, Option.none_or, List.find?_cons, stray]
  simp only [Signature.checkNames, found]

/-- What options of a kind keep to. -/
def Valid : Options → Prop
  | .base _ => True
  | .page own => own.Valid

/-- Values that the field of a name can hold. A title has a character that is no white space, themes
are known ones, and a switch takes anything. -/
structure Accepts (name : String) (value : Value) : Prop where
  known : name ∈ fieldNames .page
  title : name = "summary_title" →
    ∃ title, value = .str title ∧ ∃ c ∈ title.toList, Text.isBlank c = false
  theme : name = "mermaid_dark_theme" ∨ name = "mermaid_light_theme" →
    ∃ theme : Theme, value = .str theme.name

theorem says_iff (text : List Char) : Text.trim text ≠ [] ↔ ∃ c ∈ text, Text.isBlank c = false := by
  rw [ne_eq, Text.trim_eq_nil_iff]
  simp

theorem titleOf_eq_ok_iff {value : Value} {title : String} :
    titleOf value = .ok title ↔ value = .str title ∧ Text.trim title.toList ≠ [] := by
  cases value with
  | str text =>
    have given : (Value.str text).text? "strip" = .ok text := rfl
    rw [titleOf, given, Outcome.bind_eq_ok_iff]
    by_cases blank : Text.trim text.toList = []
    · simp only [Except.ok.injEq, List.isEmpty_iff, exists_eq_left', blank, ↓reduceIte, reduceCtorEq,
        Value.str.injEq, ne_eq, false_iff, not_and, not_not]
      rintro rfl
      exact blank
    · simp only [Except.ok.injEq, List.isEmpty_iff, exists_eq_left', blank, ↓reduceIte,
        Value.str.injEq, ne_eq, iff_self_and]
      rintro rfl
      exact blank
  | null | bool _ | int _ | float _ | list _ | object _ =>
    simp [titleOf, Value.text?, Outcome.bind_eq_ok_iff]

theorem name_of_ofName? {name : String} {theme : Theme} (found : Theme.ofName? name = some theme) :
    theme.name = name := by
  simpa using List.find?_some found

theorem themeOf_eq_ok_iff {field : String} {value : Value} {theme : Theme} :
    themeOf field value = .ok theme ↔ value = .str theme.name := by
  cases value with
  | str name =>
    rw [Value.str.injEq, themeOf]
    cases found : Theme.ofName? name with
    | some other =>
      obtain rfl := name_of_ofName? found
      simp only [Except.ok.injEq]
      constructor
      · rintro rfl
        rfl
      · intro same
        exact Option.some.inj (found.symm.trans (same ▸ Theme.ofName?_name theme))
    | none =>
      simp only [reduceCtorEq, false_iff]
      rintro rfl
      simp [Theme.ofName?_name] at found
  | null | bool _ | int _ | float _ | list _ | object _ => simp [themeOf]

theorem forall_fieldNames_page {holds : String → Prop} :
    (∀ name ∈ fieldNames .page, holds name) ↔
      holds "fail_on_missing_plugin" ∧ holds "summary" ∧ holds "summary_title" ∧
        holds "mermaid_dark_theme" ∧ holds "mermaid_light_theme" ∧
        holds "katex_throw_on_error" := by
  simp [fieldNames, default, Page.default, fields, Page.fields]

theorem lookup_page (own : Page) (valueOf : String → Value) :
    (∀ name ∈ fieldNames .page, (Options.page own).fields.lookup name = some (valueOf name)) ↔
      own.failOnMissingPlugin = valueOf "fail_on_missing_plugin" ∧
        own.summary = valueOf "summary" ∧ .str own.summaryTitle = valueOf "summary_title" ∧
        .str own.darkTheme.name = valueOf "mermaid_dark_theme" ∧
        .str own.lightTheme.name = valueOf "mermaid_light_theme" ∧
        own.throwOnError = valueOf "katex_throw_on_error" := by
  rw [forall_fieldNames_page]
  simp [fields, Page.fields, List.lookup_cons]

/-- The value that the field of a name gets where these values are given. -/
def valueFor (kind : Kind) (given : Fields) (name : String) : Value :=
  ((given.lookup name).orElse fun _ => (default kind).fields.lookup name).getD .null

/-- Values make just the options that hold them, if these are valid. -/
theorem ofFields_eq_ok_iff {kind : Kind} {given : Fields} {made : Options} :
    ofFields kind given = .ok made ↔ made.kind = kind ∧ made.Valid ∧
      ∀ name ∈ fieldNames kind, made.fields.lookup name = some (valueFor kind given name) := by
  cases kind with
  | base =>
    have reads : ofFields .base given = .ok (.base (valueFor .base given "fail_on_missing_plugin")) :=
      rfl
    rw [reads, Except.ok.injEq]
    cases made with
    | base failOnMissingPlugin => simp [kind, Valid, fields, fieldNames, default, eq_comm]
    | page own => simp [kind]
  | page =>
    have reads : ofFields .page given = (do
        let summaryTitle ← titleOf (valueFor .page given "summary_title")
        let darkTheme ← themeOf "mermaid_dark_theme" (valueFor .page given "mermaid_dark_theme")
        let lightTheme ← themeOf "mermaid_light_theme" (valueFor .page given "mermaid_light_theme")
        .ok (.page {
          failOnMissingPlugin := valueFor .page given "fail_on_missing_plugin"
          summary := valueFor .page given "summary"
          summaryTitle, darkTheme, lightTheme
          throwOnError := valueFor .page given "katex_throw_on_error" })) := rfl
    rw [reads]
    simp only [Outcome.bind_eq_ok_iff, titleOf_eq_ok_iff, themeOf_eq_ok_iff]
    cases made with
    | base failOnMissingPlugin => simp [kind]
    | page own =>
      -- The fields are compared one by one, so the values that pass are those that are held.
      rw [lookup_page]
      constructor
      · rintro ⟨title, ⟨titled, worded⟩, theme, darkened, other, lightened, same⟩
        obtain rfl := Options.page.inj (Except.ok.inj same)
        exact ⟨rfl, worded, rfl, rfl, titled.symm, darkened.symm, lightened.symm, rfl⟩
      · rintro ⟨-, worded, fails, summary, titled, darkened, lightened, throws⟩
        refine ⟨_, ⟨titled.symm, worded⟩, _, darkened.symm, _, lightened.symm, ?_⟩
        rw [← fails, ← summary, ← throws]

theorem accepts_switch {name : String} (value : Value)
    (switch : name ∈ ["fail_on_missing_plugin", "summary", "katex_throw_on_error"]) :
    Accepts name value := by
  simp only [List.mem_cons, List.not_mem_nil, or_false] at switch
  rcases switch with rfl | rfl | rfl <;> constructor <;>
    simp [fieldNames, default, Page.default, fields, Page.fields]

theorem accepts_theme {name : String} (theme : Theme)
    (themed : name = "mermaid_dark_theme" ∨ name = "mermaid_light_theme") :
    Accepts name (.str theme.name) := by
  refine ⟨?_, ?_, fun _ => ⟨theme, rfl⟩⟩
  · rcases themed with rfl | rfl <;> simp [fieldNames, default, Page.default, fields, Page.fields]
  · rcases themed with rfl | rfl <;> simp

theorem accepts_fields {options : Options} (valid : options.Valid) :
    ∀ field ∈ options.fields, Accepts field.1 field.2 := by
  cases options with
  | base failOnMissingPlugin =>
    simp only [fields, List.mem_singleton, forall_eq]
    exact accepts_switch failOnMissingPlugin (by simp)
  | page own =>
    simp only [fields, Page.fields, List.forall_mem_cons]
    refine ⟨accepts_switch _ (by simp), accepts_switch _ (by simp), ?_, accepts_theme _ (.inl rfl),
      accepts_theme _ (.inr rfl), accepts_switch _ (by simp), by simp⟩
    exact ⟨by simp [fieldNames, default, Page.default, fields, Page.fields],
      fun _ => ⟨_, rfl, (says_iff _).mp valid⟩, by simp⟩

theorem accepts_of_lookup {given : Fields} (accepted : ∀ field ∈ given, Accepts field.1 field.2)
    {name : String} {value : Value} (found : given.lookup name = some value) :
    Accepts name value := by
  obtain ⟨before, after, split, -⟩ := List.lookup_eq_some_iff.mp found
  exact accepted (name, value) (by simp [split])

theorem exists_accepted {options : Options} (valid : options.Valid) {name : String}
    (known : name ∈ fieldNames options.kind) :
    ∃ value, options.fields.lookup name = some value ∧ Accepts name value := by
  obtain ⟨value, held⟩ := exists_lookup_fields options known
  exact ⟨value, held, accepts_of_lookup (accepts_fields valid) held⟩

theorem exists_ofFields {given : Fields}
    (accepted : ∀ name ∈ fieldNames .page, Accepts name (valueFor .page given name)) :
    ∃ own, ofFields .page given = .ok (.page own) := by
  obtain ⟨-, -, titled, darkened, lightened, -⟩ := forall_fieldNames_page.mp accepted
  obtain ⟨title, sameTitle, worded⟩ := titled.title rfl
  obtain ⟨theme, sameTheme⟩ := darkened.theme (.inl rfl)
  obtain ⟨other, sameOther⟩ := lightened.theme (.inr rfl)
  let own : Page := {
    failOnMissingPlugin := valueFor .page given "fail_on_missing_plugin"
    summary := valueFor .page given "summary"
    summaryTitle := title
    darkTheme := theme
    lightTheme := other
    throwOnError := valueFor .page given "katex_throw_on_error" }
  refine ⟨own, ofFields_eq_ok_iff.mpr ⟨rfl, (says_iff _).mpr worded, ?_⟩⟩
  exact (lookup_page own _).mpr ⟨rfl, rfl, sameTitle.symm, sameTheme.symm, sameOther.symm, rfl⟩

/-- What options become where some of their fields are given anew. -/
structure Renews (options : Options) (given : Fields) (renewed : Options) : Prop where
  known : ∀ name ∈ given.map Prod.fst, name ∈ fieldNames options.kind
  kind : renewed.kind = options.kind
  valid : renewed.Valid
  holds : ∀ name ∈ fieldNames options.kind,
    renewed.fields.lookup name = (given.lookup name).or (options.fields.lookup name)

theorem receiver_not_mem_fieldNames (kind : Kind) : Signature.receiver ∉ fieldNames kind := by
  cases kind <;> decide

theorem some_valueFor (kind : Kind) (given : Fields) {name : String}
    (known : name ∈ fieldNames kind) :
    some (valueFor kind given name) =
      (given.lookup name).or ((default kind).fields.lookup name) := by
  have own : name ∈ fieldNames (default kind).kind := (kind_default kind).symm ▸ known
  obtain ⟨value, held⟩ := exists_lookup_fields (default kind) own
  rw [valueFor, held]
  cases given.lookup name <;> rfl

theorem some_valueFor_update (options : Options) (given : Fields) {name : String}
    (known : name ∈ fieldNames options.kind) :
    some (valueFor options.kind (given ++ options.fields) name) =
      (given.lookup name).or (options.fields.lookup name) := by
  -- The options hold a value in each of their fields, so no default is called for.
  obtain ⟨value, held⟩ := exists_lookup_fields options known
  rw [some_valueFor options.kind _ known, List.lookup_append, held, Option.or_assoc, Option.some_or]

theorem update_unclaimed {options : Options} {given : Fields}
    (unclaimed : Signature.receiver ∉ given.map Prod.fst) :
    options.update given = (do
      (signature options.kind).checkNames (Signature.maker options.kind.name) (given.map Prod.fst)
      ofFields options.kind (given ++ options.fields)) := by
  have free : (given.map Prod.fst).contains Signature.receiver = false := by
    rw [← Bool.not_eq_true, List.contains_iff_mem]
    exact unclaimed
  simp only [update, free, Bool.false_eq_true, ↓reduceIte]

theorem update_eq_ok_iff {options renewed : Options} {given : Fields} :
    options.update given = .ok renewed ↔ options.Renews given renewed := by
  have asked : (∀ name ∈ fieldNames options.kind, renewed.fields.lookup name =
        some (valueFor options.kind (given ++ options.fields) name)) ↔
      ∀ name ∈ fieldNames options.kind,
        renewed.fields.lookup name = (given.lookup name).or (options.fields.lookup name) :=
    forall₂_congr fun name known => by rw [some_valueFor_update options given known]
  by_cases claimed : Signature.receiver ∈ given.map Prod.fst
  -- The name of what is called upon is no field, so neither side holds.
  · have refused : options.update given =
        .error (.repeatedArgument updater Signature.receiver) := by
      simp only [update, List.contains_iff_mem.mpr claimed, ↓reduceIte]
      rfl
    rw [refused]
    refine iff_of_false (by simp) fun renews => ?_
    exact receiver_not_mem_fieldNames _ (renews.known _ claimed)
  · rw [update_unclaimed claimed, Outcome.bind_eq_ok_iff]
    constructor
    · rintro ⟨⟨⟩, named, made⟩
      obtain ⟨kind, valid, holds⟩ := ofFields_eq_ok_iff.mp made
      exact ⟨checkNames_eq_ok_iff.mp named, kind, valid, asked.mp holds⟩
    · intro renews
      exact ⟨(), checkNames_eq_ok_iff.mpr renews.known,
        ofFields_eq_ok_iff.mpr ⟨renews.kind, renews.valid, asked.mpr renews.holds⟩⟩

theorem make_eq_ok_iff {kind : Kind} {given : Fields} {made : Options} :
    make kind given = .ok made ↔ (default kind).Renews given made := by
  have same := kind_default kind
  rw [make, Outcome.bind_eq_ok_iff]
  constructor
  · rintro ⟨⟨⟩, named, made⟩
    obtain ⟨ofKind, valid, holds⟩ := ofFields_eq_ok_iff.mp made
    refine ⟨?_, ofKind.trans same.symm, valid, ?_⟩
    · rw [same]
      exact checkNames_eq_ok_iff.mp named
    · rw [same]
      intro name known
      rw [holds name known, some_valueFor kind given known]
  · rintro ⟨known, ofKind, valid, holds⟩
    rw [same] at known ofKind holds
    refine ⟨(), checkNames_eq_ok_iff.mpr known, ofFields_eq_ok_iff.mpr ⟨ofKind, valid, ?_⟩⟩
    intro name field
    rw [holds name field, some_valueFor kind given field]

theorem exists_update {own : Page} (valid : own.Valid) {given : Fields}
    (accepted : ∀ field ∈ given, Accepts field.1 field.2) :
    ∃ renewed, (Options.page own).update given = .ok (.page renewed) := by
  -- What is not given stays as it was, and that was valid.
  have held : ∀ name ∈ fieldNames .page,
      Accepts name (valueFor .page (given ++ (Options.page own).fields) name) := by
    intro name known
    have whole := some_valueFor_update (.page own) given known
    cases found : given.lookup name with
    | some value =>
      rw [found, Option.some_or] at whole
      exact Option.some.inj whole ▸ accepts_of_lookup accepted found
    | none =>
      obtain ⟨value, present, fits⟩ := exists_accepted (show (Options.page own).Valid from valid) known
      rw [found, Option.none_or, present] at whole
      exact Option.some.inj whole ▸ fits
  obtain ⟨renewed, made⟩ := exists_ofFields held
  obtain ⟨ofKind, kept, holds⟩ := ofFields_eq_ok_iff.mp made
  refine ⟨renewed, update_eq_ok_iff.mpr ⟨?_, ofKind, kept, ?_⟩⟩
  · intro name member
    obtain ⟨field, inside, rfl⟩ := List.mem_map.mp member
    exact (accepted field inside).known
  · intro name known
    rw [holds name known]
    exact some_valueFor_update (.page own) given known

namespace Renews
variable {options first second : Options} {given later : Fields}

theorem unique (one : options.Renews given first) (other : options.Renews given second) :
    first = second :=
  Except.ok.inj ((update_eq_ok_iff.mpr one).symm.trans (update_eq_ok_iff.mpr other))

theorem trans (one : options.Renews given first) (next : first.Renews later second) :
    options.Renews (overridden given later) second where
  known name member := by
    rcases mem_names_overridden.mp member with early | late
    · exact one.known name early
    · rw [← one.kind]
      exact next.known name late
  kind := next.kind.trans one.kind
  valid := next.valid
  holds name known := by
    rw [next.holds name (one.kind ▸ known), one.holds name known, lookup_overridden, Option.or_assoc]

theorem congr (renews : options.Renews given first)
    (known : ∀ name ∈ later.map Prod.fst, name ∈ fieldNames options.kind)
    (alike : ∀ name, later.lookup name = given.lookup name) : options.Renews later first where
  known := known
  kind := renews.kind
  valid := renews.valid
  holds name field := by rw [alike, renews.holds name field]

end Renews

theorem make_overridden_iff {options renewed : Options} {given : Fields} :
    make options.kind (overridden options.fields given) = .ok renewed ↔
      options.update given = .ok renewed := by
  have same := kind_default options.kind
  have held : ∀ name ∈ fieldNames options.kind,
      ((overridden options.fields given).lookup name).or
          ((default options.kind).fields.lookup name) =
        (given.lookup name).or (options.fields.lookup name) := by
    intro name known
    obtain ⟨value, own⟩ := exists_lookup_fields options known
    rw [lookup_overridden, own, Option.or_assoc, Option.some_or]
  rw [make_eq_ok_iff, update_eq_ok_iff]
  constructor
  · rintro ⟨known, ofKind, valid, holds⟩
    rw [same] at known ofKind holds
    refine ⟨fun name member => known name (mem_names_overridden.mpr (.inr member)), ofKind, valid,
      fun name field => ?_⟩
    rw [holds name field, held name field]
  · rintro ⟨known, ofKind, valid, holds⟩
    refine ⟨fun name member => ?_, ofKind.trans same.symm, valid, fun name field => ?_⟩
    · rw [same]
      rcases mem_names_overridden.mp member with own | new
      · exact names_fields options ▸ own
      · exact known name new
    · rw [same] at field
      rw [holds name field, held name field]

end Folio.Options
