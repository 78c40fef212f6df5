import Folio.Proofs.Options.Update
import Folio.Proofs.Render.Page

/-! The options that a page is rendered with. Page options with some values replaced are the same as
page options made afresh; base options serve for no page, but they are only looked at once every
replaced value has been given a field. -/
namespace Folio.Render

open Options (Accepts fieldNames forPage overridden)
open Assets (Catalogue)
open Folio.Tree (Document Loaded)

theorem isGiven_fieldNames : ∀ name ∈ fieldNames .page, isGiven name = false := by
  rw [Options.forall_fieldNames_page]
  decide

theorem settle_eq {options : Options} (valid : options.Valid) {overrides : Fields}
    (known : ∀ name ∈ overrides.map Prod.fst, name ∈ fieldNames .page) :
    settle (some options) overrides = (do
      let options ← options.update overrides
      forPage "document" (some options)) := by
  have free : (overrides.map Prod.fst).find? isGiven = none := by
    rw [List.find?_eq_none]
    intro name member
    simp [isGiven_fieldNames name (known name member)]
  cases overrides with
  | nil =>
    have unchanged : options.update [] = .ok options :=
      Options.update_eq_ok_iff.mpr ⟨by simp, rfl, valid, fun name _ => by simp⟩
    rw [unchanged]
    rfl
  | cons field rest =>
    simp only [settle, free]
    rfl

theorem update_base_known (failOnMissingPlugin : Value) {overrides : Fields}
    (known : ∀ name ∈ overrides.map Prod.fst, name ∈ fieldNames .base) :
    ∃ other, (Options.base failOnMissingPlugin).update overrides = .ok (.base other) := by
  let other := Options.valueFor .base (overrides ++ (Options.base failOnMissingPlugin).fields)
    "fail_on_missing_plugin"
  refine ⟨other, Options.update_eq_ok_iff.mpr ⟨known, rfl, trivial, fun name field => ?_⟩⟩
  obtain rfl : name = "fail_on_missing_plugin" := by
    simpa [fieldNames, Options.default, Options.fields] using List.mem_singleton.mp field
  exact Options.some_valueFor_update (.base failOnMissingPlugin) overrides field

theorem update_base_unknown (failOnMissingPlugin : Value) {overrides : Fields}
    {front back : List String} {name : String}
    (split : overrides.map Prod.fst = front ++ name :: back)
    (known : ∀ name ∈ overrides.map Prod.fst, name ∈ fieldNames .page)
    (early : ∀ earlier ∈ front, earlier ∈ fieldNames .base) (unknown : name ∉ fieldNames .base) :
    (Options.base failOnMissingPlugin).update overrides =
      .error (.unexpectedArgument (Signature.maker Options.Kind.base.name) name) := by
  have unclaimed : Signature.receiver ∉ overrides.map Prod.fst :=
    fun member => Options.receiver_not_mem_fieldNames .page (known _ member)
  have other : (name == Signature.receiver) = false := by
    refine beq_false_of_ne ?_
    rintro rfl
    exact unclaimed (by simp [split])
  have stray : Signature.stray (Signature.maker Options.Kind.base.name) name =
      .unexpectedArgument (Signature.maker Options.Kind.base.name) name := by
    rw [Signature.stray, other]
    rfl
  have ofKind : (Options.base failOnMissingPlugin).kind = .base := rfl
  rw [Options.update_unclaimed unclaimed, split, ofKind,
    Options.checkNames_eq_error early unknown, stray]
  rfl

/-- Replaced by values that their fields can hold, page options are rendered with as if they had been
made afresh from all their values. Base options never are: they are refused as such if they have a field
for every value, and otherwise the first value without one is reported. -/
theorem overrides_settled (catalogue : Catalogue) (loaded : Loaded) {overrides : Fields}
    (accepted : ∀ field ∈ overrides, Accepts field.1 field.2) :
    (∀ own : Options.Page, own.Valid → ∃ renewed,
      Options.make .page (overridden own.fields overrides) = .ok (.page renewed) ∧
      pageOf catalogue (settle (some (.page own)) overrides) loaded =
        pageOf catalogue (forPage "document" (some (.page renewed))) loaded) ∧
    ∀ failOnMissingPlugin,
      let outcome := pageOf catalogue (settle (some (.base failOnMissingPlugin)) overrides) loaded
      ((∀ name ∈ overrides.map Prod.fst, name ∈ fieldNames .base) →
        outcome.result = .error (.wrongOptions (.str "document") .page .base)) ∧
      ∀ front name back, overrides.map Prod.fst = front ++ name :: back →
        (∀ earlier ∈ front, earlier ∈ fieldNames .base) → name ∉ fieldNames .base →
          outcome.result =
            .error (.unexpectedArgument (Signature.maker Options.Kind.base.name) name) := by
  have known : ∀ name ∈ overrides.map Prod.fst, name ∈ fieldNames .page := by
    intro name member
    obtain ⟨field, inside, rfl⟩ := List.mem_map.mp member
    exact (accepted field inside).known
  constructor
  · intro own valid
    have sound : (Options.page own).Valid := valid
    obtain ⟨renewed, updated⟩ := Options.exists_update valid accepted
    refine ⟨renewed, Options.make_overridden_iff.mpr updated, ?_⟩
    rw [settle_eq sound known, updated]
    rfl
  · intro failOnMissingPlugin outcome
    have sound : (Options.base failOnMissingPlugin).Valid := trivial
    constructor
    · intro fielded
      obtain ⟨other, updated⟩ := update_base_known failOnMissingPlugin fielded
      simp only [outcome, settle_eq sound known, updated]
      rfl
    · intro front name back split early unknown
      have refused := update_base_unknown failOnMissingPlugin split known early unknown
      simp only [outcome, settle_eq sound known, refused]
      rfl

theorem overrides_settled_small :
    Accepts "summary" (.bool false) ∧ Options.Page.default.Valid ∧
      ∃ renewed, Options.make .page
          (overridden Options.Page.default.fields [("summary", .bool false)]) =
            .ok (.page renewed) ∧
        pageOf smallSetting.catalogue
            (settle (some (.page .default)) [("summary", .bool false)]) (.document smallDocument) =
          pageOf smallSetting.catalogue (forPage "document" (some (.page renewed)))
            (.document smallDocument) ∧
        "fail_on_missing_plugin" ∈ fieldNames .base ∧
        (pageOf smallSetting.catalogue
          (settle (some (.base .null)) [("fail_on_missing_plugin", .bool true)])
          (.document smallDocument)).result =
            .error (.wrongOptions (.str "document") .page .base) ∧
        "summary" ∉ fieldNames .base ∧
        (pageOf smallSetting.catalogue (settle (some (.base .null)) [("summary", .bool false)])
          (.document smallDocument)).result =
            .error (.unexpectedArgument "BaseRendererOptions.__init__" "summary") := by
  have alone : ∀ name value, Accepts name value →
      ∀ field ∈ [(name, value)], Accepts field.1 field.2 := by
    rintro name value fits field member
    obtain rfl := List.mem_singleton.mp member
    exact fits
  have summary : Accepts "summary" (.bool false) := Options.accepts_switch _ (by simp)
  have fails : Accepts "fail_on_missing_plugin" (.bool true) := Options.accepts_switch _ (by simp)
  have valid : Options.Page.default.Valid :=
    show Text.trim "Summary".toList ≠ [] from by decide
  obtain ⟨settled, reported⟩ := overrides_settled smallSetting.catalogue
    (.document smallDocument) (alone _ _ summary)
  obtain ⟨renewed, made, same⟩ := settled .default valid
  have field : "fail_on_missing_plugin" ∈ fieldNames .base := List.mem_singleton.mpr rfl
  have refused := ((overrides_settled smallSetting.catalogue (.document smallDocument)
    (alone _ _ fails)).2 .null).1 (List.forall_mem_singleton.mpr field)
  have unknown : "summary" ∉ fieldNames .base := by decide
  exact ⟨summary, valid, renewed, made, same, field, refused, unknown,
    (reported .null).2 [] "summary" [] rfl (by simp) unknown⟩

/-- Base options with the summary left out are not refused as such. -/
theorem base_options_misreported :
    Accepts "summary" (.bool false) ∧
      (pageOf smallSetting.catalogue
        (settle (some (.base (.bool false))) [("summary", .bool false)])
        (.document smallDocument)).result =
          .error (.unexpectedArgument "BaseRendererOptions.__init__" "summary") ∧
      (Fault.unexpectedArgument "BaseRendererOptions.__init__" "summary").category ≠
        .wrongOptions :=
  ⟨Options.accepts_switch _ (by simp), rfl, by decide⟩

end Folio.Render
