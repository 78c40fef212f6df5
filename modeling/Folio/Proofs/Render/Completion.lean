import Folio.Proofs.Render.Page
import Folio.Proofs.Render.Refusal

/-! Which documents have a page. Assets make no difference to that, and neither do texts and fields
that are empty: a page is refused for a grammar that is missing, where that is not put up with, and for
a level of more digits than are written, and for nothing else. A walk down a tree is taken to have no
limit of depth. -/
namespace Folio.Tree

def Node.headingLevel? : Node → Option Nat
  | .branch (.heading level _ _) _ _ => some level
  | _ => none

/-- The language of a code block as its author wrote it. -/
def Node.written? : Node → Option String
  | .leaf (.codeBlock language _) _ => some language.display
  | _ => none

def Node.writtenMet (tree : Node) : List String := tree.preorder.filterMap Node.written?

theorem Node.language?_eq (node : Node) : node.language? = node.written?.map Assets.canonical := by
  cases node with
  | leaf item data => cases item <;> rfl
  | branch frame children data => rfl

end Folio.Tree

namespace Folio.Render

open Folio.Tree (Document Node)

/-- A language that says nothing or has a grammar. -/
def Supported (setting : Setting) (written : String) : Prop :=
  Text.trim written.toList = [] ∨ ∃ script, setting.catalogue.grammar? written = some script

theorem supported_iff (setting : Setting) (written : String) :
    Supported setting written ↔ ¬ Lacking setting (Assets.canonical written) := by
  rw [lacking_canonical_iff, Supported, not_and, ← Option.isSome_iff_exists,
    Option.isSome_iff_ne_none, ne_eq, ne_eq]
  exact or_iff_not_imp_left

/-- All levels that are written have few enough digits: those of sections, and those of headings
where there is a summary. -/
structure IsShallow (setting : Setting) (tree : Node) : Prop where
  sections : ∀ node ∈ tree.preorder, ∀ level ∈ node.sectionLevel?, Number.isWritable level = true
  listed : setting.options.summary.truthy = true →
    ∀ node ∈ tree.preorder, ∀ level ∈ node.headingLevel?, Number.isWritable level = true

theorem fresh_clear_iff (setting : Setting) (tree : Node) :
    (course setting .fresh tree.events).fault? = none ↔
      (∀ node ∈ tree.preorder, ∀ level ∈ node.sectionLevel?, Number.isWritable level = true) ∧
        (setting.options.failOnMissingPlugin.truthy = true →
          ∀ written ∈ tree.writtenMet, Supported setting written) := by
  have new : ∀ language, isRecorded State.fresh.languages language = false := fun _ => rfl
  rw [course_preorder, course_clear_iff]
  refine and_congr_right fun _ => forall_congr' fun _ => ?_
  constructor
  · intro recorded written member
    obtain ⟨node, inside, names⟩ := List.mem_filterMap.mp member
    rw [supported_iff]
    intro lacking
    have known := recorded node inside (Assets.canonical written)
      (by simp [Node.language?_eq, names]) lacking
    simp [new] at known
  · intro supported node inside language names lacking
    rw [Node.language?_eq] at names
    obtain ⟨written, same, rfl⟩ := Option.map_eq_some_iff.mp names
    have member : written ∈ tree.writtenMet := List.mem_filterMap.mpr ⟨node, inside, same⟩
    exact absurd lacking ((supported_iff setting written).mp (supported written member))

theorem fits_heading (level : Nat) (anchor name : Value) :
    SummaryEntry.fits ⟨.int level, anchor, name⟩ = Number.isWritable level := rfl

theorem canList_iff (setting : Setting) (tree : Node)
    (clear : (course setting .fresh tree.events).fault? = none) :
    canList setting.options (course setting .fresh tree.events).state.summary = true ↔
      (setting.options.summary.truthy = true → ∀ node ∈ tree.preorder,
        ∀ level ∈ node.headingLevel?, Number.isWritable level = true) := by
  rw [summary_of_clear clear, canList, Bool.or_eq_true, Bool.not_eq_true', List.all_eq_true]
  have each : (∀ entry ∈ tree.preorder.filterMap summaryLine?, entry.fits = true) ↔
      ∀ node ∈ tree.preorder, ∀ level ∈ node.headingLevel?, Number.isWritable level = true := by
    rw [List.forall_mem_filterMap]
    refine forall₂_congr fun node _ => ?_
    cases node with
    | leaf item data => simp [summaryLine?, Node.headingLevel?]
    | branch frame children data =>
      cases frame <;> simp [summaryLine?, Node.headingLevel?, fits_heading]
  rw [each]
  cases setting.options.summary.truthy <;> simp

theorem page_ok_iff (setting : Setting) (document : Document) (typed : document.WellTyped) :
    (∃ html, (page setting (.document document)).result = .ok html) ↔
      IsShallow setting document.root.node ∧
        (setting.options.failOnMissingPlugin.truthy = true →
          ∀ written ∈ document.root.node.writtenMet, Supported setting written) := by
  have through := fresh_clear_iff setting document.root.node
  cases clear : (course setting .fresh document.root.node.events).fault? with
  | some fault =>
    rw [clear] at through
    simp only [page_stopped typed clear, reduceCtorEq, exists_false, false_iff]
    rintro ⟨shallow, supported⟩
    exact absurd (through.mpr ⟨shallow.sections, supported⟩) (by simp)
  | none =>
    obtain ⟨sections, supported⟩ := through.mp clear
    have listed := canList_iff setting document.root.node clear
    cases lists : canList setting.options
        (course setting .fresh document.root.node.events).state.summary with
    | false =>
      simp only [page_unlisted typed clear lists, reduceCtorEq, exists_false, false_iff]
      rintro ⟨shallow, -⟩
      exact absurd (listed.mpr shallow.listed) (by simp [lists])
    | true =>
      have shallow : IsShallow setting document.root.node := ⟨sections, listed.mp lists⟩
      exact iff_of_true ⟨_, page_written typed clear lists⟩ ⟨shallow, supported⟩

/-- A fault that names the language of the first code in a tree that is not supported. -/
def ReportsCode (setting : Setting) (tree : Node) (fault : Fault) : Prop :=
  fault.category = .missingAsset ∧ ∃ before written after,
    tree.writtenMet = before ++ written :: after ∧
      (∀ other ∈ before, Supported setting other) ∧ ¬ Supported setting written ∧
      fault.assetName = Assets.canonical written

theorem stopped_cases {setting : Setting} {tree : Node} {fault : Fault}
    (stopped : (course setting .fresh tree.events).fault? = some fault) :
    ¬ IsShallow setting tree ∧ fault = .tooManyDigits none ∨
      setting.options.failOnMissingPlugin.truthy = true ∧ ReportsCode setting tree fault := by
  rw [course_preorder] at stopped
  rcases course_fault stopped with ⟨⟨node, member, level, deep, unwritable⟩, rfl⟩ |
    ⟨strict, before, language, source, data, rest, split, rfl, lacking, -, known⟩
  · refine Or.inl ⟨fun shallow => ?_, rfl⟩
    have writable := shallow.sections node member level deep
    exact absurd (unwritable.symm.trans writable) (by simp)
  · refine Or.inr ⟨strict, rfl, before.filterMap Node.written?, language.display,
      rest.filterMap Node.written?, ?_, ?_, ?_, by rw [Fault.assetName]⟩
    · rw [Node.writtenMet, split, List.filterMap_append, List.filterMap_cons]
      rfl
    · intro other member
      obtain ⟨node, inside, names⟩ := List.mem_filterMap.mp member
      rw [supported_iff]
      intro lacks
      -- On a new renderer nothing is on record, so none of them can lack its grammar.
      have recorded := known node inside (Assets.canonical other)
        (by simp [Node.language?_eq, names]) lacks
      exact absurd recorded Bool.false_ne_true
    · rw [supported_iff, not_not]
      exact lacking

/-- A document has a page if levels have few enough digits to be written and, where missing grammars
are not put up with, none is missing. It is refused for one of the two: for a level that cannot be
written, or for code, and then it is the first code in the tree without a grammar that is reported. -/
theorem page_returned (setting : Setting) (document : Document) (typed : document.WellTyped) :
    ((∃ html, (page setting (.document document)).result = .ok html) ↔
      IsShallow setting document.root.node ∧
        (setting.options.failOnMissingPlugin.truthy = false ∨
          ∀ written ∈ document.root.node.writtenMet, Supported setting written)) ∧
    ∀ fault, (page setting (.document document)).result = .error fault →
      ¬ IsShallow setting document.root.node ∧ fault = .tooManyDigits none ∨
        setting.options.failOnMissingPlugin.truthy = true ∧
          ReportsCode setting document.root.node fault := by
  constructor
  · rw [page_ok_iff setting document typed, ← Bool.not_eq_true, ← imp_iff_not_or]
  · intro fault failed
    cases clear : (course setting .fresh document.root.node.events).fault? with
    | some other =>
      obtain rfl := Except.error.inj ((page_stopped typed clear).symm.trans failed)
      exact stopped_cases clear
    | none =>
      -- The fragment is there, so it can only be the summary that is in the way.
      have listed := canList_iff setting document.root.node clear
      cases lists : canList setting.options
          (course setting .fresh document.root.node.events).state.summary with
      | true => exact absurd ((page_written typed clear lists).symm.trans failed) (by simp)
      | false =>
        obtain rfl := Except.error.inj ((page_unlisted typed clear lists).symm.trans failed)
        refine Or.inl ⟨fun shallow => ?_, rfl⟩
        exact absurd (listed.mpr shallow.listed) (by simp [lists])

theorem page_parts {setting : Setting} {document : Document} (typed : document.WellTyped)
    {html : String} (rendered : (page setting (.document document)).result = .ok html) :
    let state := State.fresh.after setting document.root.node.preorder
    ∃ content, (fragment setting (.node document.root.node) .fresh).result = .ok content ∧
      html = frontText setting.catalogue document ++
        (contentText setting document.license state content ++
          (trailersText setting state ++ (Markup.closingTag "body" ++ Markup.closingTag "html"))) := by
  obtain ⟨clear, rfl⟩ := text_of_page typed rendered
  have content := fragment_result setting document.root.node typed.2.2.2 .fresh
  rw [Course.ending, clear] at content
  rw [course_preorder] at clear ⊢
  rw [state_of_clear clear, pageText_parts]
  exact ⟨_, content, rfl⟩

/-- A section that the greatest level that can be written opens. -/
def deepDocument : Document where
  title := .str "T"
  authors := []
  license := .null
  root := ⟨[.branch (.heading (Number.tenTo Number.digitLimit - 1) (.str "a") (.str "A"))
    [.leaf (.text (.str "x")) (.object [])] (.object [])], .null, .object []⟩

theorem deepDocument_wellTyped : deepDocument.WellTyped := by
  have positive : 1 ≤ Number.tenTo Number.digitLimit - 1 := by decide +kernel
  simp [deepDocument, Document.WellTyped, Tree.Root.node, Node.WellTyped, Tree.AllWellTyped,
    Tree.Branch.WellTyped, Tree.Leaf.WellTyped, Tree.IsText, positive]

/-- Such a document has no page, although missing grammars are put up with and none is missing. -/
theorem deepDocument_refused :
    deepDocument.WellTyped ∧ bareSetting.options.failOnMissingPlugin.truthy = false ∧
      deepDocument.root.node.writtenMet = [] ∧
      ∃ fault, (page bareSetting (.document deepDocument)).result = .error fault ∧
        fault.category = .value :=
  ⟨deepDocument_wellTyped, rfl, rfl, exists_of_category (by decide +kernel)⟩

theorem smallDocument_shallow (setting : Setting) : IsShallow setting smallDocument.root.node := by
  have few : Number.isWritable 1 = true ∧ Number.isWritable 2 = true := by decide +kernel
  constructor
  · simp [smallDocument, Tree.Root.node, hostileTree, Node.preorder, Tree.preorderAll,
      Node.sectionLevel?, few]
  · simp [smallDocument, Tree.Root.node, hostileTree, Node.preorder, Tree.preorderAll,
      Node.headingLevel?, few]

theorem page_returned_small :
    smallDocument.WellTyped ∧ IsShallow strictSetting smallDocument.root.node ∧
      ∃ fault, (page strictSetting (.document smallDocument)).result = .error fault ∧
        ReportsCode strictSetting smallDocument.root.node fault := by
  have shallow := smallDocument_shallow strictSetting
  have failed : ∃ fault, (page strictSetting (.document smallDocument)).result = .error fault ∧
      fault.category = .missingAsset := exists_of_category (by decide +kernel)
  obtain ⟨fault, failed, -⟩ := failed
  have known := (page_returned strictSetting smallDocument smallDocument_wellTyped).2 fault failed
  rcases known with ⟨deep, -⟩ | ⟨-, code⟩
  · exact absurd shallow deep
  · exact ⟨smallDocument_wellTyped, shallow, fault, failed, code⟩

end Folio.Render
