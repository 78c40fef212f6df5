import Folio.Proofs.Render.Completion

/-! What the rendering of a page warns of. A dangerous target is warned of at every link that has it; a
language without a grammar is warned of once, at the code that first brings it; and when the tree is
through, so are the libraries that the page needs and that are only placeholders. A page that is
refused for a level of too many digits warns of what came before, and of no library. -/
namespace Folio

theorem noticesFrom_append (least : Severity) (left right : List Notice) :
    noticesFrom least (left ++ right) = noticesFrom least left ++ noticesFrom least right :=
  List.filter_append left right

theorem noticesFrom_warnings {notices : List Notice}
    (all : ∀ notice ∈ notices, notice.severity = .warning) :
    noticesFrom .warning notices = notices := by
  apply List.filter_eq_self.mpr
  intro notice member
  rw [all notice member]
  rfl

end Folio

namespace Folio.Tree

def Node.opensWritable (node : Node) : Bool := node.sectionLevel?.all Number.isWritable

theorem Node.opensWritable_iff (node : Node) :
    node.opensWritable = true ↔ ∀ level ∈ node.sectionLevel?, Number.isWritable level = true := by
  rw [opensWritable, Option.all_eq_true]
  rfl

end Folio.Tree

namespace Folio.Render

open Assets (Catalogue)
open Folio.Tree (Document Node occurs)

/-- Of a target that is quoted no more than forty characters are shown. -/
def linkWarning? : Node → Option Notice
  | .branch (.link url) _ _ =>
    if Links.isDangerous url.display.toList then
      some ⟨.warning, .links, "Neutralized link with unsafe scheme: " ++
        String.ofList ((Text.Quoted.encode url.display.toList).take 40)⟩
    else none
  | _ => none

/-- The language has to say something, to be in none of the nodes before and to have no grammar. It is
quoted as it was written. -/
def codeWarning? (catalogue : Catalogue) (earlier : List Node) : Node → Option Notice
  | .leaf (.codeBlock language _) _ =>
    if Assets.canonical language.display ≠ "" ∧
        Assets.canonical language.display ∉ earlier.filterMap Node.language? ∧
        catalogue.grammar? language.display = none then
      some ⟨.warning, .fragments, "No Prism plugin for language " ++ language.quoted ++
        "; code will not be highlighted"⟩
    else none
  | _ => none

/-- The warnings for some nodes that others came before. -/
def warningsAlong (catalogue : Catalogue) : List Node → List Node → List Notice
  | _, [] => []
  | earlier, node :: rest =>
    (linkWarning? node).toList ++ (codeWarning? catalogue earlier node).toList ++
      warningsAlong catalogue (earlier ++ [node]) rest

/-- The libraries that the page of a tree loads are warned of where their text is a placeholder. -/
def libraryWarnings (catalogue : Catalogue) (tree : Node) : List Notice :=
  let loaded : List (String × String) :=
    (if occurs .mathExpr tree then
      [("katex_css", catalogue.katexCss), ("katex_js", catalogue.katexJs)] else []) ++
    (if occurs .codeBlock tree then [("prism_js", catalogue.prismJs)] else []) ++
    (if occurs .diagram tree then [("mermaid_js", catalogue.mermaidJs)] else [])
  (loaded.filter fun library => Assets.isPlaceholder library.2).map fun library =>
    ⟨.warning, .pages, "Asset " ++ library.1 ++
      " is a placeholder; the page will load without that library"⟩

theorem linkWarning?_severity {node : Node} {notice : Notice}
    (warned : linkWarning? node = some notice) : notice.severity = .warning := by
  unfold linkWarning? at warned
  split at warned
  · split at warned
    · obtain rfl := Option.some.inj warned
      rfl
    · exact absurd warned (by simp)
  · exact absurd warned (by simp)

theorem codeWarning?_severity {catalogue : Catalogue} {earlier : List Node} {node : Node}
    {notice : Notice} (warned : codeWarning? catalogue earlier node = some notice) :
    notice.severity = .warning := by
  unfold codeWarning? at warned
  split at warned
  · split at warned
    · obtain rfl := Option.some.inj warned
      rfl
    · exact absurd warned (by simp)
  · exact absurd warned (by simp)

theorem warningsAlong_severity (catalogue : Catalogue) (earlier nodes : List Node) :
    ∀ notice ∈ warningsAlong catalogue earlier nodes, notice.severity = .warning := by
  induction nodes generalizing earlier with
  | nil => simp [warningsAlong]
  | cons node rest ih =>
    intro notice member
    rw [warningsAlong, List.mem_append, List.mem_append] at member
    rcases member with (link | code) | later
    · exact linkWarning?_severity (Option.mem_toList.mp link)
    · exact codeWarning?_severity (Option.mem_toList.mp code)
    · exact ih (earlier ++ [node]) notice later

theorem lacksGrammar_after_iff (setting : Setting) (earlier : List Node) (written : String) :
    lacksGrammar setting (State.fresh.after setting earlier) written = true ↔
      Assets.canonical written ≠ "" ∧
        Assets.canonical written ∉ earlier.filterMap Node.language? ∧
        setting.catalogue.grammar? written = none := by
  have recorded := isRecorded_after setting .fresh earlier (Assets.canonical written)
  have new : isRecorded State.fresh.languages (Assets.canonical written) = false := rfl
  rw [new] at recorded
  simp only [Bool.false_eq_true, false_or] at recorded
  rw [lacksGrammar_iff, Lacking, Assets.grammar?_canonical, ← Bool.not_eq_true, recorded]
  constructor
  · rintro ⟨⟨named, missing⟩, fresh⟩
    exact ⟨named, fun member => fresh ⟨named, member⟩, missing⟩
  · rintro ⟨named, fresh, missing⟩
    exact ⟨⟨named, missing⟩, fun known => fresh known.2⟩

theorem noticed_after (setting : Setting) (earlier : List Node) (node : Node) :
    noticed setting (State.fresh.after setting earlier) node.event =
      (linkWarning? node).toList ++ (codeWarning? setting.catalogue earlier node).toList := by
  cases node with
  | leaf item data =>
    cases item with
    | codeBlock language source =>
      simp only [Node.event, noticed, linkWarning?, codeWarning?, lacksGrammar_after_iff,
        Option.toList_none, List.nil_append]
      split <;> rfl
    | _ => rfl
  | branch frame children data =>
    cases frame with
    | link url =>
      simp only [Node.event, noticed, linkWarning?, codeWarning?, Option.toList_none,
        List.append_nil]
      split <;> rfl
    | _ => rfl

section Lenient
variable {setting : Setting} (lenient : setting.options.failOnMissingPlugin.truthy = false)
include lenient

theorem fault?_lenient_iff (state : State) (node : Node) :
    fault? setting state node.event = none ↔ node.opensWritable = true := by
  rw [fault?_eq_none_iff, Node.opensWritable_iff, lenient]
  simp

theorem course_warnings (earlier nodes : List Node) :
    (course setting (State.fresh.after setting earlier) (nodes.map Node.event)).notices =
      warningsAlong setting.catalogue earlier (nodes.takeWhile Node.opensWritable) := by
  induction nodes generalizing earlier with
  | nil => rfl
  | cons node rest ih =>
    have here := fault?_lenient_iff lenient (State.fresh.after setting earlier) node
    rw [List.map_cons, List.takeWhile_cons]
    cases found : fault? setting (State.fresh.after setting earlier) node.event with
    | some fault =>
      have deep : node.opensWritable = false := by simpa [found] using here
      rw [course_stopped _ found, deep]
      rfl
    | none =>
      have fits : node.opensWritable = true := here.mp found
      rw [course_clear _ found, fits, noticed_after, gathered_event, State.after_append, ih]
      rfl

theorem tree_warnings (tree : Node) :
    (course setting .fresh tree.events).notices =
      warningsAlong setting.catalogue [] (tree.preorder.takeWhile Node.opensWritable) := by
  rw [course_preorder]
  exact course_warnings lenient [] tree.preorder

theorem warned_course (tree : Node) :
    noticesFrom .warning (course setting .fresh tree.events).said =
      warningsAlong setting.catalogue [] (tree.preorder.takeWhile Node.opensWritable) := by
  have own : noticesFrom .warning (course setting .fresh tree.events).notices = _ :=
    noticesFrom_warnings (by
      rw [tree_warnings lenient]
      exact warningsAlong_severity _ _ _)
  have last : ∀ state, noticesFrom .warning [fragmentNotice state] = [] := fun _ => rfl
  rw [Course.said, ← tree_warnings lenient]
  split
  · rw [noticesFrom_append, own, last, List.append_nil]
  · exact own

end Lenient

theorem libraryWarnings_severity (catalogue : Catalogue) (tree : Node) :
    ∀ notice ∈ libraryWarnings catalogue tree, notice.severity = .warning := by
  intro notice member
  obtain ⟨library, -, rfl⟩ := List.mem_map.mp member
  rfl

theorem placeholderNotices_eq (catalogue : Catalogue) (tree : Node) :
    placeholderNotices catalogue
        (neededRuntimes ⟨occurs .mathExpr tree, occurs .codeBlock tree, occurs .diagram tree⟩) =
      libraryWarnings catalogue tree := by
  -- A library is looked up by its name on the one side and stands beside it on the other.
  have paired : ∀ runtimes : List Assets.Runtime, placeholderNotices catalogue runtimes =
      ((runtimes.map fun runtime => (runtime.name, catalogue.runtime runtime)).filter
        fun library => Assets.isPlaceholder library.2).map fun library =>
          ⟨.warning, .pages, "Asset " ++ library.1 ++
            " is a placeholder; the page will load without that library"⟩ := by
    intro runtimes
    rw [List.filter_map, List.map_map]
    rfl
  rw [paired, libraryWarnings]
  cases occurs .mathExpr tree <;> cases occurs .codeBlock tree <;> cases occurs .diagram tree <;> rfl

section Ends
variable {setting : Setting} (lenient : setting.options.failOnMissingPlugin.truthy = false)
  {document : Document} (typed : document.WellTyped)
include lenient typed

theorem warned_shallow (shallow : IsShallow setting document.root.node) :
    let tree := document.root.node
    noticesFrom .warning (page setting (.document document)).notices =
      warningsAlong setting.catalogue [] tree.preorder ++ libraryWarnings setting.catalogue tree := by
  intro tree
  have clear : (course setting .fresh tree.events).fault? = none := by
    refine (fresh_clear_iff setting tree).mpr ⟨shallow.sections, fun strict => ?_⟩
    exact absurd (strict.symm.trans lenient) (by simp)
  have lists := (canList_iff setting tree clear).mpr shallow.listed
  have whole : tree.preorder.takeWhile Node.opensWritable = tree.preorder := by
    rw [List.takeWhile_eq_self_iff]
    intro node member
    exact node.opensWritable_iff.mpr (shallow.sections node member)
  have last : ∀ state, noticesFrom .warning [pageNotice document.title state] = [] := fun _ => rfl
  rw [outcome_written typed clear lists]
  simp only [noticesFrom_append, last, List.append_nil]
  rw [warned_course lenient, whole, tree_features setting tree clear, placeholderNotices_eq,
    noticesFrom_warnings (libraryWarnings_severity _ _)]

theorem warned_deep (deep : ¬ IsShallow setting document.root.node) :
    (page setting (.document document)).result = .error (.tooManyDigits none) ∧
      noticesFrom .warning (page setting (.document document)).notices =
        warningsAlong setting.catalogue []
          (document.root.node.preorder.takeWhile Node.opensWritable) := by
  rw [← warned_course lenient]
  cases clear : (course setting .fresh document.root.node.events).fault? with
  | some fault =>
    rw [outcome_stopped typed clear]
    rcases stopped_cases clear with ⟨-, rfl⟩ | ⟨strict, -⟩
    · exact ⟨rfl, rfl⟩
    · exact absurd (strict.symm.trans lenient) (by simp)
  | none =>
    have stuck : canList setting.options
        (course setting .fresh document.root.node.events).state.summary = false := by
      rw [← Bool.not_eq_true, canList_iff setting document.root.node clear]
      intro listed
      exact deep ⟨((fresh_clear_iff setting document.root.node).mp clear).1, listed⟩
    rw [outcome_unlisted typed clear stuck]
    exact ⟨rfl, rfl⟩

end Ends

/-- With missing grammars put up with, a page whose levels have few enough digits to be written warns
of the nodes of its tree one after the other and then of the placeholders among the libraries that it
needs, and of nothing else. Where a level has too many digits there is no page, and the warnings are
those of the nodes before the first section that is too deep. -/
theorem page_warnings (setting : Setting)
    (lenient : setting.options.failOnMissingPlugin.truthy = false) (document : Document)
    (typed : document.WellTyped) :
    let tree := document.root.node
    let outcome := page setting (.document document)
    let warned := noticesFrom .warning outcome.notices
    (IsShallow setting tree →
      warned = warningsAlong setting.catalogue [] tree.preorder ++
        libraryWarnings setting.catalogue tree) ∧
    (¬ IsShallow setting tree →
      outcome.result = .error (.tooManyDigits none) ∧
        warned = warningsAlong setting.catalogue [] (tree.preorder.takeWhile Node.opensWritable)) :=
  ⟨warned_shallow lenient typed, warned_deep lenient typed⟩

def warnedDocument : Document where
  title := .str "T"
  authors := []
  license := .null
  root := ⟨[
    .branch (.link (.str "javascript:x")) [
      .leaf (.codeBlock (.str "Lost") (.str "")) (.object []),
      .leaf (.mathExpr (.str "x") false) (.object [])] (.object []),
    .leaf (.codeBlock (.str "lost ") (.str "")) (.object []),
    .branch (.link (.str "javascript:x")) [] (.object [])], .null, .object []⟩

theorem warnedDocument_wellTyped : warnedDocument.WellTyped := by
  simp [warnedDocument, Document.WellTyped, Tree.Root.node, Node.WellTyped, Tree.AllWellTyped,
    Tree.Branch.WellTyped, Tree.Leaf.WellTyped, Tree.IsText]

theorem warnedDocument_shallow : IsShallow smallSetting warnedDocument.root.node := by
  constructor <;>
    simp [warnedDocument, Tree.Root.node, Node.preorder, Tree.preorderAll, Node.sectionLevel?,
      Node.headingLevel?]

/-- Each link is warned of, the language once and as it was first written, and of the two libraries
for formulas the one that is a placeholder. -/
theorem page_warnings_warned :
    smallSetting.options.failOnMissingPlugin.truthy = false ∧ warnedDocument.WellTyped ∧
      IsShallow smallSetting warnedDocument.root.node ∧
      noticesFrom .warning (page smallSetting (.document warnedDocument)).notices =
        [⟨.warning, .links, "Neutralized link with unsafe scheme: 'javascript:x'"⟩,
          ⟨.warning, .fragments,
            "No Prism plugin for language 'Lost'; code will not be highlighted"⟩,
          ⟨.warning, .links, "Neutralized link with unsafe scheme: 'javascript:x'"⟩,
          ⟨.warning, .pages,
            "Asset katex_css is a placeholder; the page will load without that library"⟩] := by
  refine ⟨rfl, warnedDocument_wellTyped, warnedDocument_shallow, ?_⟩
  rw [(page_warnings smallSetting rfl warnedDocument warnedDocument_wellTyped).1
    warnedDocument_shallow]
  decide +kernel

def deepLinkDocument : Document where
  title := .str "T"
  authors := []
  license := .null
  root := ⟨[.branch (.heading (Number.tenTo Number.digitLimit - 1) (.str "a") (.str "A"))
    [.branch (.link (.str "javascript:x")) [] (.object [])] (.object [])], .null, .object []⟩

theorem deepLinkDocument_wellTyped : deepLinkDocument.WellTyped := by
  have positive : 1 ≤ Number.tenTo Number.digitLimit - 1 := by decide +kernel
  simp [deepLinkDocument, Document.WellTyped, Tree.Root.node, Node.WellTyped, Tree.AllWellTyped,
    Tree.Branch.WellTyped, Tree.IsText, positive]

/-- A link in a section that cannot be opened is not warned of. -/
theorem deepLinkDocument_silent :
    deepLinkDocument.WellTyped ∧ bareSetting.options.failOnMissingPlugin.truthy = false ∧
      noticesFrom .warning (page bareSetting (.document deepLinkDocument)).notices = [] ∧
      linkWarning? (.branch (.link (.str "javascript:x")) [] (.object [])) =
        some ⟨.warning, .links, "Neutralized link with unsafe scheme: 'javascript:x'"⟩ ∧
      noticesFrom .warning (page bareSetting (.document deepLinkDocument)).notices ≠
        warningsAlong bareSetting.catalogue [] deepLinkDocument.root.node.preorder ++
          libraryWarnings bareSetting.catalogue deepLinkDocument.root.node :=
  ⟨deepLinkDocument_wellTyped, rfl, by decide +kernel, by decide +kernel, by decide +kernel⟩

end Folio.Render
