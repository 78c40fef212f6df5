import Folio.Proofs.Render.Completion
import Mathlib.Data.List.Nodup

/-! What follows the visible content of a page, told from its tree. A library is loaded if a node of
the tree asks for it, at whatever depth, and then once: with a statement for every formula or with the
grammar of every language, however often and in whatever spellings the language comes up. -/
namespace Folio.Tree

/-- The languages of the code in a tree in the order in which they first come up. Each is there once,
in its one spelling, and code of no language is passed over. -/
def Node.languagesMet (tree : Node) : List String :=
  ((tree.preorder.filterMap Node.language?).filter fun language => language != "").eraseDups

theorem Node.mem_languagesMet (tree : Node) (language : String) :
    language ∈ tree.languagesMet ↔
      language ≠ "" ∧ ∃ written ∈ tree.writtenMet, Assets.canonical written = language := by
  have spelled : tree.preorder.filterMap Node.language? = tree.writtenMet.map Assets.canonical := by
    rw [Node.writtenMet, List.map_filterMap]
    exact congrArg (List.filterMap · tree.preorder) (funext Node.language?_eq)
  rw [Node.languagesMet, List.mem_eraseDups, List.mem_filter, spelled, List.mem_map, bne_iff_ne,
    and_comm]

theorem Node.languagesMet_spelled (tree : Node) :
    ∀ language ∈ tree.languagesMet, Assets.canonical language = language := by
  intro language member
  obtain ⟨-, written, -, rfl⟩ := (tree.mem_languagesMet language).mp member
  exact Assets.canonical_canonical written

end Folio.Tree

namespace Folio.Render

open Assets (Catalogue)
open Markup (closingTag)
open Folio.Tree (Document Node occurs)

/-- The statements for the formulas of a tree, which are numbered from one. -/
def statementsMet (setting : Setting) (tree : Node) : List String :=
  (tree.formulasMet.zipIdx 1).map fun (formula, number) =>
    "katex.render(" ++ Text.ScriptLiteral.encoded formula.1 ++
      ", document.querySelector('[data-katex-index=\"" ++ Number.digitsText number ++
      "\"]'), \x7bdisplayMode: " ++ (if formula.2 then "true" else "false") ++ ", throwOnError: " ++
      (if setting.options.throwOnError.truthy then "true" else "false") ++ "\x7d);"

theorem statementsMet_eq (setting : Setting) (tree : Node) :
    statementsMet setting tree = (tree.formulasMet.zipIdx 1).map fun (formula, number) =>
      mathStatement formula.1 number formula.2 setting.options.throwOnError.truthy := rfl

theorem statementsMet_unbroken (setting : Setting) (tree : Node) :
    ∀ statement ∈ statementsMet setting tree, '\n' ∉ statement.toList := by
  intro statement member broken
  rw [statementsMet_eq] at member
  obtain ⟨⟨formula, number⟩, -, rfl⟩ := List.mem_map.mp member
  exact absurd (inert_mathStatement _ _ _ _ _ broken) (by decide)

theorem katexContent_after (setting : Setting) (tree : Node) :
    (State.fresh.after setting tree.preorder).katexContent =
      String.join ((statementsMet setting tree).map fun statement => statement ++ "\n") := by
  have gathered : (State.fresh.after setting tree.preorder).statements =
      (statementsMet setting tree).map Value.str := by
    rw [statementsMet_eq, List.map_map]
    rfl
  rw [← String.toList_inj, katexContent_toList, gathered, String.toList_join, List.flatMap_map,
    List.flatMap_map]
  simp

/-- The grammars that a catalogue has for the languages of a tree, each under its language. -/
def grammarsMet (catalogue : Catalogue) (tree : Node) : List (String × String) :=
  tree.languagesMet.filterMap fun language =>
    (catalogue.grammars.lookup language).map fun script => (language, script)

theorem mem_grammarsMet (catalogue : Catalogue) (tree : Node) (language script : String) :
    (language, script) ∈ grammarsMet catalogue tree ↔
      language ∈ tree.languagesMet ∧ catalogue.grammars.lookup language = some script := by
  simp [grammarsMet]

theorem grammarsMet_languages (catalogue : Catalogue) (tree : Node) :
    (grammarsMet catalogue tree).map Prod.fst =
      tree.languagesMet.filter fun language => (catalogue.grammars.lookup language).isSome := by
  rw [grammarsMet]
  induction tree.languagesMet with
  | nil => rfl
  | cons language rest ih =>
    cases found : catalogue.grammars.lookup language <;> simp [found, ih]

theorem grammarsMet_apart (catalogue : Catalogue) (tree : Node) :
    ((grammarsMet catalogue tree).map Prod.fst).Nodup := by
  rw [grammarsMet_languages]
  exact (nodup_eraseDups _).filter _

/-- Whatever spelling code has its language in, the grammar of the language is there once. -/
theorem grammarsMet_once {catalogue : Catalogue} {tree : Node} {written script : String}
    (inside : written ∈ tree.writtenMet) (named : Assets.canonical written ≠ "")
    (found : catalogue.grammar? written = some script) :
    (grammarsMet catalogue tree).count (Assets.canonical written, script) = 1 := by
  have member : (Assets.canonical written, script) ∈ grammarsMet catalogue tree :=
    (mem_grammarsMet _ _ _ _).mpr ⟨(tree.mem_languagesMet _).mpr ⟨named, written, inside, rfl⟩, found⟩
  have apart : (grammarsMet catalogue tree).Nodup :=
    List.Pairwise.of_map Prod.fst (fun _ _ different same => different (congrArg Prod.fst same))
      (grammarsMet_apart catalogue tree)
  exact List.count_eq_one_of_mem apart member

theorem grammarsText_texts (catalogue : Catalogue) (languages : List String) :
    grammarsText catalogue (languages.map Value.str) =
      String.join (languages.filterMap catalogue.grammar?) := by
  induction languages with
  | nil => rfl
  | cons language rest ih =>
    rw [List.map_cons, grammarsText, ih]
    cases found : catalogue.grammar? language <;> simp [found]

theorem grammarsText_spelled (catalogue : Catalogue) (languages : List String)
    (spelled : ∀ language ∈ languages, Assets.canonical language = language) :
    grammarsText catalogue (languages.map Value.str) =
      String.join (languages.filterMap fun language => catalogue.grammars.lookup language) := by
  have direct : languages.filterMap catalogue.grammar? =
      languages.filterMap fun language => catalogue.grammars.lookup language :=
    List.filterMap_congr fun language member => by rw [Catalogue.grammar?, spelled language member]
  rw [grammarsText_texts, direct]

theorem languages_after (setting : Setting) (tree : Node) :
    (State.fresh.after setting tree.preorder).languages = tree.languagesMet.map Value.str := by
  simp [State.after, State.fresh, newLanguages, isRecorded, Node.languagesMet]

theorem grammarsText_after (setting : Setting) (tree : Node) :
    grammarsText setting.catalogue (State.fresh.after setting tree.preorder).languages =
      String.join ((grammarsMet setting.catalogue tree).map Prod.snd) := by
  rw [languages_after, grammarsText_spelled _ _ tree.languagesMet_spelled, grammarsMet,
    List.map_filterMap]
  simp [Option.map_map, Function.comp_def]

theorem themeLiteral_eq (theme : Options.Theme) :
    themeLiteral theme = "\"" ++ theme.name ++ "\"" := by
  cases theme <;> decide +kernel

theorem mermaidStatement_eq (options : Options.Page) :
    mermaidStatement options =
      "mermaid.initialize(\x7btheme: window.matchMedia('(prefers-color-scheme: dark)').matches ? " ++
        ("\"" ++ options.darkTheme.name ++ "\"") ++ " : " ++
        ("\"" ++ options.lightTheme.name ++ "\"") ++ "\x7d)" := by
  unfold mermaidStatement
  rw [themeLiteral_eq, themeLiteral_eq]

/-- The trailers for a tree. -/
def treeTrailers (setting : Setting) (tree : Node) : String :=
  let catalogue := setting.catalogue
  (if occurs .mathExpr tree then
    styleText catalogue.katexCss ++ elementText "script" [] (catalogue.katexJs ++
      String.join ((statementsMet setting tree).map fun statement => statement ++ "\n"))
  else "") ++
  ((if occurs .codeBlock tree then
    styleText catalogue.prismCss ++ elementText "script" [] (catalogue.prismJs ++
      String.join ((grammarsMet catalogue tree).map Prod.snd))
  else "") ++
  (if occurs .diagram tree then
    elementText "script" [] catalogue.mermaidJs ++
      elementText "script" []
        ("mermaid.initialize(\x7btheme: window.matchMedia('(prefers-color-scheme: dark)').matches ? " ++
          ("\"" ++ setting.options.darkTheme.name ++ "\"") ++ " : " ++
          ("\"" ++ setting.options.lightTheme.name ++ "\"") ++ "\x7d)")
  else ""))

theorem trailersText_after (setting : Setting) (tree : Node) :
    trailersText setting (State.fresh.after setting tree.preorder) = treeTrailers setting tree := by
  have features : (State.fresh.after setting tree.preorder).features =
      ⟨occurs .mathExpr tree, occurs .codeBlock tree, occurs .diagram tree⟩ := rfl
  rw [trailersText, features, treeTrailers, katexText, prismText, mermaidText, katexContent_after,
    grammarsText_after, mermaidStatement_eq]

/-- Between the container of a page and the end of its body there are the trailers for its tree and
nothing else. In the script for formulas every statement is a line. The grammars in the script for
code are those of the languages of the tree that the catalogue has, and each is there once. -/
theorem page_trailers (setting : Setting) (document : Document) (typed : document.WellTyped)
    (html : String) (rendered : (page setting (.document document)).result = .ok html) :
    let tree := document.root.node
    let catalogue := setting.catalogue
    (∃ content, (fragment setting (.node tree) .fresh).result = .ok content ∧
      html = frontText catalogue document ++
        (divText "flex-container" (mainText catalogue document.license content ++
            summaryText setting.options (tree.preorder.filterMap summaryLine?)) ++
          (treeTrailers setting tree ++ (closingTag "body" ++ closingTag "html")))) ∧
    (∀ statement ∈ statementsMet setting tree, '\n' ∉ statement.toList) ∧
    (∀ language script, (language, script) ∈ grammarsMet catalogue tree ↔
      language ≠ "" ∧ (∃ written ∈ tree.writtenMet, Assets.canonical written = language) ∧
        catalogue.grammars.lookup language = some script) ∧
    ∀ written ∈ tree.writtenMet, Assets.canonical written ≠ "" →
      ∀ script, catalogue.grammar? written = some script →
        (grammarsMet catalogue tree).count (Assets.canonical written, script) = 1 := by
  intro tree catalogue
  refine ⟨?_, statementsMet_unbroken setting tree, ?_, ?_⟩
  · obtain ⟨content, made, laid⟩ := page_parts typed rendered
    rw [trailersText_after] at laid
    exact ⟨content, made, laid⟩
  · intro language script
    rw [mem_grammarsMet, tree.mem_languagesMet, and_assoc]
  · intro written inside named script found
    exact grammarsMet_once inside named found

/-- One language in two spellings, one that no grammar is there for, code of none, and a diagram. -/
def spelledDocument : Document where
  title := .str "T"
  authors := []
  license := .null
  root := ⟨[
    .branch .blockQuote [
      .leaf (.codeBlock (.str "lost") (.str "")) (.object []),
      .leaf (.codeBlock (.str " PY") (.str "")) (.object []),
      .leaf (.mathExpr (.str "y") false) (.object [])] (.object []),
    .leaf (.codeBlock (.str "Python") (.str "")) (.object []),
    .leaf (.codeBlock (.str " ") (.str "")) (.object []),
    .leaf (.diagram (.str "a-->b")) (.object [])], .null, .object []⟩

theorem spelledDocument_wellTyped : spelledDocument.WellTyped := by
  simp [spelledDocument, Document.WellTyped, Tree.Root.node, Node.WellTyped, Tree.AllWellTyped,
    Tree.Branch.WellTyped, Tree.Leaf.WellTyped, Tree.IsText]

def spelledTrailers : String :=
  "<style>/* k */</style><script>katex = 1;katex.render(\"y\", document.querySelector(" ++
    "'[data-katex-index=\"1\"]'), \x7bdisplayMode: false, throwOnError: false\x7d);\n</script>" ++
    "<style>/* p */</style><script>a < b;c = 2;</script><script>mermaid();</script>" ++
    "<script>mermaid.initialize(\x7btheme: window.matchMedia('(prefers-color-scheme: dark)')" ++
    ".matches ? \"dark\" : \"base\"\x7d)</script>"

theorem page_trailers_spelled :
    spelledDocument.WellTyped ∧ ∃ html,
      (page smallSetting (.document spelledDocument)).result = .ok html ∧
      (∃ shown, html = frontText smallSetting.catalogue spelledDocument ++
        (divText "flex-container" shown ++
          (spelledTrailers ++ (closingTag "body" ++ closingTag "html")))) ∧
      (grammarsMet smallSetting.catalogue spelledDocument.root.node).count ("python", "c = 2;") = 1 := by
  obtain ⟨html, rendered⟩ : ∃ html, (page smallSetting (.document spelledDocument)).result = .ok html :=
    ok_of_isSome (by decide +kernel)
  obtain ⟨⟨content, -, laid⟩, -, -, once⟩ :=
    page_trailers smallSetting spelledDocument spelledDocument_wellTyped html rendered
  have trailers : treeTrailers smallSetting spelledDocument.root.node = spelledTrailers := by
    decide +kernel
  rw [trailers] at laid
  exact ⟨spelledDocument_wellTyped, html, rendered, ⟨_, laid⟩,
    once " PY" (by decide +kernel) (by decide +kernel) "c = 2;" (by decide +kernel)⟩

end Folio.Render
