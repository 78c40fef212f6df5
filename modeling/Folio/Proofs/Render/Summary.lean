import Folio.Proofs.Render.Completion
import Mathlib.Data.List.Basic

/-! The summary of a page against the headings of its main content. The headings are written while the
tree is rendered, the links afterwards, from what was gathered on the way. A reader of the page finds
both with the text that they hold, and finds them to be the headings of the tree in the same order. -/
namespace Folio.Markup

open Text.Entity (encoded)

/-- The elements of some names, each with the text up to its closing tag. -/
def labelsOf (names : List String) : List Token → List (Tag × String)
  | [] => []
  | .opening name attrs :: rest =>
    if name ∈ names then ((name, attrs), textUpTo name rest) :: labelsOf names rest
    else labelsOf names rest
  | _ :: rest => labelsOf names rest

def labels (names : List String) (text : String) : Option (List (Tag × String)) :=
  ((tokens .page text).map (List.map Token.decoded)).map (labelsOf names)

/-- A text that a reader finds these in, whatever comes after it. -/
def Labelled (names : List String) (text : String) (shown : List (Tag × String)) : Prop :=
  ∃ found, Reads .page text found ∧ ∀ rest,
    labelsOf names ((merged (found ++ rest)).map Token.decoded) =
      shown ++ labelsOf names ((merged rest).map Token.decoded)

section
variable {names : List String}

theorem labelsOf_prependText (content : String) (found : List Token) :
    labelsOf names (Token.prependText content found) = labelsOf names found := by
  unfold Token.prependText
  split
  · rfl
  · split <;> rfl

theorem labelsOf_merged (found : List Token) :
    labelsOf names (merged found) = labelsOf names found := by
  induction found with
  | nil => rfl
  | cons token rest ih =>
    cases token with
    | text content =>
      rw [merged_text, labelsOf_prependText, ih]
      rfl
    | opening name attrs => simp only [merged, labelsOf, textUpTo_merged, ih]
    | closing _ | verbatim _ | comment => simpa [merged, labelsOf] using ih

theorem labelsOf_text (content : String) (found : List Token) :
    labelsOf names ((merged (.text content :: found)).map Token.decoded) =
      labelsOf names ((merged found).map Token.decoded) := by
  -- Texts have to be merged before they are decoded, because an entity can be cut in two.
  rw [merged_text]
  cases merged found with
  | nil => by_cases blank : content = "" <;> simp [Token.prependText, blank, labelsOf, Token.decoded]
  | cons token rest =>
    cases token <;> by_cases blank : content = "" <;>
      simp [Token.prependText, blank, labelsOf, Token.decoded]

theorem labelsOf_of_none (found rest : List Token)
    (none : labelsOf names ((merged found).map Token.decoded) = []) :
    labelsOf names ((merged (found ++ rest)).map Token.decoded) =
      labelsOf names ((merged rest).map Token.decoded) := by
  induction found with
  | nil => rfl
  | cons token found ih =>
    cases token with
    | text content =>
      rw [labelsOf_text] at none
      rw [List.cons_append, labelsOf_text, ih none]
    | opening name attrs =>
      simp only [List.cons_append, merged, List.map_cons, Token.decoded, labelsOf] at none ⊢
      split at none
      · exact absurd none (by simp)
      · next other => rw [if_neg other, ih none]
    | closing _ | verbatim _ | comment => exact ih none

theorem Labelled.labels_eq {text : String} {shown : List (Tag × String)}
    (labelled : Labelled names text shown) : labels names text = some shown := by
  obtain ⟨found, reads, all⟩ := labelled
  have whole := all []
  rw [List.append_nil] at whole
  rw [labels, reads.tokens_eq, Option.map_some, Option.map_some, whole]
  exact congrArg some (List.append_nil shown)

theorem Labelled.append {left right : String} {shown others : List (Tag × String)}
    (first : Labelled names left shown) (second : Labelled names right others) :
    Labelled names (left ++ right) (shown ++ others) := by
  obtain ⟨found, reads, all⟩ := first
  obtain ⟨more, readsMore, allMore⟩ := second
  refine ⟨found ++ more, reads.append readsMore, fun rest => ?_⟩
  rw [List.append_assoc, all, allMore, List.append_assoc]

theorem labelled_of_none {text : String} (none : labels names text = some []) :
    Labelled names text [] := by
  unfold labels tokens at none
  split at none
  · next found fed => exact ⟨found, fed, fun rest => labelsOf_of_none found rest (by simpa using none)⟩
  · exact absurd none (by simp)

theorem labelled_writtenAll {found : List Token}
    (writable : ∀ token ∈ found, token.Writable .page) (none : labelsOf names found = []) :
    Labelled names (writtenAll found) [] := by
  apply labelled_of_none
  rw [labels, tokens_writtenAll .page found writable, Option.map_some, labelsOf_merged, none]

theorem labelled_encoded (content : String) : Labelled names (encoded content) [] := by
  have written : writtenAll [.text content] = encoded content := by
    simp [writtenAll, Token.written]
  rw [← written]
  exact labelled_writtenAll (by simp [Token.Writable]) rfl

theorem Labelled.element {text : String} {shown : List (Tag × String)}
    (labelled : Labelled names text shown) {name : String} {attrs : List (String × String)}
    (solid : Solid name attrs) (other : name ∉ names) :
    Labelled names ((Token.opening name attrs).written ++ (text ++ closingTag name)) shown := by
  obtain ⟨named, keyed, ordinary, -⟩ := solid
  have opened : Labelled names (writtenAll [.opening name attrs]) [] :=
    labelled_writtenAll (by simpa using ⟨named, keyed, ordinary⟩) (by simp [labelsOf, other])
  have closed : Labelled names (writtenAll [.closing name]) [] :=
    labelled_writtenAll (by simpa [Token.Writable] using named) rfl
  simpa [writtenAll, Token.written] using opened.append (labelled.append closed)

theorem labelled_inline {name : String} {attrs : List (String × String)} (content : String)
    (solid : Solid name attrs) (known : name ∈ names) :
    Labelled names ((Token.opening name attrs).written ++ (encoded content ++ closingTag name))
      [((name, attrs), content)] := by
  obtain ⟨named, keyed, ordinary, -⟩ := solid
  refine ⟨[(Token.opening name attrs).encoded] ++ (singles (encoded content).toList ++
    [.closing name]), ?_, fun rest => ?_⟩
  · exact (reads_opening .page name attrs named keyed ordinary).append
      ((reads_encoded .page content).append (reads_closing .page name named))
  · -- What is in the element is one text, and its closing tag comes right after it.
    have inner : (merged (singles (encoded content).toList ++ .closing name :: rest)).map
        Token.decoded = Token.prependText content (.closing name :: (merged rest).map Token.decoded) := by
      rw [merged_singles, String.ofList_toList, merged_text]
      by_cases blank : content = "" <;> simp [Token.prependText, merged, Token.decoded, blank]
    have opened : (Token.opening name attrs).encoded.decoded = .opening name attrs := by simp
    rw [List.append_assoc, List.append_assoc, List.singleton_append, List.singleton_append]
    change labelsOf names ((Token.opening name attrs).encoded.decoded :: (merged (singles
      (encoded content).toList ++ .closing name :: rest)).map Token.decoded) = _
    rw [opened, inner, labelsOf, if_pos known, textUpTo_prependText, labelsOf_prependText]
    simp [textUpTo, labelsOf]

end

end Folio.Markup

namespace Folio.Tree

open Markup (Labelled Solid Tag Token labelled_inline labelled_writtenAll labelsOf writtenAll
  writtenAll_append)
open Number (digitsText)

structure Heading where
  level : Nat
  anchor : String
  title : String
  deriving DecidableEq

def Node.heading? : Node → Option Heading
  | .branch (.heading level anchor title) _ _ => some ⟨level, anchor.display, title.display⟩
  | _ => none

def Node.headingsMet (tree : Node) : List Heading := tree.preorder.filterMap Node.heading?

/-- A heading as an element with its text. There are six elements, whatever the level is. -/
def Heading.element (heading : Heading) : Tag × String :=
  (("h" ++ digitsText (min heading.level 6), [("id", heading.anchor)]), heading.title)

/-- The link to a heading, which keeps the level. -/
def Heading.link (heading : Heading) : Tag × String :=
  (("a", [("href", "#" ++ heading.anchor), ("class", "lvl" ++ digitsText heading.level)]),
    heading.title)

theorem solid_of_known {name : String} {attrs : List (String × String)}
    (known : IsElement name attrs) (solid : name ≠ "hr") : Solid name attrs := by
  have tags : ∀ tag ∈ fragmentTags, Markup.isWord tag = true ∧
      Markup.Dialect.page.verbatim.contains tag = false := by decide
  obtain ⟨named, ordinary⟩ := tags name known.1
  exact ⟨named, fun attr member => isWord_of_known (known.2 attr member), ordinary,
    holds_of_known known solid⟩

theorem labelled_leaf (item : Leaf) (number : Nat) :
    Labelled headingNames (writtenAll (item.tokens number)) [] := by
  apply labelled_writtenAll
  · intro token member
    exact (permitted_leaf item number token member).writable .page
      (by simp [fragmentTags, Markup.Dialect.page])
  · cases item with
    | mathExpr source display =>
      cases display <;> simp [Leaf.tokens, Markup.inlineTokens, labelsOf, headingNames]
    | _ => simp [Leaf.tokens, Markup.inlineTokens, labelsOf, headingNames]

theorem labelled_title (frame : Branch) (children : List Node) (data : Value)
    (typed : frame.WellTyped) : Labelled headingNames (writtenAll frame.title)
      ((Node.branch frame children data).heading?.toList.map Heading.element) := by
  cases frame with
  | heading level anchor title =>
    obtain ⟨known, solid⟩ := headingTag_known level typed.1
    rw [Branch.title, Markup.writtenAll_inlineTokens]
    exact labelled_inline title.display
      (solid_of_known ⟨known, by simp [fragmentAttributes]⟩ solid) (headingTag_mem level typed.1)
  | _ => exact labelled_writtenAll (by simp [Branch.title]) rfl

theorem element_unnamed {frame : Branch} {hasChildren : Bool} {name : String}
    {attrs : List (String × String)} (around : frame.element hasChildren = some (name, attrs)) :
    name ∉ headingNames := by
  have apart : ∀ tag ∈ elementTags, tag ∉ headingNames := by decide
  exact apart name (element_cases around).1

theorem labelled_within (frame : Branch) (hasChildren : Bool) {inner : List Token}
    {shown : List (Tag × String)} (labelled : Labelled headingNames (writtenAll inner) shown) :
    Labelled headingNames (writtenAll (within (frame.element hasChildren) inner)) shown := by
  cases around : frame.element hasChildren with
  | none => exact labelled
  | some element =>
    obtain ⟨name, attrs⟩ := element
    obtain ⟨known, solid⟩ := element_known frame hasChildren name attrs around
    have whole := labelled.element (solid_of_known known solid)
      (element_unnamed around)
    simpa [within, writtenAll, writtenAll_append, Token.written] using whole

mutual

/-- A reader finds the headings of a tree in its markup, and no others. -/
theorem Node.labelled (count : Nat) : (node : Node) → node.WellTyped →
    Labelled headingNames (writtenAll (node.tokens count)) (node.headingsMet.map Heading.element)
  | .leaf item data, _ => labelled_leaf item (count + 1)
  | .branch frame children data, typed => by
    have inside := labelled_within frame (!children.isEmpty)
      (labelledAll count children typed.2)
    have whole := (labelled_title frame children data typed.1).append inside
    rw [← List.map_append, ← writtenAll_append] at whole
    have split : (Node.branch frame children data).headingsMet =
        (Node.branch frame children data).heading?.toList ++
          (preorderAll children).filterMap Node.heading? := by
      rw [Node.headingsMet, Node.preorder, List.filterMap_cons]
      cases (Node.branch frame children data).heading? <;> rfl
    rw [split]
    exact whole

theorem labelledAll (count : Nat) : (nodes : List Node) → AllWellTyped nodes →
    Labelled headingNames (writtenAll (tokensAll count nodes))
      (((preorderAll nodes).filterMap Node.heading?).map Heading.element)
  | [], _ => labelled_writtenAll (by simp [tokensAll]) rfl
  | node :: rest, typed => by
    rw [tokensAll, writtenAll_append, preorderAll, List.filterMap_append, List.map_append]
    exact (node.labelled count typed.1).append
      (labelledAll (count + node.formulas) rest typed.2)

end

end Folio.Tree

namespace Folio.Render

open Assets (Catalogue)
open Markup (Element Labelled Piece Solid Tag labelled_encoded labelled_inline labels readElements)
open Text.Entity (encoded)
open Folio.Tree (Document Heading Node headingNames)

theorem labelled_div {names : List String} {text : String} {shown : List (Tag × String)}
    (labelled : Labelled names text shown) (name : String) (other : "div" ∉ names) :
    Labelled names (divText name text) shown := labelled.element (solid_div name) other

theorem labelled_nothing {names : List String} : Labelled names "" [] :=
  Markup.labelled_of_none rfl

theorem labelled_license {catalogue : Catalogue}
    (icon : Labelled headingNames catalogue.licenseIcon []) (license : Value) :
    Labelled headingNames (licenseText catalogue license) [] := by
  have rule : Labelled headingNames (Markup.Token.opening "hr" []).written [] :=
    Markup.labelled_of_none (by decide +kernel)
  have solid : Solid "div" [("class", "docinfo discreet"), ("id", "license")] :=
    IsTag.solid (by decide) (by decide)
  have laid : ∀ sentence, Labelled headingNames (elementText "div" _ (_ ++
      (catalogue.licenseIcon ++ encoded sentence))) _ := fun sentence =>
    (rule.append (icon.append (labelled_encoded sentence))).element solid (by decide)
  cases license with
  | null => exact labelled_nothing
  | bool _ | int _ | float _ | str _ | list _ | object _ => exact laid _

theorem labelled_main {catalogue : Catalogue}
    (icon : Labelled headingNames catalogue.licenseIcon []) (license : Value) {content : String}
    {shown : List (Tag × String)} (labelled : Labelled headingNames content shown) :
    Labelled headingNames (mainText catalogue license content) shown := by
  have first := labelled_div labelled (sectionClass 1) (by decide)
  have whole := labelled_div (first.append (labelled_license icon license)) "main-content"
    (by decide)
  rwa [List.append_nil] at whole

def entryLink (entry : SummaryEntry) : Tag × String := (entryTag entry, entry.name.display)

theorem labelled_entries (entries : List SummaryEntry) :
    Labelled ["a"] (entriesText entries) (entries.map entryLink) := by
  induction entries with
  | nil => exact labelled_nothing
  | cons entry rest ih =>
    have link : Labelled ["a"] (entryText entry) [entryLink entry] :=
      labelled_inline entry.name.display (IsTag.solid (by decide) (by simp; decide)) (by simp)
    exact link.append ih

theorem entryLinks_eq (nodes : List Node) :
    (nodes.filterMap summaryLine?).map entryLink =
      (nodes.filterMap Node.heading?).map Heading.link := by
  rw [List.map_filterMap, List.map_filterMap]
  refine List.filterMap_congr fun node _ => ?_
  cases node with
  | leaf item data => rfl
  | branch frame children data => cases frame <;> rfl

/-- A block of its own, in which a reader finds the links to these headings. -/
structure IsSummary (headings : List Heading) (panel : String) : Prop where
  block : ∃ children, readElements .page panel =
    some [.element "div" [("class", "summary-container")] children]
  links : labels ["a"] panel = some (headings.map Heading.link)

theorem isSummary_summaryText {options : Options.Page} {summary : List SummaryEntry}
    {headings : List Heading} (lines : summary.map entryLink = headings.map Heading.link)
    (wanted : (options.summary.truthy && !summary.isEmpty) = true) :
    IsSummary headings (summaryText options summary) := by
  rw [summaryText, if_pos wanted]
  constructor
  · have heading : Shows _ [("p", [])] := shows_inline options.summaryTitle (IsTag.bare (by decide))
    obtain ⟨_, title, -⟩ := heading
    obtain ⟨_, links, -⟩ := (entries_shows summary).div "summary-content"
    have panel := ((title.append links).element (solid_div "summary")).element
      (solid_div "summary-container")
    exact ⟨_, panel.read⟩
  · have title : Labelled ["a"] (elementText "p" [] (encoded options.summaryTitle)) [] :=
      (labelled_encoded options.summaryTitle).element (IsTag.bare (by decide)) (by decide)
    have links := labelled_div (labelled_entries summary) "summary-content" (by decide)
    have panel := labelled_div (labelled_div (title.append links) "summary" (by decide))
      "summary-container" (by decide)
    rw [lines] at panel
    exact panel.labels_eq

theorem summaryText_shown (options : Options.Page) (nodes : List Node) :
    if options.summary.truthy = true ∧ nodes.filterMap Node.heading? ≠ [] then
      IsSummary (nodes.filterMap Node.heading?)
        (summaryText options (nodes.filterMap summaryLine?))
    else summaryText options (nodes.filterMap summaryLine?) = "" := by
  have lines := entryLinks_eq nodes
  have listed : nodes.filterMap summaryLine? = [] ↔ nodes.filterMap Node.heading? = [] := by
    rw [← List.map_eq_nil_iff (f := entryLink), lines, List.map_eq_nil_iff]
  have gate : (options.summary.truthy && !(nodes.filterMap summaryLine?).isEmpty) = true ↔
      options.summary.truthy = true ∧ nodes.filterMap Node.heading? ≠ [] := by
    rw [Bool.and_eq_true, Bool.not_eq_true', List.isEmpty_eq_false_iff, ne_eq, listed]
  split
  · next wanted => exact isSummary_summaryText lines (gate.mpr wanted)
  · next unwanted => rw [summaryText, if_neg fun shown => unwanted (gate.mp shown)]

/-- The container of a page that is returned holds the main content and after it the summary, if one
is wanted and there is a heading to list. In the content a reader finds the headings of the tree in
order, each as an element with its anchor for an id and its title for a text; the summary links to
the same headings in the same order, and to nothing else. An icon could have headings of its own, so
of the icon in the main content it has to be known that it has none. -/
theorem page_summary (setting : Setting) (document : Document) (typed : document.WellTyped)
    (html : String) (rendered : (page setting (.document document)).result = .ok html) :
    let headings := document.root.node.headingsMet
    let trailers := trailersText setting (State.fresh.after setting document.root.node.preorder)
    ∃ content panel,
      (fragment setting (.node document.root.node) .fresh).result = .ok content ∧
      html = frontText setting.catalogue document ++
        (divText "flex-container" (mainText setting.catalogue document.license content ++ panel) ++
          (trailers ++ (Markup.closingTag "body" ++ Markup.closingTag "html"))) ∧
      labels headingNames content = some (headings.map Heading.element) ∧
      (labels headingNames setting.catalogue.licenseIcon = some [] →
        labels headingNames (mainText setting.catalogue document.license content) =
          some (headings.map Heading.element)) ∧
      if setting.options.summary.truthy = true ∧ headings ≠ [] then IsSummary headings panel
      else panel = "" := by
  intro headings trailers
  obtain ⟨content, made, laid⟩ := page_parts typed rendered
  have found := document.root.node.labelled 0 typed.2.2.2
  obtain rfl := markup_of_result typed.2.2.2 made
  refine ⟨_, _, made, laid, found.labels_eq, ?_, summaryText_shown setting.options _⟩
  intro icon
  exact (labelled_main (Markup.labelled_of_none icon) document.license found).labels_eq

/-- A heading deep in a section, with the anchor of the one above it. -/
def outlineDocument : Document where
  title := .str "T"
  authors := []
  license := .str "&"
  root := ⟨[
    .branch (.heading 7 (.str "\"a") (.str "<A>")) [
      .branch .blockQuote [
        .branch (.heading 1 (.str "\"a") (.str "&amp;")) [] (.object [])] (.object []),
      .leaf (.text (.str "x")) (.object [])] (.object []),
    .branch (.heading 2 (.str "b") (.str "B")) [] (.object [])], .null, .object []⟩

theorem outlineDocument_wellTyped : outlineDocument.WellTyped := by
  simp [outlineDocument, Document.WellTyped, Tree.Root.node, Node.WellTyped, Tree.AllWellTyped,
    Tree.Branch.WellTyped, Tree.Leaf.WellTyped, Tree.IsText]

theorem page_summary_outline :
    outlineDocument.WellTyped ∧
      (∃ html, (page smallSetting (.document outlineDocument)).result = .ok html) ∧
      labels headingNames smallSetting.catalogue.licenseIcon = some [] ∧
      ∃ content panel,
        labels headingNames (mainText smallSetting.catalogue outlineDocument.license content) =
          some [(("h6", [("id", "\"a")]), "<A>"), (("h1", [("id", "\"a")]), "&amp;"),
            (("h2", [("id", "b")]), "B")] ∧
        labels ["a"] panel =
          some [(("a", [("href", "#\"a"), ("class", "lvl7")]), "<A>"),
            (("a", [("href", "#\"a"), ("class", "lvl1")]), "&amp;"),
            (("a", [("href", "#b"), ("class", "lvl2")]), "B")] := by
  obtain ⟨html, rendered⟩ : ∃ html, (page smallSetting (.document outlineDocument)).result = .ok html :=
    ok_of_isSome (by decide +kernel)
  have icon : labels headingNames smallSetting.catalogue.licenseIcon = some [] := by decide +kernel
  obtain ⟨content, panel, -, -, -, main, summary⟩ :=
    page_summary smallSetting outlineDocument outlineDocument_wellTyped html rendered
  have wanted : smallSetting.options.summary.truthy = true ∧
      outlineDocument.root.node.headingsMet ≠ [] := by decide +kernel
  rw [if_pos wanted] at summary
  exact ⟨outlineDocument_wellTyped, ⟨html, rendered⟩, icon, content, panel, main icon, summary.links⟩

end Folio.Render
