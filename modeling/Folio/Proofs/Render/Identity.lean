import Folio.Proofs.Render.Page
import Folio.Proofs.Render.Preorder
import Mathlib.Data.List.Nodup

/-! The ids of a page. Headings carry the anchors that their author chose, and the page adds two ids of
its own around them: one on the title and, where there is a license, one on that. Nothing keeps the
two apart. So ids are distinct where the anchors are and leave the page's own alone, and an anchor
that is the id of the title leads to the title. -/
namespace Folio.Markup

def Tag.ident? (tag : Tag) : Option (String × String) :=
  (tag.2.lookup "id").map fun id => (id, tag.1)

def Token.ident? (token : Token) : Option (String × String) := token.tag?.bind Tag.ident?

theorem ident_inline {name : String} {attrs : List (String × String)} (content : String)
    (anonymous : attrs.lookup "id" = none) :
    (inlineTokens name attrs content).filterMap Token.ident? = [] := by
  simp [inlineTokens, Token.ident?, Token.tag?, Tag.ident?, anonymous]

end Folio.Markup

namespace Folio.Tree

open Markup (Tag Token)

def Node.ident? : Node → Option (String × String)
  | .branch (.heading level anchor _) _ _ => some (anchor.display, Render.headingTag level)
  | _ => none

def Node.idents (tree : Node) : List (String × String) := tree.preorder.filterMap Node.ident?

theorem element_anonymous (frame : Branch) (hasChildren : Bool) :
    ((frame.element hasChildren).bind fun around => Tag.ident? around) = none := by
  cases frame with
  | container cssClass =>
    by_cases classed : cssClass.truthy = true <;> simp [Branch.element, Tag.ident?, classed]
  | heading level anchor title => cases hasChildren <;> rfl
  | _ => rfl

theorem readOff_ident : ReadOff Token.ident? Node.ident? where
  closing name := rfl
  leaf item data number := by
    cases item with
    | codeBlock language source =>
      simp [Leaf.tokens, Markup.inlineTokens, Token.ident?, Token.tag?, Tag.ident?, Node.ident?]
    | mathExpr source display => exact Markup.ident_inline _ rfl
    | diagram source | inlineCode content => exact Markup.ident_inline _ rfl
    | thematicBreak | text content => rfl
  branch frame children data := by
    have anonymous := element_anonymous frame (!children.isEmpty)
    simp only [Token.ident?, Token.tag?, Option.bind_some]
    rw [anonymous, Option.toList_none, List.append_nil]
    cases frame <;> rfl

end Folio.Tree

namespace Folio.Render

open Markup (Tag Token readElements tagsAll)
open Folio.Tree (Document IsText Node)

theorem idents_treeTags (tree : Node) (count : Nat) :
    (treeTags tree count).filterMap Tag.ident? = tree.idents := by
  rw [treeTags, List.filterMap_filterMap]
  exact Tree.readOff_ident.node count tree

def iconIdents (icon : String) : List (String × String) := (iconTags icon).filterMap Tag.ident?

/-- The ids around the headings, given those of the two icons. -/
def authorsIdents (authors : List Value) (icon : List (String × String)) : List (String × String) :=
  if authors.isEmpty then [] else icon

def licenseIdents (license : Value) (icon : List (String × String)) : List (String × String) :=
  match license with
  | .null => []
  | _ => ("license", "div") :: icon

/-- The ids of a page from top to bottom, given those of the two icons. -/
def pageIdents (document : Document) (author license : List (String × String)) :
    List (String × String) :=
  ("doctitle", "p") :: authorsIdents document.authors author ++ document.root.node.idents ++
    licenseIdents document.license license

theorem idents_authors (catalogue : Assets.Catalogue) (authors : List Value) :
    (authorsTags catalogue authors).filterMap Tag.ident? =
      authorsIdents authors (iconIdents catalogue.authorIcon) := by
  cases authors <;> simp [authorsTags, authorsIdents, iconIdents, Tag.ident?]

theorem idents_license (catalogue : Assets.Catalogue) (license : Value) :
    (licenseTags catalogue license).filterMap Tag.ident? =
      licenseIdents license (iconIdents catalogue.licenseIcon) := by
  cases license <;> rfl

theorem idents_summary (options : Options.Page) (summary : List SummaryEntry) :
    (summaryTags options summary).filterMap Tag.ident? = [] := by
  have entries : (summary.map entryTag).filterMap Tag.ident? = [] := by
    rw [List.filterMap_map, List.filterMap_eq_nil_iff]
    intro entry _
    rfl
  unfold summaryTags
  split
  · exact entries
  · rfl

theorem summary_inside (setting : Setting) (document : Document) (state : State)
    (shown : List Tag) : ∃ before after, pageTags setting document state shown =
      before ++ summaryTags setting.options state.summary ++ after := by
  refine ⟨("!DOCTYPE", [("html", "")]) :: ("html", []) :: ("head", []) :: headTags ++
    ("body", []) :: ("header", []) :: headerTags setting.catalogue document ++
    ("div", [("class", "flex-container")]) :: ("div", [("class", "main-content")]) ::
      ("div", [("class", sectionClass 1)]) :: shown ++
      licenseTags setting.catalogue document.license, trailersTags state.features, ?_⟩
  simp [pageTags, contentTags]

theorem idents_trailers (features : Features) :
    (trailersTags features).filterMap Tag.ident? = [] := by
  obtain ⟨katex, prism, mermaid⟩ := features
  cases katex <;> cases prism <;> cases mermaid <;> rfl

theorem idents_pageTags (setting : Setting) (document : Document) (state : State) (count : Nat) :
    (pageTags setting document state (treeTags document.root.node count)).filterMap Tag.ident? =
      pageIdents document (iconIdents setting.catalogue.authorIcon)
        (iconIdents setting.catalogue.licenseIcon) := by
  have head : headTags.filterMap Tag.ident? = [] := rfl
  have title : Tag.ident? ("p", [("id", "doctitle")]) = some ("doctitle", "p") := rfl
  have bare : ∀ name, Tag.ident? (name, []) = none := fun _ => rfl
  have classed : ∀ name value, Tag.ident? (name, [("class", value)]) = none := fun _ _ => rfl
  have doctype : Tag.ident? ("!DOCTYPE", [("html", "")]) = none := rfl
  simp [pageTags, headerTags, contentTags, head, title, bare, classed, doctype,
    idents_authors, idents_license, idents_summary, idents_trailers, idents_treeTags, pageIdents]

def listed (document : Document) : List SummaryEntry :=
  document.root.node.preorder.filterMap summaryLine?

/-- The anchors that the author of a document chose. -/
def anchors (document : Document) : List String :=
  (listed document).map fun entry => entry.anchor.display

/-- The ids of a page outside its icons. -/
def ownIds (document : Document) : List String := (pageIdents document [] []).map Prod.fst

theorem anchors_eq (document : Document) :
    anchors document = document.root.node.idents.map Prod.fst := by
  rw [anchors, listed, Node.idents, List.map_filterMap, List.map_filterMap]
  refine List.filterMap_congr fun node _ => ?_
  cases node with
  | leaf item data => rfl
  | branch frame children data => cases frame <;> rfl

theorem ownIds_eq (document : Document) : ownIds document =
    "doctitle" :: (anchors document ++ (licenseIdents document.license []).map Prod.fst) := by
  simp [ownIds, pageIdents, authorsIdents, anchors_eq]

theorem ownIds_nodup_iff (document : Document) :
    (ownIds document).Nodup ↔ (anchors document).Nodup ∧ "doctitle" ∉ anchors document ∧
      (document.license ≠ .null → "license" ∉ anchors document) := by
  rw [ownIds_eq, List.nodup_cons, List.nodup_append]
  cases document.license with
  | null => simp [licenseIdents, and_comm]
  | bool _ | int _ | float _ | str _ | list _ | object _ =>
    simp only [licenseIdents, List.map_cons, List.map_nil, List.mem_append, List.mem_singleton,
      ne_eq, reduceCtorEq, not_false_eq_true, forall_const]
    constructor
    · rintro ⟨title, apart, -, others⟩
      exact ⟨apart, fun member => title (Or.inl member),
        fun member => others _ member _ rfl rfl⟩
    · rintro ⟨apart, title, license⟩
      refine ⟨?_, apart, by simp, ?_⟩
      · rintro (member | same)
        · exact title member
        · exact absurd same (by decide)
      · rintro id member _ rfl rfl
        exact license member

/-- A link to an anchor leads to the first element that carries it. The first of all is the title,
and the headings come next. -/
theorem anchors_lead_iff (document : Document) :
    (∀ place id, (anchors document)[place]? = some id → (ownIds document).idxOf id = place + 1) ↔
      (anchors document).Nodup ∧ "doctitle" ∉ anchors document := by
  rw [ownIds_eq]
  constructor
  · intro leads
    constructor
    · -- Two headings with one anchor would have to be in one place.
      rw [List.nodup_iff_getElem?_ne_getElem?]
      intro i j less inside same
      have found := List.getElem?_eq_getElem inside
      have one := leads i _ (same.trans found)
      have other := leads j _ found
      omega
    · intro member
      obtain ⟨place, found⟩ := List.mem_iff_getElem?.mp member
      have first := leads place "doctitle" found
      simp at first
  · rintro ⟨apart, title⟩ place id found
    obtain ⟨inside, rfl⟩ := List.getElem?_eq_some_iff.mp found
    have member := List.getElem_mem inside
    have other : "doctitle" ≠ (anchors document)[place] := fun same => title (same ▸ member)
    rw [List.idxOf_cons_ne _ other, List.idxOf_append_of_mem member, apart.idxOf_getElem]

theorem links_lead_iff (document : Document) :
    (∀ place entry, (listed document)[place]? = some entry →
        (ownIds document).idxOf entry.anchor.display = place + 1) ↔
      (anchors document).Nodup ∧ "doctitle" ∉ anchors document := by
  rw [← anchors_lead_iff]
  constructor
  · intro leads place id found
    rw [anchors, List.getElem?_map] at found
    obtain ⟨entry, here, rfl⟩ := Option.map_eq_some_iff.mp found
    exact leads place entry here
  · intro leads place entry here
    refine leads place entry.anchor.display ?_
    rw [anchors, List.getElem?_map, here, Option.map_some]

/-- A reader of the page finds the summary of the headings, if one is shown. As ids it finds that of
the title, the anchors of the headings in order and, where there is a license, its id, with what the
icons bring in between. Outside the icons all of these are distinct exactly if the anchors are and
neither of the page's own is among them. Every link of the summary leads to its own heading exactly
if the anchors are distinct and none is the id of the title. -/
theorem page_ids (setting : Setting) (sound : SoundAssets setting.catalogue)
    (document : Document) (typed : document.WellTyped) (html : String)
    (rendered : (page setting (.document document)).result = .ok html) :
    (∃ forest before after, readElements .page html = some forest ∧
      tagsAll forest = before ++ summaryTags setting.options (listed document) ++ after ∧
      (tagsAll forest).filterMap Tag.ident? =
        pageIdents document (iconIdents setting.catalogue.authorIcon)
          (iconIdents setting.catalogue.licenseIcon)) ∧
    ((ownIds document).Nodup ↔ (anchors document).Nodup ∧ "doctitle" ∉ anchors document ∧
      (document.license ≠ .null → "license" ∉ anchors document)) ∧
    ((∀ place entry, (listed document)[place]? = some entry →
        (ownIds document).idxOf entry.anchor.display = place + 1) ↔
      (anchors document).Nodup ∧ "doctitle" ∉ anchors document) := by
  obtain ⟨clear, -⟩ := text_of_page typed rendered
  obtain ⟨forest, read, -, tags⟩ := page_reads sound typed rendered
  have ids := idents_pageTags setting document
    (course setting .fresh document.root.node.events).state 0
  -- What was gathered for the summary are the headings of the tree.
  have gathered : (course setting .fresh document.root.node.events).state.summary =
      listed document := summary_of_clear clear
  rw [← tags] at ids
  obtain ⟨before, after, split⟩ := summary_inside setting document
    (course setting .fresh document.root.node.events).state (treeTags document.root.node 0)
  rw [← tags, gathered] at split
  exact ⟨⟨forest, before, after, read, split, ids⟩, ownIds_nodup_iff document,
    links_lead_iff document⟩

/-- One heading, with the id of the title for its anchor. -/
def clashingDocument : Document where
  title := .str "T"
  authors := []
  license := .null
  root := ⟨[.branch (.heading 1 (.str "doctitle") (.str "A")) [] (.object [])], .null, .object []⟩

theorem clashingDocument_wellTyped : clashingDocument.WellTyped := by
  simp [clashingDocument, Document.WellTyped, Tree.Root.node, Node.WellTyped, Tree.AllWellTyped,
    Tree.Branch.WellTyped, IsText]

/-- Its page has that id twice, although no two anchors are the same. -/
theorem clashingDocument_ids :
    SoundAssets smallSetting.catalogue ∧ clashingDocument.WellTyped ∧
      (anchors clashingDocument).Nodup ∧
      ∃ html forest, (page smallSetting (.document clashingDocument)).result = .ok html ∧
        readElements .page html = some forest ∧
        (tagsAll forest).filterMap Tag.ident? = [("doctitle", "p"), ("doctitle", "h1")] := by
  have returned : (page smallSetting (.document clashingDocument)).result.toOption.isSome = true := by
    decide +kernel
  obtain ⟨html, found⟩ := Option.isSome_iff_exists.mp returned
  have rendered := ok_of_toOption found
  obtain ⟨forest, read, -, tags⟩ :=
    page_reads smallSetting_sound clashingDocument_wellTyped rendered
  refine ⟨smallSetting_sound, clashingDocument_wellTyped, by decide +kernel, html, forest, rendered,
    read, ?_⟩
  rw [tags, idents_pageTags]
  rfl

theorem page_ids_small :
    SoundAssets smallSetting.catalogue ∧ smallDocument.WellTyped ∧
      (∃ html, (page smallSetting (.document smallDocument)).result = .ok html) ∧
      (ownIds smallDocument).Nodup := by
  obtain ⟨html, rendered⟩ := smallDocument_page
  have distinct := (page_ids smallSetting smallSetting_sound smallDocument smallDocument_wellTyped
    html rendered).2.1
  exact ⟨smallSetting_sound, smallDocument_wellTyped, ⟨html, rendered⟩,
    distinct.mpr ⟨by decide +kernel, by decide +kernel, fun _ => by decide +kernel⟩⟩

end Folio.Render
