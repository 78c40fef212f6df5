import Folio.Proofs.Render.Formulas
import Folio.Proofs.Render.Layout

/-! The page as a whole. It is written once its tree has been rendered, so everything in it can be
told from the document and from what was gathered: which trailers there are, and with them how many
style sheets and scripts. -/
namespace Folio.Render

open Assets (Catalogue)
open Markup (Element NoPair Piece Solid Tag Token countAll piece_empty readElements tagsAll)
open Text.ScriptLiteral (Inert)
open Folio.Tree (Document IsText Node occurs)

/-- An element that holds nothing but a style sheet or a script, which stays within it. -/
inductive IsTrailer : Element → Prop
  | style (css : String) (free : NoPair '<' '/' css.toList) :
    IsTrailer (.element "style" [] [.verbatim css])
  | script (text : String) (sound : IsScript text.toList) :
    IsTrailer (.element "script" [] [.verbatim text])

def Trails (text : String) (tags : List Tag) : Prop :=
  ∃ forest, Piece text forest ∧ (∀ trailer ∈ forest, IsTrailer trailer) ∧ tagsAll forest = tags

theorem Trails.append {left right : String} {tags others : List Tag} (one : Trails left tags)
    (two : Trails right others) : Trails (left ++ right) (tags ++ others) := by
  obtain ⟨forest, piece, each, rfl⟩ := one
  obtain ⟨more, pieceMore, eachMore, rfl⟩ := two
  refine ⟨forest ++ more, piece.append pieceMore, ?_, Markup.tagsAll_append forest more⟩
  intro trailer member
  rcases List.mem_append.mp member with first | second
  · exact each trailer first
  · exact eachMore trailer second

theorem Trails.where_needed {text : String} {tags : List Tag} (trails : Trails text tags)
    (needed : Bool) : Trails (if needed then text else "") (if needed then tags else []) := by
  cases needed with
  | true => exact trails
  | false => exact ⟨[], piece_empty, by simp, rfl⟩

theorem trails_style {css : String} (free : NoPair '<' '/' css.toList) :
    Trails (styleText css) [("style", [])] :=
  ⟨_, piece_style free, by simpa using IsTrailer.style css free, rfl⟩

theorem trails_script {text : String} (sound : IsScript text.toList) :
    Trails (elementText "script" [] text) [("script", [])] :=
  ⟨_, Markup.piece_verbatim "script" text (by decide) (by decide) (by decide) sound.unclosed,
    by simpa using IsTrailer.script text sound, rfl⟩

theorem katexContent_script {setting : Setting} {state : State} {formulas : List Tree.Formula}
    (met : Met setting state formulas) : IsScript state.katexContent.toList := by
  apply isScript_of_not_mem
  intro member
  rw [katexContent_toList] at member
  obtain ⟨statement, known, inside⟩ := List.mem_flatMap.mp member
  rcases List.mem_append.mp inside with shown | last
  · exact absurd (met.lines.2 statement known _ shown) (by decide)
  · exact absurd (List.mem_singleton.mp last) (by decide)

theorem katex_trails {setting : Setting} (sound : SoundAssets setting.catalogue) {state : State}
    {formulas : List Tree.Formula} (met : Met setting state formulas) :
    Trails (katexText setting.catalogue state) [("style", []), ("script", [])] := by
  have runtime := sound.scripts setting.catalogue.katexJs (by simp)
  have whole : IsScript (setting.catalogue.katexJs ++ state.katexContent).toList := by
    rw [String.toList_append]
    exact runtime.append (katexContent_script met)
  exact (trails_style (sound.sheets setting.catalogue.katexCss (by simp))).append
    (trails_script whole)

theorem grammarsText_script {catalogue : Catalogue} (sound : SoundAssets catalogue)
    (languages : List Value) : IsScript (grammarsText catalogue languages).toList := by
  have nothing : IsScript "".toList := isScript_of_not_mem (by simp)
  induction languages with
  | nil => exact nothing
  | cons language rest ih =>
    cases language with
    | str name =>
      rw [grammarsText, String.toList_append]
      cases found : catalogue.grammar? name with
      | none => exact nothing.append ih
      | some grammar =>
        obtain ⟨before, after, table, _⟩ := List.lookup_eq_some_iff.mp found
        exact (sound.scripts grammar (by simp [table])).append ih
    | null | bool _ | int _ | float _ | list _ | object _ => exact ih

theorem prism_trails {catalogue : Catalogue} (sound : SoundAssets catalogue) (state : State) :
    Trails (prismText catalogue state) [("style", []), ("script", [])] := by
  have core := sound.scripts catalogue.prismJs (by simp)
  have whole : IsScript (catalogue.prismJs ++ grammarsText catalogue state.languages).toList := by
    rw [String.toList_append]
    exact core.append (grammarsText_script sound state.languages)
  exact (trails_style (sound.sheets catalogue.prismCss (by simp))).append (trails_script whole)

theorem mermaidStatement_script (options : Options.Page) :
    IsScript (mermaidStatement options).toList := by
  have start : Inert ("mermaid.initialize(\x7btheme: window.matchMedia(" ++
      "'(prefers-color-scheme: dark)').matches ? ").toList := by decide +kernel
  have between : Inert " : ".toList := by decide +kernel
  have closed : Inert "\x7d)".toList := by decide +kernel
  have dark : Inert (themeLiteral options.darkTheme).toList :=
    Text.ScriptLiteral.inert_encoded options.darkTheme.name
  have light : Inert (themeLiteral options.lightTheme).toList :=
    Text.ScriptLiteral.inert_encoded options.lightTheme.name
  have whole : Inert (mermaidStatement options).toList :=
    (((start.join dark).join between).join light).join closed
  apply isScript_of_not_mem
  intro member
  exact absurd (whole _ member) (by decide)

theorem mermaid_trails {setting : Setting} (sound : SoundAssets setting.catalogue) :
    Trails (mermaidText setting) [("script", []), ("script", [])] :=
  (trails_script (sound.scripts setting.catalogue.mermaidJs (by simp))).append
    (trails_script (mermaidStatement_script setting.options))

def trailersTags (features : Features) : List Tag :=
  (if features.katex then [("style", []), ("script", [])] else []) ++
    ((if features.prism then [("style", []), ("script", [])] else []) ++
      (if features.mermaid then [("script", []), ("script", [])] else []))

theorem count_trailersTags (features : Features) :
    (trailersTags features).countP (fun tag => tag.1 == "style") =
        (if features.katex then 1 else 0) + (if features.prism then 1 else 0) ∧
      (trailersTags features).countP (fun tag => tag.1 == "script") =
        (if features.katex then 1 else 0) + (if features.prism then 1 else 0) +
          (if features.mermaid then 2 else 0) := by
  obtain ⟨katex, prism, mermaid⟩ := features
  cases katex <;> cases prism <;> cases mermaid <;> decide

theorem trailers_trail {setting : Setting} (sound : SoundAssets setting.catalogue) {state : State}
    {formulas : List Tree.Formula} (met : Met setting state formulas) :
    Trails (trailersText setting state) (trailersTags state.features) :=
  ((katex_trails sound met).where_needed state.features.katex).append
    (((prism_trails sound state).where_needed state.features.prism).append
      ((mermaid_trails sound).where_needed state.features.mermaid))

/-- The doctype; `html` with one `head` and then one `body`; in the body the header, the container of
the visible content, and then trailers only. -/
def IsPage (forest : List Element) : Prop :=
  ∃ head header content trailers,
    forest = [.element "!DOCTYPE" [("html", "")] [],
      .element "html" [] [.element "head" [] head,
        .element "body" [] (.element "header" [] header ::
          .element "div" [("class", "flex-container")] content :: trailers)]] ∧
    ∀ trailer ∈ trailers, IsTrailer trailer

theorem piece_doctype :
    Piece (Token.opening "!DOCTYPE html" []).written [.element "!DOCTYPE" [("html", "")] []] :=
  Markup.piece_of_read
    (Markup.readElements_alone (by decide +kernel) (by decide +kernel) (by decide))

def pageTags (setting : Setting) (document : Document) (state : State) (shown : List Tag) :
    List Tag :=
  ("!DOCTYPE", [("html", "")]) :: ("html", []) :: ("head", []) :: headTags ++
    ("body", []) :: ("header", []) :: headerTags setting.catalogue document ++
    ("div", [("class", "flex-container")]) :: contentTags setting document.license state shown ++
    trailersTags state.features

theorem pageText_reads {setting : Setting} (sound : SoundAssets setting.catalogue)
    (document : Document) {state : State} {formulas : List Tree.Formula}
    (met : Met setting state formulas) {fragment : String} {shown : List Tag}
    (shows : Shows fragment shown) :
    ∃ forest, Piece (pageText setting document state fragment) forest ∧ IsPage forest ∧
      tagsAll forest = pageTags setting document state shown := by
  obtain ⟨head, headPiece, headKnown⟩ := head_shows sound document.title.display
  obtain ⟨header, headerPiece, headerKnown⟩ := header_shows sound document
  obtain ⟨content, contentPiece, contentKnown⟩ :=
    content_shows sound document.license state shows
  obtain ⟨trailers, trailersPiece, each, trailersKnown⟩ := trailers_trail sound met
  have solidBody : Solid "body" [] := IsTag.bare (by decide)
  have solidHtml : Solid "html" [] := IsTag.bare (by decide)
  have body := (headerPiece.append (contentPiece.append trailersPiece)).element solidBody
  have html := (headPiece.append body).element solidHtml
  refine ⟨_, piece_doctype.append html, ⟨head, header, content, trailers, rfl, each⟩, ?_⟩
  simp [tagsAll, Element.tags, headKnown, headerKnown, contentKnown, trailersKnown, pageTags]

/-- What a reader finds in the page of a document. -/
theorem page_reads {setting : Setting} (sound : SoundAssets setting.catalogue)
    {document : Document} (typed : document.WellTyped) {html : String}
    (rendered : (page setting (.document document)).result = .ok html) :
    ∃ forest, readElements .page html = some forest ∧ IsPage forest ∧
      tagsAll forest = pageTags setting document
        (course setting .fresh document.root.node.events).state
        (treeTags document.root.node 0) := by
  obtain ⟨-, rfl⟩ := text_of_page typed rendered
  obtain ⟨formulas, met, -⟩ := (inStep_new setting).met.course document.root.node.events
  obtain ⟨forest, piece, isPage, tags⟩ := pageText_reads sound document met
    (fragment_shows document.root.node typed.2.2.2 0)
  exact ⟨forest, piece.read, isPage, tags⟩

theorem count_pageTags {setting : Setting} (sound : SoundAssets setting.catalogue)
    (document : Document) (state : State) {shown : List Tag} (plain : ArePlain shown)
    {name : String} (special : name = "style" ∨ name = "script") :
    (pageTags setting document state shown).countP (fun tag => tag.1 == name) =
      headTags.countP (fun tag => tag.1 == name) +
        (trailersTags state.features).countP (fun tag => tag.1 == name) := by
  have header := (arePlain_header sound document).countP_eq_zero special
  have content := (arePlain_content sound document.license state plain).countP_eq_zero special
  rcases special with rfl | rfl <;>
    simp [pageTags, List.countP_append, header, content]

/-- Whatever the document says, its page reads as one page: properly nested, with the header and the
visible content in its body and nothing after them but style sheets and scripts that stay within
their elements. There is one script for formulas, one for code and two for diagrams, where there are
any, and no other; and beside the two style sheets of the head one for formulas and one for code. -/
theorem page_wellFormed (setting : Setting) (sound : SoundAssets setting.catalogue)
    (document : Document) (typed : document.WellTyped) (html : String)
    (rendered : (page setting (.document document)).result = .ok html) :
    ∃ forest, readElements .page html = some forest ∧ IsPage forest ∧
      countAll "style" forest =
        2 + ((if occurs .mathExpr document.root.node then 1 else 0) +
          (if occurs .codeBlock document.root.node then 1 else 0)) ∧
      countAll "script" forest =
        (if occurs .mathExpr document.root.node then 1 else 0) +
          (if occurs .codeBlock document.root.node then 1 else 0) +
          (if occurs .diagram document.root.node then 2 else 0) := by
  obtain ⟨clear, -⟩ := text_of_page typed rendered
  obtain ⟨forest, read, isPage, tags⟩ := page_reads sound typed rendered
  -- Neither style sheets nor scripts come from the tree itself.
  have plain := arePlain_tree document.root.node typed.2.2.2 0
  have features := tree_features setting document.root.node clear
  refine ⟨forest, read, isPage, ?_, ?_⟩
  · rw [Markup.countAll_eq, tags, count_pageTags sound document _ plain (Or.inl rfl),
      (count_trailersTags _).1, features]
    rfl
  · rw [Markup.countAll_eq, tags, count_pageTags sound document _ plain (Or.inr rfl),
      (count_trailersTags _).2, features]
    exact Nat.zero_add _

def smallSetting : Setting :=
  ⟨.default, ⟨"/* n */", "/* s */", "/* k */", "katex = 1;", "/* p */", "a < b;", "mermaid();",
    "<svg/>", "<svg/>", [("python", "c = 2;")]⟩⟩

theorem smallSetting_sound : SoundAssets smallSetting.catalogue where
  icons := by
    have icon : IsIcon "<svg/>" :=
      ⟨[.element "svg" [("/", "")] []],
        Markup.readElements_alone (by decide +kernel) (by decide +kernel) (by decide),
        rfl, rfl⟩
    simpa [smallSetting] using icon
  sheets := by decide +kernel
  scripts := by decide +kernel

def smallDocument : Document where
  title := .str "</title><script>"
  authors := [.str "A", .str "<b>"]
  license := .str "&"
  root := ⟨[hostileTree, .leaf (.codeBlock (.str "python") (.str "</script>")) (.object []),
    .leaf (.diagram (.str "<!--")) (.object [])], .null, .object []⟩

theorem smallDocument_wellTyped : smallDocument.WellTyped := by
  simp [smallDocument, Document.WellTyped, Tree.Root.node, Node.WellTyped, Tree.AllWellTyped,
    Tree.Branch.WellTyped, Tree.Leaf.WellTyped, hostileTree_wellTyped, IsText]

theorem smallDocument_page :
    ∃ html, (page smallSetting (.document smallDocument)).result = .ok html :=
  ok_of_isSome (by decide +kernel)

theorem page_wellFormed_small :
    SoundAssets smallSetting.catalogue ∧ smallDocument.WellTyped ∧
      ∃ html, (page smallSetting (.document smallDocument)).result = .ok html ∧
        ∃ forest, readElements .page html = some forest ∧ IsPage forest ∧
          countAll "script" forest = 4 := by
  obtain ⟨html, rendered⟩ := smallDocument_page
  obtain ⟨forest, read, isPage, styles, scripts⟩ := page_wellFormed smallSetting smallSetting_sound
    smallDocument smallDocument_wellTyped html rendered
  exact ⟨smallSetting_sound, smallDocument_wellTyped, html, rendered, forest, read, isPage, scripts⟩

end Folio.Render
