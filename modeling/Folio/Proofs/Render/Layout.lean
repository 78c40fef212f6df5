import Folio.Proofs.Markup.Piece
import Folio.Proofs.Render.Assembly

/-! What a reader finds in the parts of a page. A part closes what it opens, so parts may stand in a
row and within one another, and the optional ones may be left out. Of each part it is said which tags
it has, in reading order; how many style sheets and scripts there are and which ids are taken can be
told from that. -/
namespace Folio.Render

open Assets (Catalogue)
open Markup (Element NoPair Piece Solid Tag Token countAll isWord piece_empty readElements
  standsAlone tagsAll)
open Text.Entity (encoded)
open Folio.Tree (Document)

/-- A text that a reader finds complete elements in, with these tags in this order. -/
def Shows (text : String) (tags : List Tag) : Prop :=
  ∃ forest, Piece text forest ∧ tagsAll forest = tags

theorem shows_empty : Shows "" [] := ⟨[], piece_empty, rfl⟩

theorem shows_encoded (content : String) : Shows (encoded content) [] :=
  ⟨[], Markup.piece_encoded content, rfl⟩

theorem Shows.append {left right : String} {tags others : List Tag} (one : Shows left tags)
    (two : Shows right others) : Shows (left ++ right) (tags ++ others) := by
  obtain ⟨forest, piece, rfl⟩ := one
  obtain ⟨more, pieceMore, rfl⟩ := two
  exact ⟨forest ++ more, piece.append pieceMore, Markup.tagsAll_append forest more⟩

theorem Shows.element {text : String} {tags : List Tag} (shows : Shows text tags) {name : String}
    {attrs : List (String × String)} (solid : Solid name attrs) :
    Shows (elementText name attrs text) ((name, attrs) :: tags) := by
  obtain ⟨forest, piece, rfl⟩ := shows
  exact ⟨_, piece.element solid, Markup.tagsAll_element name attrs forest⟩

theorem shows_alone {name : String} {attrs : List (String × String)} (named : isWord name = true)
    (keyed : ∀ attr ∈ attrs, isWord attr.1 = true)
    (ordinary : Markup.Dialect.page.verbatim.contains name = false)
    (alone : standsAlone name attrs = true) :
    Shows (Token.opening name attrs).written [(name, attrs)] :=
  ⟨_, Markup.piece_alone name attrs named keyed ordinary alone, Markup.tagsAll_element name attrs []⟩

theorem piece_style {css : String} (free : NoPair '<' '/' css.toList) :
    Piece (styleText css) [.element "style" [] [.verbatim css]] :=
  Markup.piece_verbatim "style" css (by decide) (by decide) (by decide) free

theorem shows_style {css : String} (free : NoPair '<' '/' css.toList) :
    Shows (styleText css) [("style", [])] :=
  ⟨_, piece_style free, rfl⟩

def IsTag (name : String) : Prop :=
  isWord name = true ∧ Markup.Dialect.page.verbatim.contains name = false ∧
    Markup.voidNames.contains name = false

instance (name : String) : Decidable (IsTag name) := inferInstanceAs (Decidable (_ ∧ _ ∧ _))

theorem IsTag.solid {name : String} (tag : IsTag name) {attrs : List (String × String)}
    (keyed : ∀ attr ∈ attrs, isWord attr.1 = true) : Solid name attrs := by
  obtain ⟨named, ordinary, holds⟩ := tag
  refine ⟨named, keyed, ordinary, ?_⟩
  rw [Markup.standsAlone_of_words name keyed, holds]

theorem IsTag.bare {name : String} (tag : IsTag name) : Solid name [] := tag.solid (by simp)

theorem shows_inline {name : String} {attrs : List (String × String)} (content : String)
    (solid : Solid name attrs) : Shows (elementText name attrs (encoded content)) [(name, attrs)] :=
  (shows_encoded content).element solid

theorem solid_div (name : String) : Solid "div" [("class", name)] :=
  IsTag.solid (by decide) (by simp; decide)

theorem Shows.div {text : String} {tags : List Tag} (shows : Shows text tags) (name : String) :
    Shows (divText name text) (("div", [("class", name)]) :: tags) :=
  shows.element (solid_div name)

def IsPlain (forest : List Element) : Prop :=
  countAll "style" forest = 0 ∧ countAll "script" forest = 0

def ArePlain (tags : List Tag) : Prop := ∀ tag ∈ tags, tag.1 ≠ "style" ∧ tag.1 ≠ "script"

theorem isPlain_iff (forest : List Element) : IsPlain forest ↔ ArePlain (tagsAll forest) := by
  simp only [IsPlain, ArePlain, Markup.countAll_eq, List.countP_eq_zero, beq_iff_eq]
  constructor
  · rintro ⟨noStyle, noScript⟩ tag member
    exact ⟨noStyle tag member, noScript tag member⟩
  · intro plain
    exact ⟨fun tag member => (plain tag member).1, fun tag member => (plain tag member).2⟩

/-- A script that cannot end its element, open a comment in it, or do either together with the
script after it. -/
structure IsScript (text : List Char) : Prop where
  unclosed : NoPair '<' '/' text
  uncommented : NoPair '<' '!' text
  apart : text.getLast? ≠ some '<'

theorem isScript_iff (text : List Char) :
    IsScript text ↔
      NoPair '<' '/' text ∧ NoPair '<' '!' text ∧ text.getLast? ≠ some '<' := by
  constructor
  · rintro ⟨unclosed, uncommented, apart⟩
    exact ⟨unclosed, uncommented, apart⟩
  · rintro ⟨unclosed, uncommented, apart⟩
    exact ⟨unclosed, uncommented, apart⟩

instance (text : List Char) : Decidable (IsScript text) :=
  decidable_of_iff _ (isScript_iff text).symm

theorem isScript_of_not_mem {text : List Char} (free : '<' ∉ text) : IsScript text where
  unclosed := Markup.noPair_of_not_mem free
  uncommented := Markup.noPair_of_not_mem free
  apart := fun last => free (List.mem_of_getLast? last)

theorem IsScript.append {left right : List Char} (one : IsScript left) (two : IsScript right) :
    IsScript (left ++ right) where
  unclosed := one.unclosed.append two.unclosed one.apart
  uncommented := one.uncommented.append two.uncommented one.apart
  apart := by
    cases right with
    | nil => simpa using one.apart
    | cons c rest =>
      have last := two.apart
      simpa [List.getLast?_append] using last

/-- Markup that is balanced by itself and brings no style sheet and no script. -/
def IsIcon (icon : String) : Prop :=
  ∃ forest, readElements .page icon = some forest ∧ IsPlain forest

/-- Assets that a page can hold verbatim: balanced icons, style sheets that cannot end their element
and scripts that cannot end theirs. -/
structure SoundAssets (catalogue : Assets.Catalogue) : Prop where
  icons : ∀ icon ∈ [catalogue.authorIcon, catalogue.licenseIcon], IsIcon icon
  sheets : ∀ css ∈ [catalogue.normalizeCss, catalogue.styleCss, catalogue.katexCss,
    catalogue.prismCss], NoPair '<' '/' css.toList
  scripts : ∀ script ∈ catalogue.katexJs :: catalogue.prismJs :: catalogue.mermaidJs ::
    catalogue.grammars.map Prod.snd, IsScript script.toList

def iconTags (icon : String) : List Tag := ((readElements .page icon).map tagsAll).getD []

theorem shows_icon {icon : String} (sound : IsIcon icon) : Shows icon (iconTags icon) := by
  obtain ⟨forest, read, -⟩ := sound
  exact ⟨forest, Markup.piece_of_read read, by simp [iconTags, read]⟩

theorem arePlain_icon {icon : String} (sound : IsIcon icon) : ArePlain (iconTags icon) := by
  obtain ⟨forest, read, plain⟩ := sound
  simpa [iconTags, read] using (isPlain_iff forest).mp plain

def headTags : List Tag := [
  ("meta", [("charset", "utf-8")]),
  ("meta", [("name", "viewport"), ("content", "width=device-width, initial-scale=1")]),
  ("title", []), ("style", []), ("style", [])]

theorem head_shows {catalogue : Catalogue} (sound : SoundAssets catalogue) (title : String) :
    ∃ children, Piece (headText catalogue title) [.element "head" [] children] ∧
      tagsAll children = headTags := by
  have charset : Shows _ [("meta", [("charset", "utf-8")])] :=
    shows_alone (by decide) (by decide) (by decide) (by decide)
  have viewport : Shows _ [("meta",
      [("name", "viewport"), ("content", "width=device-width, initial-scale=1")])] :=
    shows_alone (by decide) (by decide) (by decide) (by decide)
  have named : Shows _ [("title", [])] := shows_inline title (IsTag.bare (by decide))
  have styles := (shows_style (sound.sheets catalogue.normalizeCss (by simp))).append
    (shows_style (sound.sheets catalogue.styleCss (by simp)))
  obtain ⟨children, piece, tags⟩ := charset.append (viewport.append (named.append styles))
  exact ⟨children, piece.element (IsTag.bare (by decide)), tags⟩

def authorsTags (catalogue : Catalogue) : List Value → List Tag
  | [] => []
  | _ :: _ => ("div", [("class", "docinfo")]) :: iconTags catalogue.authorIcon

theorem authors_shows {catalogue : Catalogue} (sound : SoundAssets catalogue)
    (authors : List Value) :
    Shows (authorsText catalogue authors) (authorsTags catalogue authors) := by
  cases authors with
  | nil => exact shows_empty
  | cons first rest =>
    have icon := shows_icon (sound.icons catalogue.authorIcon (by simp))
    have both := icon.append
      (shows_encoded (", ".intercalate (first.display :: rest.map Value.display)))
    rw [List.append_nil] at both
    exact both.div "docinfo"

def headerTags (catalogue : Catalogue) (document : Document) : List Tag :=
  ("p", [("id", "doctitle")]) :: authorsTags catalogue document.authors

theorem header_shows {catalogue : Catalogue} (sound : SoundAssets catalogue)
    (document : Document) :
    ∃ children, Piece (headerText catalogue document) [.element "header" [] children] ∧
      tagsAll children = headerTags catalogue document := by
  have named : Shows _ [("p", [("id", "doctitle")])] :=
    shows_inline document.title.display (IsTag.solid (by decide) (by decide))
  obtain ⟨children, piece, tags⟩ := named.append (authors_shows sound document.authors)
  exact ⟨children, piece.element (IsTag.bare (by decide)), tags⟩

def licenseTags (catalogue : Catalogue) : Value → List Tag
  | .null => []
  | _ => ("div", [("class", "docinfo discreet"), ("id", "license")]) :: ("hr", []) ::
      iconTags catalogue.licenseIcon

theorem license_shows {catalogue : Catalogue} (sound : SoundAssets catalogue) (license : Value) :
    Shows (licenseText catalogue license) (licenseTags catalogue license) := by
  have rule : Shows _ [("hr", [])] :=
    shows_alone (by decide) (by simp) (by decide) (by decide)
  have icon := shows_icon (sound.icons catalogue.licenseIcon (by simp))
  have solid : Solid "div" [("class", "docinfo discreet"), ("id", "license")] :=
    IsTag.solid (by decide) (by decide)
  have laid : ∀ sentence, Shows (elementText "div" _ (_ ++ (catalogue.licenseIcon ++
      encoded sentence))) _ := fun sentence =>
    (rule.append (icon.append (shows_encoded sentence))).element solid
  simp only [List.append_nil] at laid
  cases license with
  | null => exact shows_empty
  | bool _ | int _ | float _ | str _ | list _ | object _ => exact laid _

def entryTag (entry : SummaryEntry) : Tag :=
  ("a", [("href", "#" ++ entry.anchor.display), ("class", "lvl" ++ entry.level.display)])

theorem entries_shows (entries : List SummaryEntry) :
    Shows (entriesText entries) (entries.map entryTag) := by
  induction entries with
  | nil => exact shows_empty
  | cons entry rest ih =>
    have link : Shows (entryText entry) [entryTag entry] :=
      shows_inline entry.name.display (IsTag.solid (by decide) (by simp; decide))
    exact link.append ih

def summaryTags (options : Options.Page) (summary : List SummaryEntry) : List Tag :=
  if options.summary.truthy && !summary.isEmpty then
    ("div", [("class", "summary-container")]) :: ("div", [("class", "summary")]) :: ("p", []) ::
      ("div", [("class", "summary-content")]) :: summary.map entryTag
  else []

theorem summary_shows (options : Options.Page) (summary : List SummaryEntry) :
    Shows (summaryText options summary) (summaryTags options summary) := by
  unfold summaryText summaryTags
  split
  · have heading : Shows _ [("p", [])] := shows_inline options.summaryTitle (IsTag.bare (by decide))
    exact ((heading.append ((entries_shows summary).div "summary-content")).div "summary").div
      "summary-container"
  · exact shows_empty

/-- The tags of the fragment, of the license and of the summary, within the container. -/
def contentTags (setting : Setting) (license : Value) (state : State) (shown : List Tag) :
    List Tag :=
  ("div", [("class", "main-content")]) :: ("div", [("class", sectionClass 1)]) :: shown ++
    licenseTags setting.catalogue license ++ summaryTags setting.options state.summary

theorem content_shows {setting : Setting} (sound : SoundAssets setting.catalogue)
    (license : Value) (state : State) {fragment : String} {shown : List Tag}
    (shows : Shows fragment shown) :
    ∃ children, Piece (contentText setting license state fragment)
        [.element "div" [("class", "flex-container")] children] ∧
      tagsAll children = contentTags setting license state shown := by
  have main := ((shows.div (sectionClass 1)).append (license_shows sound license)).div "main-content"
  obtain ⟨children, piece, tags⟩ := main.append (summary_shows setting.options state.summary)
  refine ⟨children, piece.element (solid_div "flex-container"), ?_⟩
  rw [tags, contentTags]
  simp

def treeTags (tree : Tree.Node) (count : Nat) : List Tag :=
  (tree.tokens count).filterMap Token.tag?

theorem fragment_shows (tree : Tree.Node) (typed : tree.WellTyped) (count : Nat) :
    Shows (Markup.writtenAll (tree.tokens count)) (treeTags tree count) := by
  obtain ⟨forest, makes⟩ := tree.makes count typed
  refine ⟨forest, Markup.piece_writtenAll ?_ makes, makes.tagsAll_eq⟩
  intro token member
  exact (tree.permitted count typed token member).writable .page
    (by simp [Tree.fragmentTags, Markup.Dialect.page])

theorem arePlain_append {left right : List Tag} (one : ArePlain left) (two : ArePlain right) :
    ArePlain (left ++ right) := by
  intro tag member
  rcases List.mem_append.mp member with first | second
  · exact one tag first
  · exact two tag second

theorem arePlain_cons {tag : Tag} {rest : List Tag} (apart : tag.1 ≠ "style" ∧ tag.1 ≠ "script")
    (plain : ArePlain rest) : ArePlain (tag :: rest) :=
  List.forall_mem_cons.mpr ⟨apart, plain⟩

theorem ArePlain.countP_eq_zero {tags : List Tag} (plain : ArePlain tags) {name : String}
    (special : name = "style" ∨ name = "script") : tags.countP (fun tag => tag.1 == name) = 0 := by
  rw [List.countP_eq_zero]
  intro tag member
  rcases special with rfl | rfl
  · simp [(plain tag member).1]
  · simp [(plain tag member).2]

theorem arePlain_tree (tree : Tree.Node) (typed : tree.WellTyped) (count : Nat) :
    ArePlain (treeTags tree count) := by
  have ordinary : ∀ name ∈ Tree.fragmentTags, name ≠ "style" ∧ name ≠ "script" := by
    simp [Tree.fragmentTags]
  intro tag member
  obtain ⟨token, inside, same⟩ := List.mem_filterMap.mp member
  have permitted := tree.permitted count typed token inside
  cases token with
  | opening name attrs =>
    obtain rfl := Option.some.inj same
    exact ordinary name permitted.1
  | closing _ | text _ | verbatim _ | comment => exact absurd same (by simp [Token.tag?])

theorem arePlain_header {catalogue : Catalogue} (sound : SoundAssets catalogue)
    (document : Document) : ArePlain (headerTags catalogue document) := by
  refine arePlain_cons (by decide) ?_
  cases document.authors with
  | nil => simp [authorsTags, ArePlain]
  | cons first rest =>
    exact arePlain_cons (by decide) (arePlain_icon (sound.icons catalogue.authorIcon (by simp)))

theorem arePlain_license {catalogue : Catalogue} (sound : SoundAssets catalogue) (license : Value) :
    ArePlain (licenseTags catalogue license) := by
  have icon := arePlain_icon (sound.icons catalogue.licenseIcon (by simp))
  have held : ArePlain (("div", [("class", "docinfo discreet"), ("id", "license")]) :: ("hr", []) ::
      iconTags catalogue.licenseIcon) := arePlain_cons (by simp) (arePlain_cons (by simp) icon)
  cases license with
  | null => simp [licenseTags, ArePlain]
  | bool _ | int _ | float _ | str _ | list _ | object _ => exact held

theorem arePlain_summary (options : Options.Page) (summary : List SummaryEntry) :
    ArePlain (summaryTags options summary) := by
  unfold summaryTags
  split
  · simp [ArePlain, entryTag]
  · simp [ArePlain]

theorem arePlain_content {setting : Setting} (sound : SoundAssets setting.catalogue)
    (license : Value) (state : State) {shown : List Tag} (plain : ArePlain shown) :
    ArePlain (contentTags setting license state shown) :=
  arePlain_append (arePlain_append
    (arePlain_cons (by simp) (arePlain_cons (by simp) plain)) (arePlain_license sound license))
    (arePlain_summary setting.options state.summary)

end Folio.Render
