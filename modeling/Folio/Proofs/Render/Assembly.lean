import Folio.Proofs.Render.Gathered
import Folio.Render.Page

/-! The text of a page, part by part. Each part of the assembly writes its text and leaves the open
tags as they were, whatever the assets are. Only one thing can go wrong on the way: the summary stops
at a heading whose level has too many digits. So a rendering of a page comes to one of three ends,
and which one can be told from the document. -/
namespace Folio.Render

open Assets (Catalogue)
open Markup (Token Writer Writes Writing closingTag valued)
open Stateful (run run_bind_ok run_bind_error)
open Text.Entity (encoded)
open Folio.Tree (Document IsText)

def elementText (name : String) (attrs : List (String × String)) (inner : String) : String :=
  (Token.opening name attrs).written ++ (inner ++ closingTag name)

def divText (className inner : String) : String := elementText "div" [("class", className)] inner

def styleText (css : String) : String := elementText "style" [] css

def headText (catalogue : Catalogue) (title : String) : String :=
  elementText "head" []
    ((Token.opening "meta" [("charset", "utf-8")]).written ++
      ((Token.opening "meta" [("name", "viewport"),
          ("content", "width=device-width, initial-scale=1")]).written ++
        (elementText "title" [] (encoded title) ++
          (styleText catalogue.normalizeCss ++ styleText catalogue.styleCss))))

def authorsText (catalogue : Catalogue) : List Value → String
  | [] => ""
  | first :: rest =>
    divText "docinfo" (catalogue.authorIcon ++
      encoded (", ".intercalate (first.display :: rest.map Value.display)))

def headerText (catalogue : Catalogue) (document : Document) : String :=
  elementText "header" []
    (elementText "p" [("id", "doctitle")] (encoded document.title.display) ++
      authorsText catalogue document.authors)

def licenseText (catalogue : Catalogue) : Value → String
  | .null => ""
  | license =>
    elementText "div" [("class", "docinfo discreet"), ("id", "license")]
      ((Token.opening "hr" []).written ++
        (catalogue.licenseIcon ++ encoded (licenseSentence license.display)))

def mainText (catalogue : Catalogue) (license : Value) (fragment : String) : String :=
  divText "main-content"
    (divText (sectionClass 1) fragment ++ licenseText catalogue license)

def entryText (entry : SummaryEntry) : String :=
  elementText "a"
    [("href", "#" ++ entry.anchor.display), ("class", "lvl" ++ entry.level.display)]
    (encoded entry.name.display)

def entriesText : List SummaryEntry → String
  | [] => ""
  | entry :: rest => entryText entry ++ entriesText rest

def summaryText (options : Options.Page) (summary : List SummaryEntry) : String :=
  if options.summary.truthy && !summary.isEmpty then
    divText "summary-container"
      (divText "summary"
        (elementText "p" [] (encoded options.summaryTitle) ++
          divText "summary-content" (entriesText summary)))
  else ""

def contentText (setting : Setting) (license : Value) (state : State) (fragment : String) : String :=
  divText "flex-container"
    (mainText setting.catalogue license fragment ++ summaryText setting.options state.summary)

def katexText (catalogue : Catalogue) (state : State) : String :=
  styleText catalogue.katexCss ++ elementText "script" [] (catalogue.katexJs ++ state.katexContent)

def grammarsText (catalogue : Catalogue) : List Value → String
  | [] => ""
  | .str language :: rest =>
    (catalogue.grammar? language).getD "" ++ grammarsText catalogue rest
  | _ :: rest => grammarsText catalogue rest

def prismText (catalogue : Catalogue) (state : State) : String :=
  styleText catalogue.prismCss ++
    elementText "script" [] (catalogue.prismJs ++ grammarsText catalogue state.languages)

def mermaidText (setting : Setting) : String :=
  elementText "script" [] setting.catalogue.mermaidJs ++
    elementText "script" [] (mermaidStatement setting.options)

def trailersText (setting : Setting) (state : State) : String :=
  (if state.features.katex then katexText setting.catalogue state else "") ++
    ((if state.features.prism then prismText setting.catalogue state else "") ++
      (if state.features.mermaid then mermaidText setting else ""))

def pageText (setting : Setting) (document : Document) (state : State) (fragment : String) : String :=
  (Token.opening "!DOCTYPE html" []).written ++
    elementText "html" []
      (headText setting.catalogue document.title.display ++
        elementText "body" []
          (headerText setting.catalogue document ++
            (contentText setting document.license state fragment ++ trailersText setting state)))

/-- A page up to the container of its visible content. -/
def frontText (catalogue : Catalogue) (document : Document) : String :=
  (Token.opening "!DOCTYPE html" []).written ++ ((Token.opening "html" []).written ++
    (headText catalogue document.title.display ++ ((Token.opening "body" []).written ++
      headerText catalogue document)))

theorem pageText_parts (setting : Setting) (document : Document) (state : State) (fragment : String) :
    pageText setting document state fragment = frontText setting.catalogue document ++
      (contentText setting document.license state fragment ++
        (trailersText setting state ++ (closingTag "body" ++ closingTag "html"))) := by
  simp [pageText, frontText, elementText, String.append_assoc]

/-- A step that writes a text and leaves the open tags as they were. -/
def Adds (step : Writing Unit) (text : String) : Prop := ∀ stack, Writes step stack stack text

theorem adds_pure : Adds (pure ()) "" := Markup.writes_pure

theorem adds_text (text : String) : Adds (writeText text) text := Markup.writes_raw text

theorem adds_content (content : String) :
    Adds (Writer.writeContent (.str content)) (encoded content) :=
  Markup.writes_content content

theorem adds_alone (name : String) (attrs : List (String × String)) :
    Adds (Writer.orphanTag name (valued attrs)) (Token.opening name attrs).written :=
  Markup.writes_orphanTag name attrs

theorem adds_inline (name : String) (attrs : List (String × String)) (content : String) :
    Adds (Writer.inlineTag name (valued attrs) (.str content))
      (elementText name attrs (encoded content)) := by
  intro stack
  rw [elementText, ← Markup.writtenAll_inlineTokens]
  exact Markup.writes_inlineTag name attrs content stack

theorem Adds.seq {first second : Writing Unit} {left right : String} (one : Adds first left)
    (two : Adds second right) : Adds (do first; second) (left ++ right) :=
  fun stack => (one stack).seq (two stack)

theorem Adds.element {body : Writing Unit} {text : String} (adds : Adds body text) (name : String)
    (attrs : List (String × String)) :
    Adds (element name (valued attrs) body) (elementText name attrs text) := by
  intro stack
  exact (Markup.writes_startTag name attrs stack).seq
    ((adds (stack ++ [name])).seq (Markup.writes_endTag name stack))

theorem Adds.div {body : Writing Unit} {text : String} (adds : Adds body text) (name : String) :
    Adds (Render.element "div" (ofClass name) body) (divText name text) :=
  adds.element "div" [("class", name)]

theorem adds_style (css : String) : Adds (writeStyle css) (styleText css) :=
  (adds_text css).element "style" []

def Breaks (step : Writing Unit) (fault : Fault) : Prop :=
  ∀ stack writer text, writer.Holds stack text → ∃ next, step.run writer = (.error fault, next)

theorem Breaks.first {first : Writing Unit} {fault : Fault} (breaks : Breaks first fault)
    (second : Writing Unit) : Breaks (do first; second) fault := by
  intro stack writer text holds
  obtain ⟨next, ran⟩ := breaks stack writer text holds
  exact ⟨next, run_bind_error _ ran⟩

theorem Breaks.after {second : Writing Unit} {fault : Fault} (breaks : Breaks second fault)
    {first : Writing Unit} (goes : ∀ stack, ∃ after added, Writes first stack after added) :
    Breaks (do first; second) fault := by
  intro stack writer text holds
  obtain ⟨after, added, writes⟩ := goes stack
  obtain ⟨middle, ran, held⟩ := writes writer text holds
  obtain ⟨next, stopped⟩ := breaks after middle (text ++ added) held
  exact ⟨next, (run_bind_ok _ ran).trans stopped⟩

theorem Breaks.second {second : Writing Unit} {fault : Fault} (breaks : Breaks second fault)
    {first : Writing Unit} {left : String} (adds : Adds first left) :
    Breaks (do first; second) fault :=
  breaks.after fun stack => ⟨stack, left, adds stack⟩

theorem Breaks.opened {body : Writing Unit} {fault : Fault} (breaks : Breaks body fault)
    (name : String) (attrs : List (String × String)) :
    Breaks (do Writer.startTag name (valued attrs); body) fault :=
  breaks.after fun stack => ⟨_, _, Markup.writes_startTag name attrs stack⟩

theorem Breaks.element {body : Writing Unit} {fault : Fault} (breaks : Breaks body fault)
    (name : String) (attrs : List (String × String)) :
    Breaks (Render.element name (valued attrs) body) fault :=
  (breaks.first Writer.endTag).opened name attrs

theorem Breaks.div {body : Writing Unit} {fault : Fault} (breaks : Breaks body fault)
    (name : String) : Breaks (Render.element "div" (ofClass name) body) fault :=
  breaks.element "div" [("class", name)]

theorem adds_head (catalogue : Catalogue) (title : String) :
    Adds (writeHead catalogue (.str title)) (headText catalogue title) := by
  have charset := adds_alone "meta" [("charset", "utf-8")]
  have viewport := adds_alone "meta"
    [("name", "viewport"), ("content", "width=device-width, initial-scale=1")]
  have named := adds_inline "title" [] title
  have styles := (adds_style catalogue.normalizeCss).seq (adds_style catalogue.styleCss)
  exact (charset.seq (viewport.seq (named.seq styles))).element "head" []

theorem joinNames_texts (first : String) (rest : List Value)
    (texts : ∀ author ∈ rest, IsText author) :
    joinNames (.str first) rest =
      .ok (.str (", ".intercalate (first :: rest.map Value.display))) := by
  induction rest generalizing first with
  | nil => rfl
  | cons author rest ih =>
    obtain ⟨name, rfl⟩ := (texts author List.mem_cons_self).exists
    exact ih (first ++ ", " ++ name) fun other member =>
      texts other (List.mem_cons_of_mem _ member)

theorem adds_authors (catalogue : Catalogue) (authors : List Value)
    (texts : ∀ author ∈ authors, IsText author) :
    Adds (writeAuthors catalogue authors) (authorsText catalogue authors) := by
  cases authors with
  | nil => exact adds_pure
  | cons first rest =>
    obtain ⟨name, rfl⟩ := (texts first List.mem_cons_self).exists
    have joined := joinNames_texts name rest fun author member =>
      texts author (List.mem_cons_of_mem _ member)
    rw [writeAuthors, authorsText, joined]
    exact ((adds_text catalogue.authorIcon).seq (adds_content _)).div "docinfo"

theorem adds_header (catalogue : Catalogue) (document : Document) (typed : document.WellTyped) :
    Adds (writeHeader catalogue document) (headerText catalogue document) := by
  obtain ⟨title, titled⟩ := typed.1.exists
  have named := adds_inline "p" [("id", "doctitle")] title
  rw [writeHeader, headerText, titled]
  exact (named.seq (adds_authors catalogue document.authors typed.2.1)).element "header" []

theorem adds_license (catalogue : Catalogue) {license : Value}
    (typed : IsText license ∨ license = .null) :
    Adds (writeLicense catalogue license) (licenseText catalogue license) := by
  rcases typed with text | rfl
  · obtain ⟨name, rfl⟩ := text.exists
    exact ((adds_alone "hr" []).seq ((adds_text catalogue.licenseIcon).seq
      (adds_content (licenseSentence name)))).element "div"
        [("class", "docinfo discreet"), ("id", "license")]
  · exact adds_pure

theorem adds_main (catalogue : Catalogue) {license : Value}
    (typed : IsText license ∨ license = .null) (fragment : String) :
    Adds (writeMain catalogue license fragment) (mainText catalogue license fragment) :=
  (((adds_text fragment).div _).seq (adds_license catalogue typed)).div "main-content"

def SummaryEntry.fits (entry : SummaryEntry) : Bool := entry.level.isWritable

theorem adds_entry {entry : SummaryEntry} (fits : entry.fits = true) (texts : entry.HasTexts) :
    Adds (writeEntry entry) (entryText entry) := by
  obtain ⟨anchor, anchored⟩ := texts.1.exists
  obtain ⟨name, named⟩ := texts.2.exists
  have written : entry.level.shown = .ok entry.level.display := if_pos fits
  rw [writeEntry, entryText, anchored, named, written]
  exact adds_inline "a" [("href", "#" ++ anchor), ("class", "lvl" ++ entry.level.display)] name

theorem breaks_entry {entry : SummaryEntry} (unfit : entry.fits = false) (texts : entry.HasTexts) :
    Breaks (writeEntry entry) (.tooManyDigits none) := by
  obtain ⟨anchor, anchored⟩ := texts.1.exists
  have refused : entry.level.shown = .error (.tooManyDigits none) :=
    if_neg (by simpa [SummaryEntry.fits] using unfit)
  intro stack writer text holds
  refine ⟨writer, ?_⟩
  rw [writeEntry, anchored, refused]
  rfl

theorem adds_entries {entries : List SummaryEntry} (fit : entries.all SummaryEntry.fits = true)
    (texts : ∀ entry ∈ entries, entry.HasTexts) :
    Adds (writeEntries entries) (entriesText entries) := by
  induction entries with
  | nil => exact adds_pure
  | cons entry rest ih =>
    simp only [List.all_cons, Bool.and_eq_true] at fit
    exact (adds_entry fit.1 (texts entry List.mem_cons_self)).seq
      (ih fit.2 fun other member => texts other (List.mem_cons_of_mem entry member))

theorem breaks_entries {entries : List SummaryEntry} (unfit : entries.all SummaryEntry.fits = false)
    (texts : ∀ entry ∈ entries, entry.HasTexts) :
    Breaks (writeEntries entries) (.tooManyDigits none) := by
  induction entries with
  | nil => exact absurd unfit (by simp)
  | cons entry rest ih =>
    cases fits : entry.fits with
    | false => exact (breaks_entry fits (texts entry List.mem_cons_self)).first _
    | true =>
      have later := ih (by simpa [fits] using unfit)
        fun other member => texts other (List.mem_cons_of_mem entry member)
      exact later.second (adds_entry fits (texts entry List.mem_cons_self))

def canList (options : Options.Page) (summary : List SummaryEntry) : Bool :=
  !options.summary.truthy || summary.all SummaryEntry.fits

theorem adds_summary {options : Options.Page} {summary : List SummaryEntry}
    (lists : canList options summary = true) (texts : ∀ entry ∈ summary, entry.HasTexts) :
    Adds (writeSummary options summary) (summaryText options summary) := by
  unfold writeSummary summaryText
  split
  · next shown =>
    simp only [Bool.and_eq_true] at shown
    have fit : summary.all SummaryEntry.fits = true := by simpa [canList, shown.1] using lists
    have heading := adds_inline "p" [] options.summaryTitle
    exact ((heading.seq ((adds_entries fit texts).div "summary-content")).div "summary").div
      "summary-container"
  · exact adds_pure

theorem breaks_summary {options : Options.Page} {summary : List SummaryEntry}
    (stuck : canList options summary = false) (texts : ∀ entry ∈ summary, entry.HasTexts) :
    Breaks (writeSummary options summary) (.tooManyDigits none) := by
  simp only [canList, Bool.or_eq_false_iff, Bool.not_eq_false'] at stuck
  obtain ⟨wanted, unfit⟩ := stuck
  have some : summary.isEmpty = false := by
    cases summary with
    | nil => simp at unfit
    | cons entry rest => rfl
  have heading := adds_inline "p" [] options.summaryTitle
  have entries := ((breaks_entries unfit texts).div "summary-content").second heading
  simp only [writeSummary, wanted, some, Bool.not_false, Bool.and_self, ↓reduceIte]
  exact (entries.div "summary").div "summary-container"

theorem adds_katex (catalogue : Catalogue) (state : State) :
    Adds (writeKatex catalogue state) (katexText catalogue state) :=
  (adds_style catalogue.katexCss).seq
    (((adds_text catalogue.katexJs).seq (adds_text state.katexContent)).element "script" [])

theorem adds_grammars (catalogue : Catalogue) (languages : List Value) :
    Adds (writeGrammars catalogue languages) (grammarsText catalogue languages) := by
  induction languages with
  | nil => exact adds_pure
  | cons language rest ih =>
    cases language with
    | str name =>
      rw [writeGrammars, grammarsText]
      cases found : catalogue.grammar? name with
      | none => simpa using ih
      | some grammar => exact (adds_text grammar).seq ih
    | null | bool _ | int _ | float _ | list _ | object _ => exact ih

theorem adds_prism (catalogue : Catalogue) (state : State) :
    Adds (writePrism catalogue state) (prismText catalogue state) :=
  (adds_style catalogue.prismCss).seq
    (((adds_text catalogue.prismJs).seq (adds_grammars catalogue state.languages)).element
      "script" [])

theorem adds_mermaid (setting : Setting) : Adds (writeMermaid setting) (mermaidText setting) :=
  ((adds_text setting.catalogue.mermaidJs).element "script" []).seq
    ((adds_text (mermaidStatement setting.options)).element "script" [])

def upperText (setting : Setting) (document : Document) (state : State) (fragment : String) : String :=
  (Token.opening "!DOCTYPE html" []).written ++ ((Token.opening "html" []).written ++
    (headText setting.catalogue document.title.display ++ ((Token.opening "body" []).written ++
      (headerText setting.catalogue document ++
        contentText setting document.license state fragment))))

theorem writes_upper {setting : Setting} {document : Document} (typed : document.WellTyped)
    {state : State} (lists : canList setting.options state.summary = true)
    (texts : ∀ entry ∈ state.summary, entry.HasTexts) (fragment : String) :
    Writes (writeUpper setting document state fragment) [] ["html", "body"]
      (upperText setting document state fragment) := by
  obtain ⟨title, titled⟩ := typed.1.exists
  have head := adds_head setting.catalogue title
  have header := adds_header setting.catalogue document typed
  have content := ((adds_main setting.catalogue typed.2.2.1 fragment).seq
    (adds_summary lists texts)).div "flex-container"
  rw [writeUpper, upperText, titled]
  exact (Markup.writes_orphanTag "!DOCTYPE html" [] []).seq
    ((Markup.writes_startTag "html" [] []).seq ((head ["html"]).seq
      ((Markup.writes_startTag "body" [] ["html"]).seq
        ((header ["html", "body"]).seq (content ["html", "body"])))))

theorem breaks_upper {setting : Setting} {document : Document} (typed : document.WellTyped)
    {state : State} (stuck : canList setting.options state.summary = false)
    (texts : ∀ entry ∈ state.summary, entry.HasTexts) (fragment : String) :
    Breaks (writeUpper setting document state fragment) (.tooManyDigits none) := by
  obtain ⟨title, titled⟩ := typed.1.exists
  have summary := (breaks_summary stuck texts).second
    (adds_main setting.catalogue typed.2.2.1 fragment)
  have body := (summary.div "flex-container").second
    (adds_header setting.catalogue document typed)
  have html := (body.opened "body" []).second (adds_head setting.catalogue title)
  rw [writeUpper, titled]
  exact (html.opened "html" []).second (adds_alone "!DOCTYPE html" [])

/-- A rendering that goes through: it writes, it may give notice as well, and it gathers nothing. -/
def Settles (work : Rendering Unit) (before after : List String) (added : String)
    (notices : List Notice) : Prop :=
  ∀ session text, session.writer.Holds before text →
    Passes work session session.state notices after (text ++ added)

theorem Renders.settles {work : Rendering Unit} {before after : List String} {added : String}
    (renders : Renders work before after added) : Settles work before after added [] := by
  intro session text holds
  exact renders.passes holds

theorem settles_write {writing : Writing Unit} {before after : List String} {added : String}
    (writes : Writes writing before after added) :
    Settles (Rendering.write writing) before after added [] :=
  (renders_write writes).settles

theorem Settles.before {work : Rendering Unit} {before after : List String} {added : String}
    {notices : List Notice} (settles : Settles work before after added notices) {α : Type}
    (next : Rendering α) (session : Session) (text : String)
    (holds : session.writer.Holds before text) :
    ∃ writer, run (do work; next) session =
        run next ⟨writer, session.state, session.notices ++ notices⟩ ∧
      writer.Holds after (text ++ added) := by
  obtain ⟨writer, ran, held⟩ := settles session text holds
  exact ⟨writer, run_bind_ok _ ran, held⟩

theorem Settles.seq {first second : Rendering Unit} {before middle after : List String}
    {left right : String} {notices more : List Notice}
    (one : Settles first before middle left notices)
    (two : Settles second middle after right more) :
    Settles (do first; second) before after (left ++ right) (notices ++ more) := by
  intro session text holds
  obtain ⟨writer, ran, held⟩ := one.before second session text holds
  obtain ⟨last, finished, shown⟩ :=
    two ⟨writer, session.state, session.notices ++ notices⟩ (text ++ left) held
  refine ⟨last, ?_, ?_⟩
  · rw [ran, finished, List.append_assoc]
  · rw [← String.append_assoc]
    exact shown

theorem settles_note (notice : Notice) (stack : List String) :
    Settles (Rendering.note notice) stack stack "" [notice] := by
  intro session text holds
  exact ⟨session.writer, rfl, by simpa using holds⟩

/-- The notices for those of some libraries that are only placeholders. -/
def placeholderNotices (catalogue : Catalogue) (runtimes : List Assets.Runtime) : List Notice :=
  (runtimes.filter catalogue.isMissing).map fun runtime =>
    ⟨.warning, .pages, "Asset " ++ runtime.name ++
      " is a placeholder; the page will load without that library"⟩

theorem settles_warn (catalogue : Assets.Catalogue) (runtimes : List Assets.Runtime)
    (stack : List String) :
    Settles (warnOfPlaceholders catalogue runtimes) stack stack ""
      (placeholderNotices catalogue runtimes) := by
  induction runtimes with
  | nil => exact (renders_pure stack).settles
  | cons runtime rest ih =>
    rw [warnOfPlaceholders]
    by_cases missing : catalogue.isMissing runtime = true
    · have both := (settles_note (placeholderNotice runtime) stack).seq ih
      simpa [placeholderNotices, placeholderNotice, missing] using both
    · simpa [placeholderNotices, missing] using ih

theorem settles_trailer (catalogue : Catalogue) (needed : Bool) (runtimes : List Assets.Runtime)
    {written : Writing Unit} {text : String} (adds : Adds written text) (stack : List String) :
    Settles (trailer catalogue needed runtimes written) stack stack (if needed then text else "")
      (placeholderNotices catalogue (if needed then runtimes else [])) := by
  cases needed with
  | false => exact (renders_pure stack).settles
  | true =>
    have both := (settles_warn catalogue runtimes stack).seq (settles_write (adds stack))
    simpa [trailer] using both

/-- The libraries that the trailers for some features load. -/
def neededRuntimes (features : Features) : List Assets.Runtime :=
  (if features.katex then [.katexCss, .katexJs] else []) ++
    ((if features.prism then [.prismJs] else []) ++ (if features.mermaid then [.mermaidJs] else []))

theorem settles_trailers (setting : Setting) (state : State) (stack : List String) :
    Settles (writeTrailers setting state) stack stack (trailersText setting state)
      (placeholderNotices setting.catalogue (neededRuntimes state.features)) := by
  have katex := settles_trailer setting.catalogue state.features.katex [.katexCss, .katexJs]
    (adds_katex setting.catalogue state) stack
  have prism := settles_trailer setting.catalogue state.features.prism [.prismJs]
    (adds_prism setting.catalogue state) stack
  have mermaid := settles_trailer setting.catalogue state.features.mermaid [.mermaidJs]
    (adds_mermaid setting) stack
  have all := katex.seq (prism.seq mermaid)
  simp only [placeholderNotices, ← List.map_append, ← List.filter_append] at all
  exact all

theorem outcome_of_run {rendering : Rendering String} {state : State} {result : Except Fault String}
    {session : Session} (ran : run rendering ⟨.empty, state, []⟩ = (result, session)) :
    rendering.outcome state = ⟨result, session.state, session.notices⟩ := by
  change (match run rendering ⟨.empty, state, []⟩ with
    | (result, session) => (⟨result, session.state, session.notices⟩ : Outcome)) = _
  rw [ran]

section Ends
variable {setting : Setting} {document : Document}

theorem outcome_stopped (typed : document.WellTyped) {fault : Fault}
    (stopped : (course setting .fresh document.root.node.events).fault? = some fault) :
    page setting (.document document) =
      ⟨.error fault, (course setting .fresh document.root.node.events).state,
        (course setting .fresh document.root.node.events).said⟩ := by
  obtain ⟨writer, ran⟩ :=
    run_renderFragment setting document.root.node typed.2.2.2 ⟨.empty, .fresh, []⟩ rfl
  simp only [Course.ending, stopped] at ran
  have failed : run (renderPage setting document) ⟨.empty, .fresh, []⟩ = _ :=
    run_bind_error _ ran
  exact outcome_of_run failed

theorem run_renderPage (typed : document.WellTyped)
    (clear : (course setting .fresh document.root.node.events).fault? = none) :
    run (renderPage setting document) ⟨.empty, .fresh, []⟩ =
      run (do
        Rendering.write (writeUpper setting document
          (course setting .fresh document.root.node.events).state
          (Markup.writtenAll (document.root.node.tokens 0)))
        writeTrailers setting (course setting .fresh document.root.node.events).state
        Rendering.write Writer.endTag
        Rendering.write Writer.endTag
        Rendering.note (pageNotice document.title
          (course setting .fresh document.root.node.events).state)
        Rendering.write Writer.finish)
      ⟨.empty, (course setting .fresh document.root.node.events).state,
        (course setting .fresh document.root.node.events).said⟩ := by
  obtain ⟨writer, ran⟩ :=
    run_renderFragment setting document.root.node typed.2.2.2 ⟨.empty, .fresh, []⟩ rfl
  simp only [Course.ending, clear] at ran
  rw [renderPage, run_bind_ok _ ran, run_bind_ok _ (Stateful.run_modify _ _),
    run_bind_ok _ (Stateful.run_get _)]
  rfl

theorem outcome_unlisted (typed : document.WellTyped)
    (clear : (course setting .fresh document.root.node.events).fault? = none)
    (stuck : canList setting.options
      (course setting .fresh document.root.node.events).state.summary = false) :
    page setting (.document document) =
      ⟨.error (.tooManyDigits none), (course setting .fresh document.root.node.events).state,
        (course setting .fresh document.root.node.events).said⟩ := by
  have texts := course_summary_texts setting document.root.node.events
    (document.root.node.events_wellTyped typed.2.2.2) .fresh (by simp [State.fresh])
  have ran := run_renderPage typed clear
  generalize (course setting .fresh document.root.node.events).said = said at *
  generalize (course setting .fresh document.root.node.events).state = state at *
  obtain ⟨writer, stopped⟩ := breaks_upper typed stuck texts
    (Markup.writtenAll (document.root.node.tokens 0)) [] .empty "" Writer.holds_empty
  have written := run_write (writeUpper setting document state
    (Markup.writtenAll (document.root.node.tokens 0))) ⟨.empty, state, said⟩
  rw [stopped] at written
  exact outcome_of_run (ran.trans (run_bind_error _ written))

theorem outcome_written (typed : document.WellTyped)
    (clear : (course setting .fresh document.root.node.events).fault? = none)
    (lists : canList setting.options
      (course setting .fresh document.root.node.events).state.summary = true) :
    let course := course setting .fresh document.root.node.events
    page setting (.document document) =
      ⟨.ok (pageText setting document course.state
          (Markup.writtenAll (document.root.node.tokens 0))), course.state,
        course.said ++ (placeholderNotices setting.catalogue (neededRuntimes course.state.features) ++
          [pageNotice document.title course.state])⟩ := by
  have texts := course_summary_texts setting document.root.node.events
    (document.root.node.events_wellTyped typed.2.2.2) .fresh (by simp [State.fresh])
  have whole := run_renderPage typed clear
  intro course
  -- From here on only what was gathered and said matters, not how.
  generalize course.said = said at *
  generalize course.state = state at *
  have upper := settles_write (writes_upper typed lists texts
    (Markup.writtenAll (document.root.node.tokens 0)))
  have bodyClosed := settles_write (Markup.writes_endTag "body" ["html"])
  have htmlClosed := settles_write (Markup.writes_endTag "html" [])
  have all : Settles _ [] [] _ (placeholderNotices setting.catalogue (neededRuntimes state.features) ++
      [pageNotice document.title state]) :=
    upper.seq ((settles_trailers setting state ["html", "body"]).seq (bodyClosed.seq
      (htmlClosed.seq (settles_note (pageNotice document.title state) []))))
  obtain ⟨writer, ran, held⟩ :=
    all.before (Rendering.write Writer.finish) ⟨.empty, state, said⟩ "" Writer.holds_empty
  simp only [bind_assoc, run_write, Markup.run_finish held] at ran
  refine (outcome_of_run (whole.trans ran)).trans ?_
  rw [pageText, upperText]
  simp [elementText, String.append_assoc]

theorem page_stopped (typed : document.WellTyped) {fault : Fault}
    (stopped : (course setting .fresh document.root.node.events).fault? = some fault) :
    (page setting (.document document)).result = .error fault := by
  rw [outcome_stopped typed stopped]

theorem page_unlisted (typed : document.WellTyped)
    (clear : (course setting .fresh document.root.node.events).fault? = none)
    (stuck : canList setting.options
      (course setting .fresh document.root.node.events).state.summary = false) :
    (page setting (.document document)).result = .error (.tooManyDigits none) := by
  rw [outcome_unlisted typed clear stuck]

theorem page_written (typed : document.WellTyped)
    (clear : (course setting .fresh document.root.node.events).fault? = none)
    (lists : canList setting.options
      (course setting .fresh document.root.node.events).state.summary = true) :
    (page setting (.document document)).result =
      .ok (pageText setting document (course setting .fresh document.root.node.events).state
        (Markup.writtenAll (document.root.node.tokens 0))) := by
  rw [outcome_written typed clear lists]

theorem clear_of_page (typed : document.WellTyped) {html : String}
    (rendered : (page setting (.document document)).result = .ok html) :
    (course setting .fresh document.root.node.events).fault? = none ∧
      canList setting.options (course setting .fresh document.root.node.events).state.summary = true := by
  cases clear : (course setting .fresh document.root.node.events).fault? with
  | some fault => exact absurd (rendered.symm.trans (page_stopped typed clear)) (by simp)
  | none =>
    cases lists : canList setting.options
        (course setting .fresh document.root.node.events).state.summary with
    | false => exact absurd (rendered.symm.trans (page_unlisted typed clear lists)) (by simp)
    | true => exact ⟨rfl, rfl⟩

theorem text_of_page (typed : document.WellTyped) {html : String}
    (rendered : (page setting (.document document)).result = .ok html) :
    (course setting .fresh document.root.node.events).fault? = none ∧
      html = pageText setting document (course setting .fresh document.root.node.events).state
        (Markup.writtenAll (document.root.node.tokens 0)) := by
  obtain ⟨clear, lists⟩ := clear_of_page typed rendered
  exact ⟨clear, Except.ok.inj (rendered.symm.trans (page_written typed clear lists))⟩

end Ends

end Folio.Render
