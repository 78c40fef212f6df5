import Folio.Proofs.Render.State
import Folio.Proofs.Render.Trailers

/-! Where the language of code counts. The visit of the code looks for its grammar and says when there
is none, the state keeps the language unless it has it, and the page looks once more for the grammars of
the languages kept. All of them go by the one spelling, so that they never disagree about a language,
however it is written. -/
namespace Folio.Render

open Assets (Catalogue aliases canonical)
open Stateful (run)
open Folio.Tree (Document Node occurs)

theorem isRecorded_iff (recorded : List Value) (language : String) :
    isRecorded recorded language = true ↔ .str language ∈ recorded := by
  rw [isRecorded, List.any_eq_true]
  constructor
  · rintro ⟨seen, known, same⟩
    cases seen with
    | str other =>
      obtain rfl : other = language := by simpa using same
      exact known
    | null | bool _ | int _ | float _ | list _ | object _ => exact absurd same (by simp)
  · intro known
    exact ⟨_, known, by simp⟩

theorem isNewLanguage_iff (state : State) (language : String) :
    state.isNewLanguage (.str language) = true ↔
      language ≠ "" ∧ .str language ∉ state.languages := by
  rw [isNewLanguage_text, Bool.and_eq_true, bne_iff_ne, Bool.not_eq_true', ← Bool.not_eq_true,
    isRecorded_iff]

theorem registerLanguage_languages (state : State) (language : Value) :
    (state.registerLanguage language).2.languages =
      state.languages ++ if state.isNewLanguage language then [language] else [] :=
  (State.apply_code state language).2

theorem isNewLanguage_registered (state : State) (language other : String) :
    (state.registerLanguage (.str language)).2.isNewLanguage (.str other) = true ↔
      state.isNewLanguage (.str other) = true ∧ other ≠ language := by
  rw [isNewLanguage_iff, isNewLanguage_iff, registerLanguage_languages]
  cases new : state.isNewLanguage (.str language) with
  | true =>
    have appended : Value.str other ∈ state.languages ++ [.str language] ↔
        .str other ∈ state.languages ∨ other = language := by simp
    rw [if_pos rfl, appended, not_or, and_assoc]
  | false =>
    rw [if_neg Bool.false_ne_true, List.append_nil]
    refine ⟨fun fresh => ⟨fresh, ?_⟩, And.left⟩
    rintro rfl
    exact absurd ((isNewLanguage_iff state other).mpr fresh) (by simp [new])

theorem grammarsText_append (catalogue : Catalogue) (left right : List Value) :
    grammarsText catalogue (left ++ right) =
      grammarsText catalogue left ++ grammarsText catalogue right := by
  induction left with
  | nil => exact String.empty_append.symm
  | cons language left ih =>
    cases language with
    | str language => rw [List.cons_append, grammarsText, grammarsText, ih, String.append_assoc]
    | null | bool _ | int _ | float _ | list _ | object _ => exact ih

/-- A visit of code that ends like this goes by the one spelling of the language throughout. -/
structure Agrees (setting : Setting) (session : Session) (written : String)
    (ended : Except Fault Unit × Session) : Prop where
  isNew : session.state.isNewLanguage (.str (canonical written)) = true ↔
    canonical written ≠ "" ∧ .str (canonical written) ∉ session.state.languages
  kept (other : String) : ended.2.state.isNewLanguage (.str (canonical other)) = true ↔
    session.state.isNewLanguage (.str (canonical other)) = true ∧ canonical other ≠ canonical written
  missed :
    (ended.1 = .error (.missingGrammar (.str written) (canonical written)) ∨
        ended.2.notices = session.notices ++ [missingGrammarNotice (.str written)]) ↔
      session.state.isNewLanguage (.str (canonical written)) = true ∧
        setting.catalogue.grammar? written = none
  assembled : grammarsText setting.catalogue ended.2.state.languages =
    grammarsText setting.catalogue session.state.languages ++
      if session.state.isNewLanguage (.str (canonical written)) = true then
        (setting.catalogue.grammar? written).getD ""
      else ""

/-- How the visit of code ends: with the language registered, and with a word on its grammar where it
is new and has none. -/
theorem run_renderCode_cases (setting : Setting) {session : Session} {stack : List String}
    {text : String} (holds : session.writer.Holds stack text) (written source : String) :
    ∃ result writer notices,
      run (renderCode setting (.str written) (.str source)) session =
        (result, ⟨writer, (session.state.registerLanguage (.str (canonical written))).2, notices⟩) ∧
      (lacksGrammar setting session.state written = true ∧
          (result = .error (.missingGrammar (.str written) (canonical written)) ∨
            notices = session.notices ++ [missingGrammarNotice (.str written)]) ∨
        lacksGrammar setting session.state written = false ∧
          result = .ok () ∧ notices = session.notices) := by
  have writing := renders_code (Tree.languageClass written) source stack
  rw [run_renderCode]
  generalize (session.state.registerLanguage (.str (canonical written))).2 = registered
  cases lacks : lacksGrammar setting session.state written with
  | false =>
    obtain ⟨writer, ran, -⟩ := writing { session with state := registered } text holds
    exact ⟨.ok (), writer, session.notices, ran, .inr ⟨rfl, rfl, rfl⟩⟩
  | true =>
    cases setting.options.failOnMissingPlugin.truthy with
    | true => exact ⟨_, session.writer, session.notices, rfl, .inl ⟨rfl, .inl rfl⟩⟩
    | false =>
      obtain ⟨writer, ran, -⟩ := writing ⟨session.writer, registered,
        session.notices ++ [missingGrammarNotice (.str written)]⟩ text holds
      exact ⟨.ok (), writer, _, (Stateful.run_bind_ok _ (run_note _ _)).trans ran,
        .inl ⟨rfl, .inr rfl⟩⟩

theorem renderCode_agrees (setting : Setting) {session : Session} {stack : List String}
    {text : String} (holds : session.writer.Holds stack text) (written source : String) :
    Agrees setting session written (run (renderCode setting (.str written) (.str source)) session) := by
  obtain ⟨result, writer, notices, ran, said⟩ := run_renderCode_cases setting holds written source
  have lacking : lacksGrammar setting session.state written = true ↔
      session.state.isNewLanguage (.str (canonical written)) = true ∧
        setting.catalogue.grammar? written = none := by
    rw [lacksGrammar, Assets.grammar?_canonical, Bool.and_eq_true, Option.isNone_iff_eq_none]
  rw [ran]
  constructor
  case isNew => exact isNewLanguage_iff _ _
  case kept =>
    intro other
    dsimp only
    exact isNewLanguage_registered session.state (canonical written) (canonical other)
  case missed =>
    rw [← lacking]
    rcases said with ⟨lacks, said⟩ | ⟨supported, rfl, rfl⟩
    · exact iff_of_true said lacks
    · rw [supported]
      simp
  case assembled =>
    rw [registerLanguage_languages, grammarsText_append]
    split <;> simp [grammarsText, Assets.grammar?_canonical]

/-- What a page has kept of the languages in its tree, and the grammars that it was assembled with. -/
structure Assembles (catalogue : Catalogue) (tree : Node) (state : State) (html : String) : Prop where
  kept : state.languages = tree.languagesMet.map Value.str
  once : tree.languagesMet.Nodup
  met (language : String) : language ∈ tree.languagesMet ↔
    language ≠ "" ∧ ∃ written ∈ tree.writtenMet, canonical written = language
  found (script : String) : script ∈ tree.languagesMet.filterMap catalogue.grammar? ↔
    ∃ written ∈ tree.writtenMet, canonical written ≠ "" ∧ catalogue.grammar? written = some script
  assembled : occurs .codeBlock tree = true → ∃ front back, html =
    front ++ elementText "script" [] (catalogue.prismJs ++
      String.join (tree.languagesMet.filterMap catalogue.grammar?)) ++ back

theorem state_of_page {setting : Setting} {document : Document} (typed : document.WellTyped)
    {html : String} (rendered : (page setting (.document document)).result = .ok html) :
    (page setting (.document document)).state =
      State.fresh.after setting document.root.node.preorder := by
  obtain ⟨clear, lists⟩ := clear_of_page typed rendered
  rw [outcome_written typed clear lists]
  rw [course_preorder] at clear ⊢
  exact state_of_clear clear

theorem mem_grammars (catalogue : Catalogue) (tree : Node) (script : String) :
    script ∈ tree.languagesMet.filterMap catalogue.grammar? ↔
      ∃ written ∈ tree.writtenMet,
        canonical written ≠ "" ∧ catalogue.grammar? written = some script := by
  rw [List.mem_filterMap]
  constructor
  · rintro ⟨language, member, found⟩
    obtain ⟨named, written, inside, rfl⟩ := (tree.mem_languagesMet language).mp member
    rw [Assets.grammar?_canonical] at found
    exact ⟨written, inside, named, found⟩
  · rintro ⟨written, inside, named, found⟩
    refine ⟨canonical written, (tree.mem_languagesMet _).mpr ⟨named, written, inside, rfl⟩, ?_⟩
    rw [Assets.grammar?_canonical, found]

theorem trailersText_prism (setting : Setting) {state : State} (needed : state.features.prism = true) :
    ∃ before after,
      trailersText setting state = before ++ prismText setting.catalogue state ++ after := by
  refine ⟨if state.features.katex then katexText setting.catalogue state else "",
    if state.features.mermaid then mermaidText setting else "", ?_⟩
  rw [trailersText, if_pos needed, String.append_assoc]

theorem page_assembles {setting : Setting} {document : Document} (typed : document.WellTyped)
    {html : String} (rendered : (page setting (.document document)).result = .ok html) :
    Assembles setting.catalogue document.root.node (page setting (.document document)).state html := by
  rw [state_of_page typed rendered]
  refine ⟨languages_after _ _, nodup_eraseDups _, Node.mem_languagesMet _, mem_grammars _ _, ?_⟩
  intro coded
  obtain ⟨content, -, laid⟩ := page_parts typed rendered
  have needed : (State.fresh.after setting document.root.node.preorder).features.prism = true := coded
  obtain ⟨before, after, trailers⟩ := trailersText_prism setting needed
  rw [trailers, prismText, languages_after, grammarsText_texts] at laid
  refine ⟨frontText setting.catalogue document ++ contentText setting document.license
    (State.fresh.after setting document.root.node.preorder) content ++ before ++
      styleText setting.catalogue.prismCss,
    after ++ (Markup.closingTag "body" ++ Markup.closingTag "html"), ?_⟩
  simp only [laid, String.append_assoc]

/-- A language has one spelling, which is its own, has no part in the white space around it or in the
case of an alias, and is empty only if the language is all white space. A grammar is found by it just
as by any other. So the visit of code, the list of languages and the page that is assembled from it
agree on every language, however it is written. -/
theorem languages_agree :
    (∀ language, canonical (canonical language) = canonical language ∧
      (canonical language = "" ↔ language.toList.all Text.isBlank = true) ∧
      ∀ catalogue : Catalogue,
        catalogue.grammar? (canonical language) = catalogue.grammar? language) ∧
    (∀ before after : String,
      before.toList.all Text.isBlank = true → after.toList.all Text.isBlank = true →
        ∀ language, canonical (before ++ language ++ after) = canonical language ∧
          ∀ entry ∈ aliases, Text.lowered language = entry.1 →
            ∀ other, Text.lowered other = entry.2 →
              canonical (before ++ other ++ after) = canonical (before ++ language ++ after)) ∧
    (∀ (setting : Setting) (session : Session) (stack : List String) (text : String),
      session.writer.Holds stack text → ∀ written source,
        Agrees setting session written
          (run (renderCode setting (.str written) (.str source)) session)) ∧
    ∀ (setting : Setting) (document : Document), document.WellTyped →
      ∀ html, (page setting (.document document)).result = .ok html →
        Assembles setting.catalogue document.root.node (page setting (.document document)).state
          html := by
  refine ⟨fun language => ⟨Assets.canonical_canonical language, ?_, ?_⟩, ?_, ?_, ?_⟩
  · rw [Assets.canonical_eq_empty_iff, Text.trim_eq_nil_iff]
  · exact fun catalogue => Assets.grammar?_canonical catalogue language
  · intro before after blankBefore blankAfter language
    refine ⟨Assets.canonical_surrounded blankBefore blankAfter language, ?_⟩
    intro entry known short other full
    rw [Assets.canonical_surrounded blankBefore blankAfter other,
      Assets.canonical_surrounded blankBefore blankAfter language,
      Assets.canonical_alias known short full]
  · intro setting session stack text holds written source
    exact renderCode_agrees setting holds written source
  · intro setting document typed html rendered
    exact page_assembles typed rendered

theorem languages_agree_spelled :
    canonical "\u2003Python\n" = canonical "\u2003PY\n" ∧
      Agrees smallSetting ⟨.empty, .fresh, []⟩ " PY"
        (run (renderCode smallSetting (.str " PY") (.str "")) ⟨.empty, .fresh, []⟩) ∧
      spelledDocument.WellTyped ∧ ∃ html,
        (page smallSetting (.document spelledDocument)).result = .ok html ∧
        Assembles smallSetting.catalogue spelledDocument.root.node
          (page smallSetting (.document spelledDocument)).state html := by
  obtain ⟨-, spellings, visits, pages⟩ := languages_agree
  obtain ⟨html, rendered⟩ : ∃ html, (page smallSetting (.document spelledDocument)).result = .ok html :=
    ok_of_isSome (by decide +kernel)
  obtain ⟨-, aliased⟩ := spellings "\u2003" "\n" (by decide) (by decide) "PY"
  exact ⟨aliased ("py", "python") (by decide +kernel) (by decide +kernel) "Python" (by decide +kernel),
    visits smallSetting ⟨.empty, .fresh, []⟩ [] "" Markup.Writer.holds_empty " PY" "",
    spelledDocument_wellTyped, html, rendered,
    pages smallSetting spelledDocument spelledDocument_wellTyped html rendered⟩

end Folio.Render
