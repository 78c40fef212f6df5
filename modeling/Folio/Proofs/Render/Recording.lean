import Folio.Proofs.Assets.Language
import Folio.Proofs.Markup.Failure
import Folio.Proofs.Render.Preorder

/-! What a rendering puts on record. A language that lacks its grammar gets there only by breaking the
rendering off, where that is what a missing grammar does. So it is with any tree, also one that holds
values of the wrong kinds: the failures that these lead to are of other sorts and record nothing. -/
namespace Folio.Render

open Stateful (IsConfined confined_error confined_ok run run_bind run_bind_ok)
open Folio.Tree (Branch Leaf Node)
open Markup (WritingOnly writingKinds)

/-- A language in its one spelling that says something and has no grammar. -/
def Lacking (setting : Setting) (language : String) : Prop :=
  language ≠ "" ∧ setting.catalogue.grammar? language = none

theorem lacking_canonical_iff (setting : Setting) (written : String) :
    Lacking setting (Assets.canonical written) ↔
      Text.trim written.toList ≠ [] ∧ setting.catalogue.grammar? written = none := by
  rw [Lacking, Assets.grammar?_canonical, ne_eq, Assets.canonical_eq_empty_iff]

theorem lacksGrammar_iff (setting : Setting) (state : State) (written : String) :
    lacksGrammar setting state written = true ↔
      Lacking setting (Assets.canonical written) ∧
        isRecorded state.languages (Assets.canonical written) = false := by
  simp only [lacksGrammar, isNewLanguage_text, Lacking, Bool.and_eq_true, bne_iff_ne,
    Bool.not_eq_true', Option.isNone_iff_eq_none]
  exact and_right_comm

/-- Work that puts a language on record just where it fails for want of its grammar. -/
def Records (language : String) {α : Type} (work : Rendering α) : Prop :=
  ∀ session, isRecorded (run work session).2.state.languages language = true ↔
    isRecorded session.state.languages language = true ∨
      ∃ written, (run work session).1 = .error (.missingGrammar written language)

section Records
variable {language : String} {α β : Type}

theorem Records.bind {first : Rendering α} {next : α → Rendering β} (records : Records language first)
    (later : ∀ value, Records language (next value)) : Records language (first >>= next) := by
  intro session
  have here := records session
  rw [run_bind]
  cases found : run first session with
  | mk outcome after =>
    rw [found] at here
    cases outcome with
    | ok value =>
      have carried : isRecorded after.state.languages language = true ↔
          isRecorded session.state.languages language = true := by simpa using here
      rw [← carried]
      exact later value after
    | error fault => simpa using here

theorem records_of_confined {work : Rendering α} (confined : IsConfined (· ∈ writingKinds) work)
    (kept : ∀ session, (run work session).2.state.languages = session.state.languages) :
    Records language work := by
  intro session
  rw [kept]
  refine (or_iff_left ?_).symm
  rintro ⟨written, failed⟩
  exact absurd (confined session _ failed) (by simp [Fault.category, writingKinds])

theorem records_write {step : Markup.Writing α} (confined : IsConfined (· ∈ writingKinds) step) :
    Records language (Rendering.write step) := by
  refine records_of_confined (fun session => ?_) (fun session => ?_)
  · rw [run_write]
    exact confined session.writer
  · rw [run_write]

theorem records_gather (change : State → α × State)
    (kept : ∀ state, (change state).2.languages = state.languages) :
    Records language (Rendering.gather change) := by
  refine records_of_confined (fun session => ?_) (fun session => ?_)
  · rw [run_gather]
    exact confined_ok _
  · rw [run_gather]
    exact kept session.state

theorem records_ofExcept {outcome : Except Fault α} (confined : WritingOnly outcome) :
    Records language (MonadExcept.ofExcept outcome : Rendering α) := by
  refine records_of_confined (Stateful.isConfined_ofExcept confined) (fun session => ?_)
  rw [Stateful.run_ofExcept]

theorem records_heed {work : Noted α} (confined : WritingOnly work.outcome.1) :
    Records language (Rendering.heed work) := by
  refine records_of_confined (fun session => ?_) (fun session => ?_)
  · rw [run_heed]
    exact confined
  · rw [run_heed]

theorem records_pure (value : α) : Records language (pure value : Rendering α) :=
  records_of_confined (Stateful.isConfined_pure value) fun _ => rfl

theorem records_note (notice : Notice) : Records language (Rendering.note notice) :=
  records_of_confined (Stateful.isConfined_modify _) fun _ => rfl

end Records

section Trees
variable {setting : Setting} {language : String}

theorem isRecorded_register (state : State) (name other : String) :
    isRecorded (state.registerLanguage (.str name)).2.languages other = true ↔
      isRecorded state.languages other = true ∨
        other = name ∧ state.isNewLanguage (.str name) = true := by
  rw [registerLanguage_text, isRecorded_append, Bool.or_eq_true, isNewLanguage_text,
    List.contains_iff_mem, newLanguages, List.mem_eraseDups, List.mem_filter, List.mem_singleton]
  refine or_congr_right (and_congr_right ?_)
  rintro rfl
  rfl

theorem renderCode_records (strict : setting.options.failOnMissingPlugin.truthy = true)
    (lacking : Lacking setting language) (written source : Value) :
    Records language (renderCode setting written source) := by
  refine (records_ofExcept (Markup.writingOnly_text "strip" written)).bind fun text => ?_
  have writing : ∀ className, Records language (do
      Rendering.write (Markup.Writer.startTag "pre" [])
      Rendering.write (Markup.Writer.inlineTag "code" [("class", .str className)] source)
      Rendering.write Markup.Writer.endTag) := fun _ =>
    (records_write (Markup.confined_startTag _ _)).bind fun _ =>
      (records_write (Markup.confined_inlineTag _ _ _)).bind fun _ =>
        records_write Markup.confined_endTag
  intro session
  dsimp only
  -- From here on only the one spelling of the language matters.
  generalize Assets.canonical text = name
  rw [run_bind_ok _ (run_gather _ _), registerLanguage_fst]
  have registered := isRecorded_register session.state name language
  by_cases missed : (session.state.isNewLanguage (.str name) &&
      (setting.catalogue.grammar? name).isNone) = true
  · -- The language is registered, and then its grammar is missed.
    rw [if_pos missed, if_pos strict, Stateful.run_bind_error _ (Stateful.run_throw _ _), registered]
    rw [Bool.and_eq_true] at missed
    refine or_congr_right ?_
    constructor
    · rintro ⟨rfl, -⟩
      exact ⟨written, rfl⟩
    · rintro ⟨other, failed⟩
      exact ⟨(Fault.missingGrammar.inj (Except.error.inj failed)).2.symm, missed.1⟩
  · -- If anything was registered, it has its grammar.
    have other : ¬ (language = name ∧ session.state.isNewLanguage (.str name) = true) := by
      rintro ⟨rfl, new⟩
      exact missed (by simp [new, lacking.2])
    have kept := writing (codeClass text name)
      { session with state := (session.state.registerLanguage (.str name)).2 }
    rw [registered, or_iff_left other] at kept
    rw [if_neg missed]
    exact kept

theorem renderMath_records (source : Value) (display : Bool) :
    Records language (renderMath setting source display) :=
  (records_gather _ fun _ => rfl).bind fun _ =>
    (records_write (Markup.confined_inlineTag _ _ _)).bind fun _ =>
      (records_ofExcept (Markup.writingOnly_text "replace" source)).bind fun _ =>
        records_gather _ fun _ => rfl

theorem renderLeaf_records (strict : setting.options.failOnMissingPlugin.truthy = true)
    (lacking : Lacking setting language) (item : Leaf) :
    Records language (renderLeaf setting item) := by
  cases item with
  | codeBlock written source => exact renderCode_records strict lacking written source
  | mathExpr source display => exact renderMath_records source display
  | diagram source =>
    exact (records_gather _ fun _ => rfl).bind fun _ =>
      records_write (Markup.confined_inlineTag _ _ _)
  | thematicBreak => exact records_write (Markup.confined_orphanTag _ _)
  | text content => exact records_write (Markup.confined_writeContent content)
  | inlineCode content => exact records_write (Markup.confined_inlineTag _ _ _)

theorem writingOnly_sanitize (url : Value) : WritingOnly (Links.sanitize url).outcome.1 := by
  cases url with
  | str url =>
    rw [outcome_sanitize]
    exact confined_ok (Links.target url)
  | null | bool _ | int _ | float _ | list _ | object _ =>
    exact confined_error (by simp [Fault.category, writingKinds])

theorem enter_records (hasChildren : Bool) (frame : Branch) :
    Records language (enter hasChildren frame) := by
  cases frame with
  | heading level anchor title =>
    refine (records_write (Markup.confined_inlineTag _ _ _)).bind fun _ =>
      (records_gather _ fun _ => rfl).bind fun _ => ?_
    cases hasChildren with
    | false => exact records_pure none
    | true =>
      cases writable : Number.isWritable (level + 1) with
      | true => simpa [writable] using records_pure _
      | false =>
        have known : (Fault.tooManyDigits none).category ∈ writingKinds := by decide
        simpa [writable] using
          records_of_confined (Stateful.isConfined_throw known) fun _ => rfl
  | link url => exact (records_heed (writingOnly_sanitize url)).bind fun _ => records_pure _
  | container _ | paragraph | blockQuote | list _ | listItem | emphasis | strong =>
    exact records_pure _

mutual

theorem renderNode_records (strict : setting.options.failOnMissingPlugin.truthy = true)
    (lacking : Lacking setting language) :
    (node : Node) → Records language (renderNode setting node)
  | .leaf item _ => renderLeaf_records strict lacking item
  | .branch frame children _ => by
    have inside := renderNodes_records strict lacking children
    refine (enter_records _ frame).bind fun around => ?_
    cases around with
    | none => exact inside
    | some element =>
      exact (records_write (Markup.confined_startTag _ _)).bind fun _ =>
        inside.bind fun _ => records_write Markup.confined_endTag

theorem renderNodes_records (strict : setting.options.failOnMissingPlugin.truthy = true)
    (lacking : Lacking setting language) :
    (nodes : List Node) → Records language (renderNodes setting nodes)
  | [] => records_pure ()
  | node :: rest =>
    (renderNode_records strict lacking node).bind fun _ => renderNodes_records strict lacking rest

end

/-- Whatever the tree, its rendering records a language that lacks a grammar just where it is broken
off for that language. -/
theorem fragment_records (strict : setting.options.failOnMissingPlugin.truthy = true)
    (lacking : Lacking setting language) (tree : Node) (state : State) :
    isRecorded (fragment setting (.node tree) state).state.languages language = true ↔
      isRecorded state.languages language = true ∨
        ∃ written, (fragment setting (.node tree) state).result =
          .error (.missingGrammar written language) := by
  have records : Records language (renderFragment setting tree) := by
    refine (renderNode_records strict lacking tree).bind fun _ =>
      (records_write Markup.confined_finish).bind fun html => ?_
    have looks : Records language (get : Rendering Session) :=
      records_of_confined Stateful.isConfined_get fun _ => rfl
    exact looks.bind fun _ => (records_note _).bind fun _ => records_pure html
  exact records ⟨.empty, state, []⟩

end Trees

end Folio.Render
