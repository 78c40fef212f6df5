import Folio.Proofs.Render.Recording
import Mathlib.Data.List.Induction

/-! When a rendering breaks off. There are two causes: a section too deep for its level to be written,
and, where missing grammars are not put up with, code in a language that has none. The second cause
acts once. A language is recorded before its grammar is looked for, and a recorded language is not
looked at again, so the rendering after a refused one goes through. -/
namespace Folio.Render

open Folio.Tree (Node)

theorem fault?_eq_none_iff (setting : Setting) (state : State) (node : Node) :
    fault? setting state node.event = none ↔
      (∀ level ∈ node.sectionLevel?, Number.isWritable level = true) ∧
        (setting.options.failOnMissingPlugin.truthy = true → ∀ language ∈ node.language?,
          Lacking setting language → isRecorded state.languages language = true) := by
  cases node with
  | leaf item data =>
    cases item with
    | codeBlock written source =>
      have lacks := lacksGrammar_iff setting state written.display
      cases strict : setting.options.failOnMissingPlugin.truthy with
      | false => simp [Node.event, fault?, Node.sectionLevel?, strict]
      | true =>
        simp [Node.event, fault?, Node.sectionLevel?, Node.language?, strict, lacks,
          ← Bool.not_eq_true]
    | _ => simp [Node.event, fault?, Node.sectionLevel?, Node.language?]
  | branch frame children data =>
    cases frame with
    | heading level anchor title =>
      cases children <;> simp [Node.event, fault?, Node.sectionLevel?, Node.language?]
    | _ => simp [Node.event, fault?, Node.sectionLevel?, Node.language?]

theorem isRecorded_after (setting : Setting) (state : State) (nodes : List Node)
    (language : String) :
    isRecorded (state.after setting nodes).languages language = true ↔
      isRecorded state.languages language = true ∨
        language ≠ "" ∧ language ∈ nodes.filterMap Node.language? :=
  isRecorded_newLanguages state.languages (nodes.filterMap Node.language?) language

theorem isRecorded_gathered {setting : Setting}
    (strict : setting.options.failOnMissingPlugin.truthy = true) {state : State} {node : Node}
    (clear : fault? setting state node.event = none) {language : String}
    (lacking : Lacking setting language) :
    isRecorded (gathered setting state node.event).languages language = true ↔
      isRecorded state.languages language = true := by
  have known := ((fault?_eq_none_iff setting state node).mp clear).2 strict
  rw [gathered_event, isRecorded_after]
  refine or_iff_left_of_imp ?_
  rintro ⟨-, member⟩
  exact known language (by simpa using member) lacking

theorem course_clear_iff (setting : Setting) (nodes : List Node) (state : State) :
    (course setting state (nodes.map Node.event)).fault? = none ↔
      (∀ node ∈ nodes, ∀ level ∈ node.sectionLevel?, Number.isWritable level = true) ∧
        (setting.options.failOnMissingPlugin.truthy = true → ∀ node ∈ nodes,
          ∀ language ∈ node.language?, Lacking setting language →
            isRecorded state.languages language = true) := by
  induction nodes generalizing state with
  | nil => simp [course]
  | cons node rest ih =>
    have here := fault?_eq_none_iff setting state node
    rw [List.map_cons]
    cases found : fault? setting state node.event with
    | some fault =>
      rw [course_stopped _ found]
      simp only [found, reduceCtorEq, false_iff] at here
      simp only [List.forall_mem_cons, reduceCtorEq, false_iff]
      rintro ⟨⟨fits, -⟩, known⟩
      exact here ⟨fits, fun strict => (known strict).1⟩
    | none =>
      rw [course_clear _ found, ih]
      rw [found] at here
      obtain ⟨fits, known⟩ := here.mp rfl
      simp only [List.forall_mem_cons]
      constructor
      · rintro ⟨others, later⟩
        refine ⟨⟨fits, others⟩, fun strict => ⟨known strict, ?_⟩⟩
        intro other member language names lacking
        -- What this node has gathered is no language that lacks its grammar.
        rw [← isRecorded_gathered strict found lacking]
        exact later strict other member language names lacking
      · rintro ⟨⟨-, others⟩, later⟩
        refine ⟨others, fun strict other member language names lacking => ?_⟩
        rw [isRecorded_gathered strict found lacking]
        exact (later strict).2 other member language names lacking

/-- Why a rendering breaks off. Where it is for code, the language lacks a grammar and is not recorded,
and of the languages before it every one that lacks a grammar is. -/
theorem course_fault {setting : Setting} {nodes : List Node} {state : State} {fault : Fault}
    (broken : (course setting state (nodes.map Node.event)).fault? = some fault) :
    (∃ node ∈ nodes, ∃ level ∈ node.sectionLevel?, Number.isWritable level = false) ∧
        fault = .tooManyDigits none ∨
      setting.options.failOnMissingPlugin.truthy = true ∧
        ∃ before written source data rest,
          nodes = before ++ .leaf (.codeBlock written source) data :: rest ∧
          fault = .missingGrammar written (Assets.canonical written.display) ∧
          Lacking setting (Assets.canonical written.display) ∧
          isRecorded state.languages (Assets.canonical written.display) = false ∧
          ∀ node ∈ before, ∀ language ∈ node.language?, Lacking setting language →
            isRecorded state.languages language = true := by
  rcases course_nodes setting nodes state with ⟨clear, -⟩ |
    ⟨before, node, rest, other, split, stopped, -, here, earlier⟩
  · exact absurd (clear.symm.trans broken) (by simp)
  · obtain rfl := Option.some.inj (stopped.symm.trans broken)
    rcases fault?_cases here with ⟨level, deep, unwritable, rfl⟩ |
      ⟨written, source, data, rfl, rfl, lacks, strict⟩
    · exact Or.inl ⟨⟨node, by simp [split], level, deep, unwritable⟩, rfl⟩
    · obtain ⟨lacking, new⟩ := (lacksGrammar_iff setting _ _).mp lacks
      -- The nodes before it were met without a fault, so what they lack is on record.
      have known :=
        ((course_clear_iff setting before state).mp (course_clear_of_each earlier)).2 strict
      refine Or.inr ⟨strict, before, written, source, data, rest, split, rfl, lacking, ?_, known⟩
      rw [Bool.eq_false_iff]
      intro recorded
      have still := (isRecorded_after setting state before _).mpr (Or.inl recorded)
      exact absurd (new.symm.trans still) (by simp)

theorem fragment_ok_iff (setting : Setting) (tree : Node) (typed : tree.WellTyped) (state : State) :
    (∃ html, (fragment setting (.node tree) state).result = .ok html) ↔
      (course setting state (tree.preorder.map Node.event)).fault? = none := by
  have faults := (fragment_course setting tree typed state).2
  cases found : (fragment setting (.node tree) state).result with
  | error fault => simp [(faults fault).mp found]
  | ok html =>
    have clear : ∀ fault,
        (course setting state (tree.preorder.map Node.event)).fault? ≠ some fault := by
      intro fault broken
      exact absurd (found.symm.trans ((faults fault).mpr broken)) (by simp)
    simpa using Option.eq_none_iff_forall_ne_some.mpr clear

theorem History.renderAll_concat (setting : Setting) (history : History) (trees : List Node)
    (tree : Node) : history.renderAll setting (trees ++ [tree]) =
      (history.renderAll setting trees).render setting tree := by
  simp [History.renderAll]

/-- One of the renderings on a renderer was broken off for want of this grammar. -/
def Refused (setting : Setting) (trees : List Node) (language : String) : Prop :=
  ∃ front tree back written, trees = front ++ tree :: back ∧
    (fragment setting (.node tree) (History.new.renderAll setting front).state).result =
      .error (.missingGrammar written language)

theorem refused_concat_iff (setting : Setting) (trees : List Node) (tree : Node)
    (language : String) :
    Refused setting (trees ++ [tree]) language ↔ Refused setting trees language ∨
      ∃ written,
        (fragment setting (.node tree) (History.new.renderAll setting trees).state).result =
          .error (.missingGrammar written language) := by
  constructor
  · rintro ⟨front, earlier, back, written, split, refused⟩
    rcases back.eq_nil_or_concat with rfl | ⟨back, last, rfl⟩
    · obtain ⟨rfl, rfl⟩ := List.concat_inj.mp (by simpa using split)
      exact Or.inr ⟨written, refused⟩
    · rw [List.concat_eq_append, ← List.cons_append, ← List.append_assoc] at split
      obtain ⟨rfl, -⟩ := List.append_inj' split rfl
      exact Or.inl ⟨front, earlier, back, written, rfl, refused⟩
  · rintro (⟨front, earlier, back, written, rfl, refused⟩ | ⟨written, refused⟩)
    · exact ⟨front, earlier, back ++ [tree], written, by simp, refused⟩
    · exact ⟨trees, tree, [], written, rfl, refused⟩

/-- Without its grammar a language gets on record only by being refused. -/
theorem recorded_iff_refused {setting : Setting}
    (strict : setting.options.failOnMissingPlugin.truthy = true) {language : String}
    (lacking : Lacking setting language) (trees : List Node) :
    isRecorded (History.new.renderAll setting trees).state.languages language = true ↔
      Refused setting trees language := by
  induction trees using List.reverseRecOn with
  | nil => simp [History.renderAll, History.new, State.fresh, isRecorded, Refused]
  | append_singleton trees tree ih =>
    rw [refused_concat_iff, ← ih, History.renderAll_concat]
    exact fragment_records strict lacking tree _

/-- A renderer that does not put up with missing grammars refuses for each of them once, whatever
trees it was given before. A tree has a fragment exactly if its sections are not too deep and every
language in it that lacks a grammar has been refused in an earlier rendering. A tree that has none has
too deep a section or code that is refused, and then it is the first in the tree whose language has not
been. On a new renderer no language has been refused yet. -/
theorem missing_refused_once (setting : Setting)
    (strict : setting.options.failOnMissingPlugin.truthy = true) (trees : List Node) (tree : Node)
    (typed : tree.WellTyped) :
    let outcome := fragment setting (.node tree) (History.new.renderAll setting trees).state
    ((∃ html, outcome.result = .ok html) ↔
      (∀ node ∈ tree.preorder, ∀ level ∈ node.sectionLevel?, Number.isWritable level = true) ∧
        ∀ node ∈ tree.preorder, ∀ language ∈ node.language?, Lacking setting language →
          Refused setting trees language) ∧
    ∀ fault, outcome.result = .error fault →
      (∃ node ∈ tree.preorder, ∃ level ∈ node.sectionLevel?, Number.isWritable level = false) ∧
          fault = .tooManyDigits none ∨
        ∃ before written source data rest,
          tree.preorder = before ++ .leaf (.codeBlock written source) data :: rest ∧
          fault = .missingGrammar written (Assets.canonical written.display) ∧
          Lacking setting (Assets.canonical written.display) ∧
          ¬ Refused setting trees (Assets.canonical written.display) ∧
          ∀ node ∈ before, ∀ language ∈ node.language?, Lacking setting language →
            Refused setting trees language := by
  intro outcome
  -- What is on record is what earlier renderings were refused for.
  have recorded : ∀ language, Lacking setting language →
      (isRecorded (History.new.renderAll setting trees).state.languages language = true ↔
        Refused setting trees language) :=
    fun language lacking => recorded_iff_refused strict lacking trees
  constructor
  · rw [fragment_ok_iff setting tree typed, course_clear_iff]
    refine and_congr_right fun _ => ?_
    constructor
    · intro known node member language names lacking
      exact (recorded language lacking).mp (known strict node member language names lacking)
    · intro known _ node member language names lacking
      exact (recorded language lacking).mpr (known node member language names lacking)
  · intro fault failed
    have broken := ((fragment_course setting tree typed _).2 fault).mp failed
    rcases course_fault broken with deep |
      ⟨-, before, written, source, data, rest, split, which, lacking, new, known⟩
    · exact Or.inl deep
    · refine Or.inr ⟨before, written, source, data, rest, split, which, lacking, ?_, ?_⟩
      · rw [← recorded _ lacking, new]
        exact Bool.false_ne_true
      · intro node member language names lacks
        exact (recorded language lacks).mp (known node member language names lacks)

def lostTree : Node := .leaf (.codeBlock (.str "lost") (.str "")) (.object [])

theorem lostTree_wellTyped : lostTree.WellTyped := by
  simp [lostTree, Node.WellTyped, Tree.Leaf.WellTyped, Tree.IsText]

theorem lost_lacking : Lacking strictSetting "lost" := by
  constructor <;> decide +kernel

/-- The same tree on the same renderer: refused, and then rendered. -/
theorem lost_rendered_after_refusal :
    strictSetting.options.failOnMissingPlugin.truthy = true ∧ lostTree.WellTyped ∧
      Lacking strictSetting "lost" ∧
      (∃ fault, (fragment strictSetting (.node lostTree) .fresh).result = .error fault ∧
        fault.category = .missingAsset) ∧
      (fragment strictSetting (.node lostTree)
        (History.new.renderAll strictSetting [lostTree]).state).result =
          .ok "<pre><code class=\"language-lost\"></code></pre>" :=
  ⟨rfl, lostTree_wellTyped, lost_lacking, exists_of_category (by decide +kernel),
    ok_of_toOption (by decide +kernel)⟩

theorem missing_refused_once_lost :
    strictSetting.options.failOnMissingPlugin.truthy = true ∧ lostTree.WellTyped ∧
      Refused strictSetting [lostTree] "lost" := by
  have rendered : (fragment strictSetting (.node lostTree)
      (History.new.renderAll strictSetting [lostTree]).state).result.toOption.isSome = true := by
    decide +kernel
  obtain ⟨html, found⟩ := Option.isSome_iff_exists.mp rendered
  have refused := ((missing_refused_once strictSetting rfl [lostTree] lostTree
    lostTree_wellTyped).1.mp ⟨html, ok_of_toOption found⟩).2
  exact ⟨rfl, lostTree_wellTyped, refused lostTree (by simp [lostTree, Node.preorder]) "lost"
    (by decide +kernel) lost_lacking⟩

end Folio.Render
