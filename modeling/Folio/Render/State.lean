import Folio.Data.Display
import Folio.Signature

/-! What a rendering gathers on its way: the entries of the summary, the features a page needs, the
languages to highlight and the statements that typeset formulas. Nothing gathered is ever dropped.
-/
namespace Folio.Render

structure SummaryEntry where
  level : Value
  anchor : Value
  name : Value

structure Features where
  katex : Bool
  prism : Bool
  mermaid : Bool
  deriving DecidableEq

def Features.none : Features := ⟨false, false, false⟩

def Features.any (features : Features) : Bool :=
  features.katex || features.prism || features.mermaid

structure State where
  summary : List SummaryEntry
  features : Features
  languages : List Value
  statements : List Value
  mathCount : Nat

namespace State

def fresh : State := ⟨[], .none, [], [], 0⟩

def addSummaryEntry (state : State) (entry : SummaryEntry) : State :=
  { state with summary := state.summary ++ [entry] }

def needPrism (state : State) : State :=
  { state with features := { state.features with prism := true } }

/-- Whether a language is recorded when it comes up: it has to say something and to be new. -/
def isNewLanguage (state : State) (language : Value) : Bool :=
  language.truthy && !state.languages.any fun seen => seen.alike language

def registerLanguage (state : State) (language : Value) : Bool × State :=
  if state.isNewLanguage language then
    (true, { state.needPrism with languages := state.languages ++ [language] })
  else (false, state.needPrism)

def registerMath (state : State) (statement : Value) : State :=
  { state with
    features := { state.features with katex := true }
    statements := state.statements ++ [statement] }

def nextMathId (state : State) : Nat × State :=
  (state.mathCount + 1, { state with mathCount := state.mathCount + 1 })

def registerDiagram (state : State) : State :=
  { state with features := { state.features with mermaid := true } }

def katexContent (state : State) : String :=
  state.statements.foldl (fun text statement => text ++ statement.display ++ "\n") ""

inductive Step where
  | summaryEntry (level anchor name : Value)
  | code (language : Value)
  | math (statement : Value)
  | mathId
  | diagram

def apply (state : State) : Step → Value × State
  | .summaryEntry level anchor name => (.null, state.addSummaryEntry ⟨level, anchor, name⟩)
  | .code language =>
    let (isNew, state) := state.registerLanguage language
    (.bool isNew, state)
  | .math statement => (.null, state.registerMath statement)
  | .mathId =>
    let (id, state) := state.nextMathId
    (.int id, state)
  | .diagram => (.null, state.registerDiagram)

def interface : Interface where
  owner := "RenderState"
  calls := [
    ("add_summary_entry", ⟨["level", "anchor", "name"], []⟩),
    ("register_prism_language", ⟨["language"], []⟩), ("register_math", ⟨["statement"], []⟩),
    ("next_math_id", ⟨[], []⟩), ("register_diagram", ⟨[], []⟩)]
  members := [
    ("summary", "list"), ("features", "FeatureFlags"), ("prism_plugins", "list"),
    ("katex_buffer", "list"), ("math_count", "int"), ("katex_content", "str")]

def Step.ofNamed? : String → List Value → Option Step
  | "add_summary_entry", [level, anchor, name] => some (.summaryEntry level anchor name)
  | "register_prism_language", [language] => some (.code language)
  | "register_math", [statement] => some (.math statement)
  | "next_math_id", [] => some .mathId
  | "register_diagram", [] => some .diagram
  | _, _ => none

def Step.ofNamed (name : Value) (args : List Value) : Except Fault Step :=
  interface.resolve Step.ofNamed? name args

end State
end Folio.Render
