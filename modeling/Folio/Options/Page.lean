import Folio.Signature
import Folio.Text.Blank

/-! Options of a rendering. Page options extend the base options; a summary title says something,
and both diagram themes are known ones. Switches keep whatever value they were given and count by
whether it is true. Options never change: an update makes new ones. -/
namespace Folio.Options

structure Page where
  failOnMissingPlugin : Value
  summary : Value
  summaryTitle : String
  darkTheme : Theme
  lightTheme : Theme
  throwOnError : Value

def Page.default : Page where
  failOnMissingPlugin := .bool false
  summary := .bool true
  summaryTitle := "Summary"
  darkTheme := .dark
  lightTheme := .base
  throwOnError := .bool false

def Page.fields (page : Page) : Fields := [
  ("fail_on_missing_plugin", page.failOnMissingPlugin), ("summary", page.summary),
  ("summary_title", .str page.summaryTitle), ("mermaid_dark_theme", .str page.darkTheme.name),
  ("mermaid_light_theme", .str page.lightTheme.name),
  ("katex_throw_on_error", page.throwOnError)]

def Page.Valid (page : Page) : Prop := Text.trim page.summaryTitle.toList ≠ []

end Folio.Options

namespace Folio

inductive Options where
  | base (failOnMissingPlugin : Value)
  | page (own : Options.Page)

namespace Options

def kind : Options → Kind
  | .base _ => .base
  | .page _ => .page

def fields : Options → Fields
  | .base failOnMissingPlugin => [("fail_on_missing_plugin", failOnMissingPlugin)]
  | .page own => own.fields

def default : Kind → Options
  | .base => .base (.bool false)
  | .page => .page Page.default

def titleOf (value : Value) : Except Fault String := do
  let title ← value.text? "strip"
  if (Text.trim title.toList).isEmpty then .error .blankTitle else .ok title

def themeOf (field : String) (value : Value) : Except Fault Theme :=
  match value with
  | .str name =>
    match Theme.ofName? name with
    | some theme => .ok theme
    | none => .error (Fault.unknownTheme field value).raised
  | .list _ | .object _ => .error (.unhashable value.kind)
  | value => .error (Fault.unknownTheme field value).raised

/-- Options of a kind from values for all of its fields, judged in the order of the fields. -/
def ofFields (kind : Kind) (fields : Fields) : Except Fault Options :=
  let get (name : String) : Value :=
    ((fields.lookup name).orElse fun _ => (default kind).fields.lookup name).getD .null
  match kind with
  | .base => .ok (.base (get "fail_on_missing_plugin"))
  | .page => do
    let summaryTitle ← titleOf (get "summary_title")
    let darkTheme ← themeOf "mermaid_dark_theme" (get "mermaid_dark_theme")
    let lightTheme ← themeOf "mermaid_light_theme" (get "mermaid_light_theme")
    .ok (.page {
      failOnMissingPlugin := get "fail_on_missing_plugin"
      summary := get "summary"
      summaryTitle, darkTheme, lightTheme
      throwOnError := get "katex_throw_on_error" })

def signature (kind : Kind) : Signature := ⟨[], (default kind).fields.map Prod.fst⟩

def make (kind : Kind) (given : Fields) : Except Fault Options := do
  (signature kind).checkNames (Signature.maker kind.name) (given.map Prod.fst)
  ofFields kind given

/-- The call that makes an update. It takes any name but the one it has for itself. -/
def updater : String := "CloneFrozenMixin.create_updated"

def update (options : Options) (given : Fields) : Except Fault Options := do
  let names := given.map Prod.fst
  if names.contains Signature.receiver then
    throw (.repeatedArgument updater Signature.receiver)
  (signature options.kind).checkNames (Signature.maker options.kind.name) names
  ofFields options.kind (given ++ options.fields)

def alike (left right : Options) : Bool :=
  left.kind == right.kind && Value.fieldsAlike left.fields right.fields

def check (renderer : Value) (expected : Kind) : Option Options → Except Fault Unit
  | none => .ok ()
  | some options =>
    if options.kind.serves expected then .ok ()
    else .error (Fault.wrongOptions renderer expected options.kind).raised

/-- The options that a page renderer works with: the given page options, or the default ones. -/
def forPage (renderer : String) : Option Options → Except Fault Page
  | none => .ok Page.default
  | some (.page own) => .ok own
  | some options => .error (.wrongOptions (.str renderer) .page options.kind)

end Options
end Folio
