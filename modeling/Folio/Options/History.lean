import Folio.Options.Page

/-! Steps on current options, of which there are none at first. A step that fails leaves the current
options as they were. -/
namespace Folio.Options.History

inductive Step where
  | new (kind : Kind) (given : Fields)
  | update (given : Fields)
  | assign (field : Value)
  | check (expected : Kind) (renderer : Value)
  | compare (kind : Kind) (given : Fields)

def currentName : Option Options → String
  | none => Value.Kind.null.name
  | some options => options.kind.name

def update (current : Option Options) (given : Fields) : Except Fault Options :=
  match current with
  | none => .error (.lacks (currentName current) "create_updated")
  | some options => options.update given

def assign (current : Option Options) (field : Value) : Fault :=
  match field, current with
  | .str field, none => .lacks (currentName current) field
  | .str field, some _ => .immutable field
  | field, _ => .memberNotNamed field.kind

def compare (current : Option Options) (kind : Kind) (given : Fields) : Except Fault Bool := do
  let other ← Options.make kind given
  .ok (current.any fun options => options.alike other)

def step (current : Option Options) : Step → Except Fault (Option Options × Option Bool)
  | .new kind given => (Options.make kind given).map fun options => (some options, none)
  | .update given => (update current given).map fun options => (some options, none)
  | .assign field => .error (assign current field)
  | .check expected renderer =>
    (check renderer expected current).map fun _ => (current, none)
  | .compare kind given => (compare current kind given).map fun like => (current, some like)

def after (current : Option Options) (taken : Step) : Option Options :=
  match step current taken with
  | .ok (options, _) => options
  | .error _ => current

end Folio.Options.History
