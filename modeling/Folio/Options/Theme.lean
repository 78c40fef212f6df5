import Folio.Data.Value

/-! The colour themes that diagrams can be drawn in. -/
namespace Folio.Options

inductive Theme where
  | base | dark | default | forest | neutral
  deriving DecidableEq

def Theme.name : Theme → String
  | .base => "base"
  | .dark => "dark"
  | .default => "default"
  | .forest => "forest"
  | .neutral => "neutral"

def Theme.all : List Theme := [.base, .dark, .default, .forest, .neutral]

def Theme.ofName? (name : String) : Option Theme := all.find? fun theme => theme.name == name

def Theme.names : Value := .list (all.map fun theme => .str theme.name)

theorem Theme.ofName?_name (theme : Theme) : ofName? theme.name = some theme := by
  cases theme <;> decide

end Folio.Options
