/-! Notices: what a run has to say besides its result, with their weight and where they come from.
-/
namespace Folio

inductive Severity where
  | debug | info | warning | error | critical
  deriving DecidableEq

namespace Severity

def level : Severity → Nat
  | .debug => 10
  | .info => 20
  | .warning => 30
  | .error => 40
  | .critical => 50

def name : Severity → String
  | .debug => "DEBUG"
  | .info => "INFO"
  | .warning => "WARNING"
  | .error => "ERROR"
  | .critical => "CRITICAL"

def all : List Severity := [.debug, .info, .warning, .error, .critical]

def ofName? (name : String) : Option Severity := all.find? fun severity => severity.name == name

end Severity

inductive Channel where
  | links | fragments | pages | interchange | assets
  deriving DecidableEq

def Channel.name : Channel → String
  | .links => "knots.utils.html_utils"
  | .fragments => "knots.renderers.html"
  | .pages => "knots.renderers.document"
  | .interchange => "knots.ast.serialization"
  | .assets => "knots.assets"

structure Notice where
  severity : Severity
  channel : Channel
  message : String
  deriving DecidableEq

def noticesFrom (least : Severity) (notices : List Notice) : List Notice :=
  notices.filter fun notice => least.level ≤ notice.severity.level

end Folio
