/-! The two kinds of rendering options. Page options are base options too, but not the other way
round. -/
namespace Folio.Options

inductive Kind where
  | base
  | page
  deriving DecidableEq

def Kind.name : Kind → String
  | .base => "BaseRendererOptions"
  | .page => "HtmlRendererOptions"

def Kind.serves : Kind → Kind → Bool
  | .base, .page => false
  | _, _ => true

end Folio.Options
