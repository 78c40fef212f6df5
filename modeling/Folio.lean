import Folio.Assets.Bundled
import Folio.Assets.Loading
import Folio.Json.Printer
import Folio.Json.Reader
import Folio.Logging.Setup
import Folio.Markup.Call
import Folio.Options.History
import Folio.Options.Reference
import Folio.Problem
import Folio.Proofs.Assets.Grammars
import Folio.Proofs.Assets.Placeholder
import Folio.Proofs.Logging.Delivery
import Folio.Proofs.Markup.Escaping
import Folio.Proofs.Markup.Failure
import Folio.Proofs.Markup.Piece
import Folio.Proofs.Options.History
import Folio.Proofs.Render.Assembly
import Folio.Proofs.Render.Completion
import Folio.Proofs.Render.Formulas
import Folio.Proofs.Render.Fragment
import Folio.Proofs.Render.Gathered
import Folio.Proofs.Render.Grouping
import Folio.Proofs.Render.Identity
import Folio.Proofs.Render.Isolation
import Folio.Proofs.Render.Layout
import Folio.Proofs.Render.Links
import Folio.Proofs.Render.Lookups
import Folio.Proofs.Render.Page
import Folio.Proofs.Render.Preorder
import Folio.Proofs.Render.Recording
import Folio.Proofs.Render.Refusal
import Folio.Proofs.Render.Settlement
import Folio.Proofs.Render.State
import Folio.Proofs.Render.Summary
import Folio.Proofs.Render.Trailers
import Folio.Proofs.Render.Warnings
import Folio.Proofs.Text.Delimited
import Folio.Proofs.Text.Lowercase
import Folio.Proofs.Text.ScriptLiteral
import Folio.Proofs.Tree.Errors
import Folio.Proofs.Tree.Grammar
import Folio.Proofs.Tree.Lenient
import Folio.Proofs.Tree.Versioned
import Folio.Render.Page
import Folio.Text.ScriptLiteral
import Folio.Tree.Preorder
import Folio.Tree.Versioned
