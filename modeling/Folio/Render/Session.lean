import Folio.Assets.Catalogue
import Folio.Markup.Writer
import Folio.Noted
import Folio.Options.Page
import Folio.Render.State

/-! A rendering under way: the writer of its markup, the state it gathers and the notices it has
given. All three outlive a failure. -/
namespace Folio.Render

open Markup (Writer Writing)

structure Setting where
  options : Options.Page
  catalogue : Assets.Catalogue

structure Session where
  writer : Writer
  state : State
  notices : List Notice

abbrev Rendering := ExceptT Fault (StateM Session)

/-- How a rendering ended, with what it gathered and noticed. -/
structure Outcome where
  result : Except Fault String
  state : State
  notices : List Notice

namespace Rendering

-- The writer is taken out of the session while it works, so that it grows in place.
def write {α : Type} (step : Writing α) : Rendering α := do
  let writer ← modifyGet fun session => (session.writer, { session with writer := .empty })
  let (result, writer) := step.run writer
  modify fun session => { session with writer }
  MonadExcept.ofExcept result

def gather {α : Type} (step : State → α × State) : Rendering α := do
  let session ← get
  let (result, state) := step session.state
  set { session with state }
  pure result

def record (step : State → State) : Rendering Unit := gather fun state => ((), step state)

def note (notice : Notice) : Rendering Unit :=
  modify fun session => { session with notices := session.notices ++ [notice] }

def heed {α : Type} (work : Noted α) : Rendering α := do
  let (result, notices) := work.outcome
  modify fun session => { session with notices := session.notices ++ notices }
  MonadExcept.ofExcept result

/-- Runs a rendering with a writer of its own on a state gathered so far. -/
def outcome (rendering : Rendering String) (state : State) : Outcome :=
  let (result, session) := rendering.run.run ⟨.empty, state, []⟩
  ⟨result, session.state, session.notices⟩

end Rendering
end Folio.Render
