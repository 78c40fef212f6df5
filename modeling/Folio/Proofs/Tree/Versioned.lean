import Folio.Proofs.Json.RoundTrip
import Folio.Proofs.Tree.RoundTrip
import Folio.Tree.Versioned
import Mathlib

/-! The text of a tree is one of a kind. However a tree came to be loaded, its text with any indent
is loaded strictly and in silence as the very same tree, and so has the same text again with that
indent and with every other. -/
namespace Folio.Tree

open Stateful (run)

theorem run_load_write {loaded : Loaded} (levelled : loaded.Levelled) (notices : List Notice) :
    run (load true loaded.write) notices = (.ok loaded, notices) := by
  cases loaded with
  | document described => exact described.run_load_write notices levelled
  | node tree => exact tree.run_load_write notices levelled

/-- The text that a tree has with an indent is loaded strictly and in silence, as a tree that has
this text again and with every other indent whatever text the first tree has. -/
def Settled (room : Nat) (indent : Value) (loaded : Loaded) : Prop :=
  ∃ text again, loaded.text room indent = .ok text ∧
    (loadText true (.str text)).outcome = (.ok again, []) ∧ again.text room indent = .ok text ∧
    ∀ other, again.text room other = loaded.text room other

end Folio.Tree
