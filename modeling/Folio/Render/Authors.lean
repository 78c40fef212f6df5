import Folio.Fault

/-! Author names in a row. A single author is shown as given, of whatever kind; from two on, all are
displayed with a comma between them. -/
namespace Folio.Render

def joinNames (first : Value) : List Value → Except Fault Value
  | [] => .ok first
  | author :: rest => do
    let joined ← first.shown
    let name ← author.shown
    joinNames (.str (joined ++ ", " ++ name)) rest

/-- The authors taken from a value: they are looked up by place, which a list and a text allow. -/
def joinAuthors (authors : Value) : Except Fault Value :=
  match authors with
  | .list [] => .error .emptyList
  | .list (first :: rest) => joinNames first rest
  | .str text =>
    match text.toList.map fun c => Value.str (String.singleton c) with
    | [] => .error .emptyText
    | first :: rest => joinNames first rest
  | .object _ => .error (.missingKey "0")
  | value => .error (.notIndexable value.kind)

end Folio.Render
