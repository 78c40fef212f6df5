import Folio.Proofs.Text.Delimited

/-! Characters replaced in a whole text, one after another. Each replacement goes through the text
anew, and so through everything that the ones before have put in. Where nothing that is put in holds a
character still to be replaced, all of them together are a single pass. -/
namespace Folio.Text

open ScriptLiteral (replace replace_absent replace_append)
open String.Slice.Pattern (SearchStep ToForwardSearcher)
open String.Slice.Pattern.Model (Char.isLongestMatchAt_iff Char.matchesAt_iff IsValidSearchFrom
  LawfulToForwardSearcherModel MatchesAt)

/-- What a search has come upon, behind the text that is there so far. -/
def putStep {slice : String.Slice} (other text : String) : SearchStep slice → String
  | .matched .. => text ++ other.toSlice
  | .rejected start stop => text ++ slice.slice! start stop

theorem toList_append_slice (text : String) (slice : String.Slice) :
    (text ++ slice).toList = text.toList ++ slice.copy.toList :=
  String.toList_append

theorem not_mem_slice {slice : String.Slice} {sign : Char} {start stop : slice.Pos}
    (ordered : start ≤ stop)
    (absent : ∀ place, start ≤ place → place < stop → ¬ MatchesAt sign place) :
    sign ∉ (slice.slice start stop ordered).copy.toList := by
  intro member
  obtain ⟨place, inside, same⟩ := String.Slice.mem_toList_copy_iff_exists_get.mp member
  rw [String.Slice.Pos.get_eq_get_ofSlice] at same
  refine absent _ String.Slice.Pos.le_ofSlice ?_ (Char.matchesAt_iff.mpr ⟨_, same⟩)
  simpa [String.Slice.Pos.ofSlice_lt_iff, ordered] using inside

/-- A search for a character, gone through from a place on, replaces it in what comes after. -/
theorem foldl_putStep {slice : String.Slice} {sign : Char} {start : slice.Pos}
    {steps : List (SearchStep slice)} (search : IsValidSearchFrom sign start steps)
    (other text before after : String) (splits : start.Splits before after) :
    (steps.foldl (putStep other) text).toList =
      text.toList ++ replace sign other.toList after.toList := by
  induction search generalizing text before after with
  | endPos =>
    obtain ⟨-, rfl⟩ := String.Slice.splits_endPos_iff.mp splits
    simp [replace]
  | @matched steps start stop found rest ih =>
    -- The sign itself: what is put for it follows the text so far.
    obtain ⟨inside, rfl, same⟩ := Char.isLongestMatchAt_iff.mp found
    obtain ⟨after, rfl⟩ := splits.exists_eq_singleton_append inside
    rw [List.foldl_cons, ih _ _ _ splits.next, putStep, toList_append_slice]
    simp [replace, same]
  | @mismatched steps start stop further absent rest ih =>
    -- A stretch without the sign is taken over as it stands.
    have ordered : start ≤ stop := Std.le_of_lt further
    obtain ⟨front, back, here, there⟩ :=
      String.Slice.copy_slice_eq_iff_splits.mp ⟨ordered, rfl⟩
    obtain ⟨rfl, rfl⟩ := splits.eq here
    rw [List.foldl_cons, ih _ _ _ there, putStep, toList_append_slice,
      ← String.Slice.slice_eq_slice!, String.toList_append, replace_append,
      replace_absent (not_mem_slice ordered absent), List.append_assoc]

theorem toList_replace (text : String) (sign : Char) (other : String) :
    (text.replace sign other).toList = replace sign other.toList text.toList := by
  have search : IsValidSearchFrom sign text.toSlice.startPos
      (ToForwardSearcher.toSearcher sign text.toSlice).toList :=
    LawfulToForwardSearcherModel.isValidSearchFrom_toList _
  have folded : text.replace sign other =
      (ToForwardSearcher.toSearcher sign text.toSlice).toList.foldl (putStep other) "" := by
    rw [Std.Iter.foldl_toList, String.replace, String.Slice.replace]
    congr 1
    funext text step
    cases step <;> rfl
  rw [folded, foldl_putStep search other "" "" _ (String.Slice.splits_startPos _)]
  simp

def replaceEach (table : List (Char × String)) (text : String) : String :=
  table.foldl (fun text row => text.replace row.1 row.2) text

def substitute (table : List (Char × String)) (c : Char) : List Char :=
  match table.lookup c with
  | some other => other.toList
  | none => [c]

/-- Nothing that a row puts in is replaced by a later one. -/
def Settled (table : List (Char × String)) : Prop :=
  table.Pairwise fun earlier later => later.1 ∉ earlier.2.toList

instance (table : List (Char × String)) : Decidable (Settled table) :=
  inferInstanceAs (Decidable (List.Pairwise _ _))

theorem flatMap_substitute_absent {table : List (Char × String)} {text : List Char}
    (absent : ∀ row ∈ table, row.1 ∉ text) : text.flatMap (substitute table) = text := by
  have kept : ∀ c ∈ text, substitute table c = [c] := by
    intro c member
    have missing : table.lookup c = none := by
      rw [List.lookup_eq_none_iff]
      intro row known
      rw [bne_iff_ne]
      rintro rfl
      exact absent row known member
    rw [substitute, missing]
  rw [List.flatMap_congr kept, List.flatMap_singleton']

theorem toList_replaceEach {table : List (Char × String)} (settled : Settled table)
    (text : String) :
    (replaceEach table text).toList = text.toList.flatMap (substitute table) := by
  induction table generalizing text with
  | nil =>
    rw [flatMap_substitute_absent (by simp)]
    rfl
  | cons row table ih =>
    obtain ⟨sign, other⟩ := row
    obtain ⟨here, later⟩ := List.pairwise_cons.mp settled
    have first : replaceEach ((sign, other) :: table) text =
        replaceEach table (text.replace sign other) := rfl
    rw [first, ih later, toList_replace, replace, List.flatMap_assoc]
    refine List.flatMap_congr fun c _ => ?_
    -- What the first row puts in is left alone, and what it passes on goes to the others.
    by_cases same : c = sign
    · have found : ((sign, other) :: table).lookup c = some other := by simp [same]
      rw [if_pos same, flatMap_substitute_absent here, substitute, found]
    · have passed : ((sign, other) :: table).lookup c = table.lookup c := by
        rw [List.lookup_cons, beq_false_of_ne same]
      rw [if_neg same, List.flatMap_singleton, substitute, substitute, passed]

end Folio.Text
