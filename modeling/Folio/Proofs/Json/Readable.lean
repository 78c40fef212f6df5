import Folio.Data.Display
import Folio.Proofs.Json.Number
import Folio.Proofs.Outcome
import Mathlib.Data.List.TakeWhile

/-! Values that a text can hold: no name twice in an object, and every number one that is read.
Whatever is read is such a value. -/
namespace Folio

mutual

def Value.Readable : Value → Prop
  | .int n => Json.WholeReadable n
  | .float x => x.Lowest
  | .list items => AllReadable items
  | .object fields => (fields.map Prod.fst).Nodup ∧ FieldsReadable fields
  | _ => True

def AllReadable : List Value → Prop
  | [] => True
  | item :: rest => item.Readable ∧ AllReadable rest

def FieldsReadable : Fields → Prop
  | [] => True
  | (_, value) :: rest => value.Readable ∧ FieldsReadable rest

end

namespace Json

open Number (Binary64 ofDigits)

theorem wholePart?_digits {text whole rest : List Char}
    (found : wholePart? text = some (whole, rest)) : AllDigits whole := by
  unfold wholePart? at found
  split at found
  · obtain ⟨rfl, _⟩ := Prod.mk.inj (Option.some.inj found)
    exact allDigits_zeros 1
  · split at found
    · next first _ _ digit =>
      obtain ⟨rfl, _⟩ := Prod.mk.inj (Option.some.inj found)
      intro c member
      rcases List.mem_cons.mp member with rfl | later
      · exact digit
      · exact List.mem_takeWhile_imp later
    · exact absurd found (by simp)
  · exact absurd found (by simp)

theorem wholeReadable_iff (n : Int) :
    WholeReadable n ↔ n.natAbs < Number.tenTo Number.digitLimit :=
  Number.digits_length_le_iff n.natAbs (by decide)

theorem readable_of_wholeNumber {negative : Bool} {whole : List Char} {value : Value}
    (all : AllDigits whole) (read : wholeNumber negative whole = .ok value) : value.Readable := by
  unfold wholeNumber at read
  split at read
  · simp at read
  · next few =>
    obtain rfl := Except.ok.inj read
    have size : (if negative then -(ofDigits whole : Int) else ofDigits whole).natAbs =
        ofDigits whole := by
      split <;> simp
    refine (wholeReadable_iff _).mpr ?_
    rw [size]
    exact Nat.lt_of_lt_of_le (Number.ofDigits_lt all)
      (Number.tenTo_le_tenTo (Nat.le_of_not_lt few))

theorem readable_of_readUnsigned? {negative : Bool} {text rest : List Char} {value : Value}
    (read : readUnsigned? negative text = some (.ok value, rest)) : value.Readable := by
  unfold readUnsigned? at read
  obtain ⟨⟨whole, behind⟩, first, read⟩ := Option.bind_eq_some_iff.mp read
  dsimp only at read
  split at read
  · exact readable_of_wholeNumber (wholePart?_digits first) (Prod.mk.inj (Option.some.inj read)).1
  · obtain rfl := Except.ok.inj (Prod.mk.inj (Option.some.inj read)).1
    exact Number.Binary64.lowest_ofDecimal _ _ _

theorem readable_of_readWord? {text : List Char} {found : Value × List Char}
    (worded : readWord? text = some found) : found.1.Readable := by
  have all : ∀ word ∈ words, word.2.Readable := by
    simp [words, Value.Readable, Binary64.Lowest]
  obtain ⟨word, member, matched⟩ := List.exists_of_findSome?_eq_some worded
  obtain ⟨rest, _, rfl⟩ := Option.map_eq_some_iff.mp matched
  exact all word member

theorem readable_of_readPlain {text rest : List Char} {value : Value}
    (read : readPlain text = .ok (value, rest)) : value.Readable := by
  unfold readPlain at read
  split at read
  · next worded =>
    obtain rfl := Except.ok.inj read
    exact readable_of_readWord? worded
  · split at read
    · next number others found =>
      cases number with
      | error stopped => simp [Except.map] at read
      | ok plain =>
        obtain ⟨rfl, _⟩ := Prod.mk.inj (Except.ok.inj read)
        unfold readNumber? at found
        split at found <;> exact readable_of_readUnsigned? found
    · simp [stop] at read

theorem key_of_mem_put {fields : Fields} {name key : String} {value : Value}
    (member : key ∈ (put fields name value).map Prod.fst) :
    key = name ∨ key ∈ fields.map Prod.fst := by
  induction fields with
  | nil => exact .inl (by simpa [put] using member)
  | cons field fields ih =>
    rw [put] at member
    split at member
    · exact .inr (by simpa using member)
    · rcases List.mem_cons.mp member with rfl | later
      · exact .inr (by simp)
      · exact (ih later).imp_right fun old => by simp [old]

theorem put_readable {fields : Fields} {value : Value} (name : String)
    (held : (Value.object fields).Readable) (readable : value.Readable) :
    (Value.object (put fields name value)).Readable := by
  induction fields with
  | nil => exact ⟨by simp [put], readable, trivial⟩
  | cons field fields ih =>
    obtain ⟨distinct, first, others⟩ := held
    obtain ⟨apart, distinct⟩ := List.nodup_cons.mp distinct
    rw [put]
    split
    · exact ⟨List.nodup_cons.mpr ⟨apart, distinct⟩, readable, others⟩
    · next other =>
      obtain ⟨kept, all⟩ := ih ⟨distinct, others⟩
      refine ⟨List.nodup_cons.mpr ⟨fun member => ?_, kept⟩, first, all⟩
      rcases key_of_mem_put member with same | old
      · exact other (by simpa using same)
      · exact apart old

theorem collapse_readable {fields : Fields} (readable : FieldsReadable fields) :
    (Value.object (collapse fields)).Readable := by
  have onto : ∀ (rest seen : Fields), FieldsReadable rest → (Value.object seen).Readable →
      (Value.object (rest.foldl (fun seen field => put seen field.1 field.2) seen)).Readable := by
    intro rest
    induction rest with
    | nil => exact fun seen _ held => held
    | cons field rest ih =>
      intro seen ⟨first, others⟩ held
      exact ih _ others (put_readable field.1 held first)
  exact onto fields [] readable ⟨.nil, trivial⟩

mutual

theorem readable_of_readValue : (fuel : Nat) → {text rest : List Char} → {value : Value} →
    readValue fuel text = .ok (value, rest) → value.Readable
  | 0, _, _, _, read => by simp [readValue, stop] at read
  | fuel + 1, text, rest, value, read => by
    unfold readValue at read
    split at read
    · obtain ⟨_, _, same⟩ := Outcome.map_eq_ok_iff.mp read
      obtain ⟨rfl, _⟩ := Prod.mk.inj same
      trivial
    · split at read
      · obtain ⟨rfl, _⟩ := Prod.mk.inj (Except.ok.inj read)
        trivial
      · obtain ⟨_, found, same⟩ := Outcome.map_eq_ok_iff.mp read
        obtain ⟨rfl, _⟩ := Prod.mk.inj same
        exact readable_of_readItems fuel found
    · split at read
      · obtain ⟨rfl, _⟩ := Prod.mk.inj (Except.ok.inj read)
        exact ⟨.nil, trivial⟩
      · obtain ⟨_, found, same⟩ := Outcome.map_eq_ok_iff.mp read
        obtain ⟨rfl, _⟩ := Prod.mk.inj same
        exact collapse_readable (readable_of_readFields fuel found)
    · exact readable_of_readPlain read

theorem readable_of_readItems : (fuel : Nat) → {text rest : List Char} → {items : List Value} →
    readItems fuel text = .ok (items, rest) → AllReadable items
  | 0, _, _, _, read => by simp [readItems, stop] at read
  | fuel + 1, text, rest, items, read => by
    unfold readItems at read
    obtain ⟨_, first, read⟩ := Outcome.bind_eq_ok_iff.mp read
    have readable := readable_of_readValue fuel first
    dsimp only at read
    split at read
    · obtain ⟨rfl, _⟩ := Prod.mk.inj (Except.ok.inj read)
      exact ⟨readable, trivial⟩
    · obtain ⟨_, others, read⟩ := Outcome.bind_eq_ok_iff.mp read
      obtain ⟨rfl, _⟩ := Prod.mk.inj (Except.ok.inj read)
      exact ⟨readable, readable_of_readItems fuel others⟩
    · simp [stop] at read

theorem readable_of_readFields : (fuel : Nat) → {text rest : List Char} → {fields : Fields} →
    readFields fuel text = .ok (fields, rest) → FieldsReadable fields
  | 0, _, _, _, read => by simp [readFields, stop] at read
  | fuel + 1, text, rest, fields, read => by
    unfold readFields at read
    obtain ⟨_, _, read⟩ := Outcome.bind_eq_ok_iff.mp read
    dsimp only at read
    split at read
    · obtain ⟨_, first, read⟩ := Outcome.bind_eq_ok_iff.mp read
      have readable := readable_of_readValue fuel first
      split at read
      · obtain ⟨rfl, _⟩ := Prod.mk.inj (Except.ok.inj read)
        exact ⟨readable, trivial⟩
      · obtain ⟨_, others, read⟩ := Outcome.bind_eq_ok_iff.mp read
        obtain ⟨rfl, _⟩ := Prod.mk.inj (Except.ok.inj read)
        exact ⟨readable, readable_of_readFields fuel others⟩
      · simp [stop] at read
    · simp [stop] at read

end

mutual

/-- Every number that can be read can be written. -/
theorem isWritable_of_readable : (value : Value) → value.Readable → value.isWritable = true
  | .int n, readable => by
    rw [Value.isWritable, Number.isWritable, decide_eq_true_iff]
    exact (wholeReadable_iff n).mp readable
  | .list items, readable => allWritable_of_readable items readable
  | .object fields, readable => fieldsWritable_of_readable fields readable.2
  | .null, _ | .bool _, _ | .float _, _ | .str _, _ => rfl

theorem allWritable_of_readable : (items : List Value) → AllReadable items →
    Value.allWritable items = true
  | [], _ => rfl
  | item :: rest, readable => by
    rw [Value.allWritable, isWritable_of_readable item readable.1,
      allWritable_of_readable rest readable.2]
    rfl

theorem fieldsWritable_of_readable : (fields : Fields) → FieldsReadable fields →
    Value.fieldsWritable fields = true
  | [], _ => rfl
  | (_, value) :: rest, readable => by
    rw [Value.fieldsWritable, isWritable_of_readable value readable.1,
      fieldsWritable_of_readable rest readable.2]
    rfl

end

end Json

end Folio
