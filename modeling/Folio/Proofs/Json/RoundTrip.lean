import Folio.Proofs.Json.Readable
import Folio.Proofs.Text.ScriptLiteral

/-! What is printed is read back as the very same value, in every layout whose units are blank, if the
value is one that a text can hold. -/
namespace Folio.Json

def Layout.Blank : Layout → Prop
  | .line => True
  | .indented unit => ∀ c ∈ unit, isSpace c = true

theorem isSpace_one : ∀ c ∈ [' '], isSpace c = true := by
  simp [isSpace]

theorem skipSpace_append {blank : List Char} (all : ∀ c ∈ blank, isSpace c = true)
    (rest : List Char) : skipSpace (blank ++ rest) = skipSpace rest :=
  List.dropWhile_append_of_pos all

theorem skipSpace_cons {c : Char} (visible : isSpace c = false) (rest : List Char) :
    skipSpace (c :: rest) = c :: rest :=
  List.dropWhile_cons_of_neg (by simp [visible])

namespace Layout

variable {layout : Layout}

theorem Blank.newLine (blank : layout.Blank) (depth : Nat) :
    ∀ c ∈ layout.newLine depth, isSpace c = true := by
  cases layout with
  | line => simp [Layout.newLine]
  | indented unit =>
    intro c member
    simp only [Layout.newLine, List.mem_cons, List.mem_flatten, List.mem_replicate] at member
    obtain rfl | ⟨_, ⟨_, rfl⟩, inside⟩ := member
    · rfl
    · exact blank c inside

theorem Blank.separator (blank : layout.Blank) (depth : Nat) :
    ∃ gap, layout.separator depth = ',' :: gap ∧ ∀ c ∈ gap, isSpace c = true := by
  cases layout with
  | line => exact ⟨[' '], rfl, by simp [isSpace]⟩
  | indented unit => exact ⟨_, rfl, blank.newLine depth⟩

theorem skipSpace_close (blank : layout.Blank) (depth : Nat) (bracket : Char)
    (visible : isSpace bracket = false) (rest : List Char) :
    skipSpace (layout.newLine depth ++ bracket :: rest) = bracket :: rest := by
  rw [skipSpace_append (blank.newLine depth), skipSpace_cons visible]

theorem endsNumber_close (layout : Layout) (depth : Nat) {bracket : Char} (ends : EndsNumber [bracket])
    (rest : List Char) : EndsNumber (layout.newLine depth ++ bracket :: rest) := by
  cases layout with
  | line => simpa [Layout.newLine, EndsNumber] using ends
  | indented unit => simp [Layout.newLine, EndsNumber, Number.isDigit]

end Layout

theorem readString_printChar (start rest : List Char) (next c : Char) :
    readString start (printChar c ++ next :: rest) =
      prepend c (readString start (next :: rest)) := by
  unfold printChar
  split
  case h_8 quote slash _ _ _ _ _ =>
    split
    · next control =>
      have unit := readString_unit start rest next (n := c.toNat) (by omega) (.inl (by omega))
      rw [Char.ofNat_toNat] at unit
      exact unit
    · next visible => exact readString_plain start _ c quote slash (by omega)
  all_goals exact readString_escape start _ _ _ (by decide) rfl

theorem readString_printString (text : String) (rest : List Char) :
    ∃ inner, printString text ++ rest = '"' :: inner ∧
      readString ('"' :: inner) inner = .ok (text.toList, rest) := by
  refine ⟨text.toList.flatMap printChar ++ '"' :: rest, by simp [printString], ?_⟩
  exact readString_text readString_printChar _ _ rest

theorem readName_printString (name : String) (rest : List Char) :
    readName (printString name ++ rest) = .ok (name, rest) := by
  obtain ⟨inner, shape, read⟩ := readString_printString name rest
  rw [shape, readName, read]
  simp [Except.map, String.ofList_toList]

theorem put_absent {fields : Fields} {name : String} (absent : name ∉ fields.map Prod.fst)
    (value : Value) : put fields name value = fields ++ [(name, value)] := by
  induction fields with
  | nil => rfl
  | cons field fields ih =>
    obtain ⟨first, other⟩ := field
    simp only [List.map_cons, List.mem_cons, not_or] at absent
    rw [put, if_neg (by simpa using Ne.symm absent.1), ih absent.2, List.cons_append]

theorem collapse_distinct {fields : Fields} (distinct : (fields.map Prod.fst).Nodup) :
    collapse fields = fields := by
  -- What was seen so far has other names than the fields that are left.
  have onto : ∀ (rest seen : Fields), ((seen ++ rest).map Prod.fst).Nodup →
      rest.foldl (fun seen field => put seen field.1 field.2) seen = seen ++ rest := by
    intro rest
    induction rest with
    | nil => simp
    | cons field rest ih =>
      intro seen apart
      obtain ⟨name, value⟩ := field
      have absent : name ∉ seen.map Prod.fst := by
        intro member
        rw [List.map_append, List.nodup_append'] at apart
        exact apart.2.2 member (by simp)
      rw [List.foldl_cons, put_absent absent, ih, List.append_assoc, List.singleton_append]
      simpa using apart
  exact onto fields [] distinct

section Reading

variable {fuel : Nat} {text middle later rest : List Char}

/-- What a plain value does not start with: what opens the other values or closes them, space and a
byte order mark. -/
def notPlain : List Char := ['"', '[', '{', ']', ' ', '\t', '\n', '\r', '\uFEFF']

theorem readPlain_head {value : Value} (read : readPlain text = .ok (value, rest)) :
    ∃ first more, text = first :: more ∧ first ∉ notPlain := by
  cases text with
  | nil =>
    simp [readPlain, readWord?, words, afterWord?, readNumber?, readUnsigned?, wholePart?, stop] at read
  | cons first more =>
    refine ⟨first, more, rfl, fun member => ?_⟩
    simp only [notPlain, List.mem_cons, List.not_mem_nil, or_false] at member
    rcases member with rfl | rfl | rfl | rfl | rfl | rfl | rfl | rfl | rfl <;>
      simp [readPlain, readWord?, words, afterWord?, readNumber?, readUnsigned?, wholePart?,
        Number.isDigit, stop] at read

theorem readValue_of_readPlain {value : Value} (read : readPlain text = .ok (value, rest)) :
    readValue (fuel + 1) text = .ok (value, rest) := by
  obtain ⟨first, more, rfl, plain⟩ := readPlain_head read
  unfold readValue
  split
  case h_4 => exact read
  all_goals
    next same =>
    obtain ⟨rfl, -⟩ := List.cons_eq_cons.mp same
    exact absurd (by simp [notPlain]) plain

theorem readValue_head {value : Value} (read : readValue fuel text = .ok (value, rest)) :
    ∃ first more, text = first :: more ∧ isSpace first = false ∧ first ≠ ']' ∧ first ≠ '\uFEFF' := by
  cases fuel with
  | zero => simp [readValue, stop] at read
  | succ fuel =>
    unfold readValue at read
    split at read
    · exact ⟨_, _, rfl, by decide⟩
    · exact ⟨_, _, rfl, by decide⟩
    · exact ⟨_, _, rfl, by decide⟩
    · obtain ⟨first, more, rfl, plain⟩ := readPlain_head read
      simp only [notPlain, List.mem_cons, List.not_mem_nil, or_false, not_or] at plain
      obtain ⟨_, _, _, bracket, space, tab, line, carriage, mark⟩ := plain
      exact ⟨first, more, rfl, by simp [isSpace, space, tab, line, carriage], bracket, mark⟩

theorem readValue_spaced {space : List Char} {value : Value} (blank : ∀ c ∈ space, isSpace c = true)
    (read : readValue fuel text = .ok (value, rest)) :
    readValue fuel (skipSpace (space ++ text)) = .ok (value, rest) := by
  obtain ⟨first, more, rfl, visible, _⟩ := readValue_head read
  rwa [skipSpace_append blank, skipSpace_cons visible]

theorem readItems_last {item : Value} (read : readValue fuel text = .ok (item, middle))
    (closed : skipSpace middle = ']' :: rest) :
    readItems (fuel + 1) text = .ok ([item], rest) := by
  simp [readItems, read, closed, bind, Except.bind]

theorem readItems_more {item : Value} {items : List Value}
    (read : readValue fuel text = .ok (item, middle)) (goes : skipSpace middle = ',' :: later)
    (others : readItems fuel (skipSpace later) = .ok (items, rest)) :
    readItems (fuel + 1) text = .ok (item :: items, rest) := by
  simp [readItems, read, goes, others, bind, Except.bind]

theorem readItems_head {items : List Value} (read : readItems fuel text = .ok (items, rest)) :
    ∃ first more, text = first :: more ∧ isSpace first = false ∧ first ≠ ']' ∧ first ≠ '\uFEFF' := by
  cases fuel with
  | zero => simp [readItems, stop] at read
  | succ fuel =>
    unfold readItems at read
    cases first : readValue fuel text with
    | error stopped => simp [first, bind, Except.bind] at read
    | ok found => exact readValue_head first

theorem readValue_list {space : List Char} {items : List Value}
    (blank : ∀ c ∈ space, isSpace c = true) (read : readItems fuel text = .ok (items, rest)) :
    readValue (fuel + 1) ('[' :: (space ++ text)) = .ok (.list items, rest) := by
  obtain ⟨first, more, rfl, visible, unclosed, _⟩ := readItems_head read
  unfold readValue
  simp only
  rw [skipSpace_append blank, skipSpace_cons visible]
  split
  · next same => exact absurd (List.cons.inj same).1 unclosed
  · rw [read]
    rfl

theorem readItems_spaced {space : List Char} {items : List Value}
    (blank : ∀ c ∈ space, isSpace c = true) (read : readItems fuel text = .ok (items, rest)) :
    readItems fuel (skipSpace (space ++ text)) = .ok (items, rest) := by
  obtain ⟨first, more, rfl, visible, _⟩ := readItems_head read
  rwa [skipSpace_append blank, skipSpace_cons visible]

theorem readFields_last {name : String} {value : Value} {mark : List Char}
    (named : readName text = .ok (name, mark)) (colon : skipSpace mark = ':' :: later)
    (read : readValue fuel (skipSpace later) = .ok (value, middle))
    (closed : skipSpace middle = '}' :: rest) :
    readFields (fuel + 1) text = .ok ([(name, value)], rest) := by
  simp [readFields, named, colon, read, closed, bind, Except.bind]

theorem readFields_more {name : String} {value : Value} {fields : Fields} {mark next : List Char}
    (named : readName text = .ok (name, mark)) (colon : skipSpace mark = ':' :: later)
    (read : readValue fuel (skipSpace later) = .ok (value, middle))
    (goes : skipSpace middle = ',' :: next)
    (others : readFields fuel (skipSpace next) = .ok (fields, rest)) :
    readFields (fuel + 1) text = .ok ((name, value) :: fields, rest) := by
  simp [readFields, named, colon, read, goes, others, bind, Except.bind]

theorem readFields_head {fields : Fields} (read : readFields fuel text = .ok (fields, rest)) :
    ∃ more, text = '"' :: more := by
  cases fuel with
  | zero => simp [readFields, stop] at read
  | succ fuel =>
    unfold readFields at read
    unfold readName at read
    split at read
    · exact ⟨_, rfl⟩
    · simp [stop, bind, Except.bind] at read

theorem readFields_spaced {space : List Char} {fields : Fields}
    (blank : ∀ c ∈ space, isSpace c = true) (read : readFields fuel text = .ok (fields, rest)) :
    readFields fuel (skipSpace (space ++ text)) = .ok (fields, rest) := by
  obtain ⟨more, rfl⟩ := readFields_head read
  rwa [skipSpace_append blank, skipSpace_cons rfl]

theorem readValue_object {space : List Char} {fields : Fields}
    (blank : ∀ c ∈ space, isSpace c = true)
    (read : readFields fuel text = .ok (fields, rest)) :
    readValue (fuel + 1) ('{' :: (space ++ text)) = .ok (.object (collapse fields), rest) := by
  obtain ⟨more, rfl⟩ := readFields_head read
  unfold readValue
  simp only
  rw [skipSpace_append blank, skipSpace_cons rfl]
  simp [read, Except.map]

end Reading

def printRow (layout : Layout) (depth : Nat) : List Value → List Char
  | [] => []
  | item :: rest => printValue layout depth item ++ printItems layout depth rest

def printFieldRow (layout : Layout) (depth : Nat) : Fields → List Char
  | [] => []
  | (name, value) :: rest => printString name ++ [':', ' '] ++ printValue layout depth value ++
      printFields layout depth rest

theorem printItems_cons {layout : Layout} (blank : layout.Blank) (depth : Nat) (item : Value)
    (rest : List Value) : ∃ gap, (∀ c ∈ gap, isSpace c = true) ∧
      printItems layout depth (item :: rest) =
        ',' :: (gap ++ printRow layout depth (item :: rest)) := by
  obtain ⟨gap, shape, space⟩ := blank.separator depth
  exact ⟨gap, space, by simp [printItems, printRow, shape]⟩

theorem printFields_cons {layout : Layout} (blank : layout.Blank) (depth : Nat)
    (field : String × Value) (rest : Fields) : ∃ gap, (∀ c ∈ gap, isSpace c = true) ∧
      printFields layout depth (field :: rest) =
        ',' :: (gap ++ printFieldRow layout depth (field :: rest)) := by
  obtain ⟨gap, shape, space⟩ := blank.separator depth
  exact ⟨gap, space, by simp [printFields, printFieldRow, shape]⟩

theorem endsNumber_items {layout : Layout} (blank : layout.Blank) (depth : Nat) (rest : List Value)
    (tail : List Char) :
    EndsNumber (printItems layout (depth + 1) rest ++ (layout.newLine depth ++ ']' :: tail)) := by
  cases rest with
  | nil => exact layout.endsNumber_close depth (by simp [EndsNumber, Number.isDigit]) tail
  | cons item rest =>
    obtain ⟨gap, _, shape⟩ := printItems_cons blank (depth + 1) item rest
    simp [shape, EndsNumber, Number.isDigit]

theorem endsNumber_fields {layout : Layout} (blank : layout.Blank) (depth : Nat) (rest : Fields)
    (tail : List Char) :
    EndsNumber (printFields layout (depth + 1) rest ++ (layout.newLine depth ++ '}' :: tail)) := by
  cases rest with
  | nil => exact layout.endsNumber_close depth (by simp [EndsNumber, Number.isDigit]) tail
  | cons field rest =>
    obtain ⟨gap, _, shape⟩ := printFields_cons blank (depth + 1) field rest
    simp [shape, EndsNumber, Number.isDigit]

theorem printValue_list (layout : Layout) (depth : Nat) (item : Value) (rest : List Value)
    (tail : List Char) :
    printValue layout depth (.list (item :: rest)) ++ tail =
      '[' :: (layout.newLine (depth + 1) ++ (printRow layout (depth + 1) (item :: rest) ++
        (layout.newLine depth ++ ']' :: tail))) := by
  simp [printValue, printRow]

theorem printValue_object (layout : Layout) (depth : Nat) (field : String × Value) (rest : Fields)
    (tail : List Char) :
    printValue layout depth (.object (field :: rest)) ++ tail =
      '{' :: (layout.newLine (depth + 1) ++ (printFieldRow layout (depth + 1) (field :: rest) ++
        (layout.newLine depth ++ '}' :: tail))) := by
  simp [printValue, printFieldRow]

theorem length_pos_of_readPlain {text rest : List Char} {value : Value}
    (read : readPlain (text ++ []) = .ok (value, rest)) : 0 < text.length := by
  obtain ⟨first, more, shape, _⟩ := readPlain_head read
  rw [List.append_nil] at shape
  simp [shape]

theorem printValue_length_pos (layout : Layout) (depth : Nat) {value : Value}
    (readable : value.Readable) : 0 < (printValue layout depth value).length := by
  cases value with
  | null => simp [printValue]
  | bool b => cases b <;> simp [printValue]
  | int n => exact length_pos_of_readPlain (readPlain_int readable endsNumber_nil)
  | float x => exact length_pos_of_readPlain (readPlain_float readable endsNumber_nil)
  | str s => simp [printValue, printString]
  | list items => cases items <;> simp [printValue]
  | object fields => cases fields <;> simp [printValue]

mutual

/-- A printed value is read up to its end. Twice the length of its text is enough fuel. -/
theorem readValue_printValue {layout : Layout} (blank : layout.Blank) : (value : Value) →
    value.Readable → (depth fuel : Nat) → {rest : List Char} → EndsNumber rest →
    2 * (printValue layout depth value).length ≤ fuel + 1 →
    readValue (fuel + 1) (printValue layout depth value ++ rest) = .ok (value, rest)
  | .null, _, _, _, _, _, _ => rfl
  | .bool true, _, _, _, _, _, _ => rfl
  | .bool false, _, _, _, _, _, _ => rfl
  | .int _, readable, _, _, _, ends, _ => readValue_of_readPlain (readPlain_int readable ends)
  | .float _, readable, _, _, _, ends, _ => readValue_of_readPlain (readPlain_float readable ends)
  | .str text, _, depth, fuel, rest, _, _ => by
    obtain ⟨inner, shape, read⟩ := readString_printString text rest
    rw [printValue, shape, readValue]
    simp [read, Except.map, String.ofList_toList]
  | .list [], _, _, _, _, _, _ => rfl
  | .list (item :: rest), readable, depth, fuel, tail, _, enough => by
    have size := congrArg List.length (printValue_list layout depth item rest [])
    simp only [List.length_append, List.length_cons] at size
    have row := readItems_printRow blank (item :: rest) (by simp) readable depth fuel tail (by omega)
    rw [printValue_list]
    exact readValue_list (blank.newLine (depth + 1)) row
  | .object [], _, _, _, _, _, _ => rfl
  | .object (field :: rest), ⟨distinct, readable⟩, depth, fuel, tail, _, enough => by
    have size := congrArg List.length (printValue_object layout depth field rest [])
    simp only [List.length_append, List.length_cons] at size
    have row := readFields_printFieldRow blank (field :: rest) (by simp) readable depth fuel tail
      (by omega)
    rw [printValue_object]
    have read := readValue_object (blank.newLine (depth + 1)) row
    -- Names are distinct, so collapsing changes nothing.
    rwa [collapse_distinct distinct] at read

theorem readItems_printRow {layout : Layout} (blank : layout.Blank) : (items : List Value) →
    items ≠ [] → AllReadable items → (depth fuel : Nat) → (tail : List Char) →
    2 * (printRow layout (depth + 1) items).length + 1 ≤ fuel →
    readItems fuel (printRow layout (depth + 1) items ++ (layout.newLine depth ++ ']' :: tail)) =
      .ok (items, tail)
  | [], filled, _, _, _, _, _ => absurd rfl filled
  | [item], _, ⟨readable, _⟩, depth, fuel, tail, enough => by
    have size := printValue_length_pos layout (depth + 1) readable
    simp only [printRow, printItems, List.append_nil] at enough ⊢
    obtain ⟨fuel, rfl⟩ : ∃ less, fuel = less + 2 := ⟨fuel - 2, by omega⟩
    have ends := endsNumber_items blank depth [] tail
    exact readItems_last (readValue_printValue blank item readable (depth + 1) fuel ends (by omega))
      (Layout.skipSpace_close blank depth ']' rfl tail)
  | item :: next :: rest, _, ⟨readable, others⟩, depth, fuel, tail, enough => by
    have size := printValue_length_pos layout (depth + 1) readable
    have ends := endsNumber_items blank depth (next :: rest) tail
    obtain ⟨gap, space, shape⟩ := printItems_cons blank (depth + 1) next rest
    rw [printRow, shape] at enough
    simp only [List.length_append, List.length_cons] at enough
    obtain ⟨fuel, rfl⟩ : ∃ less, fuel = less + 2 := ⟨fuel - 2, by omega⟩
    rw [shape, List.cons_append, List.append_assoc] at ends
    rw [printRow, List.append_assoc, shape, List.cons_append, List.append_assoc]
    have first := readValue_printValue blank item readable (depth + 1) fuel ends (by omega)
    have row := readItems_printRow blank (next :: rest) (by simp) others depth (fuel + 1) tail
      (by omega)
    exact readItems_more first (skipSpace_cons rfl _) (readItems_spaced space row)

theorem readFields_printFieldRow {layout : Layout} (blank : layout.Blank) : (fields : Fields) →
    fields ≠ [] → FieldsReadable fields → (depth fuel : Nat) → (tail : List Char) →
    2 * (printFieldRow layout (depth + 1) fields).length + 1 ≤ fuel →
    readFields fuel (printFieldRow layout (depth + 1) fields ++
      (layout.newLine depth ++ '}' :: tail)) = .ok (fields, tail)
  | [], filled, _, _, _, _, _ => absurd rfl filled
  | [(name, value)], _, ⟨readable, _⟩, depth, fuel, tail, enough => by
    have size := printValue_length_pos layout (depth + 1) readable
    simp only [printFieldRow, printFields, List.append_nil, List.length_append] at enough
    obtain ⟨fuel, rfl⟩ : ∃ less, fuel = less + 2 := ⟨fuel - 2, by omega⟩
    have ends := endsNumber_fields blank depth [] tail
    have read := readValue_printValue blank value readable (depth + 1) fuel ends (by omega)
    have closed := Layout.skipSpace_close blank depth '}' rfl tail
    simp only [printFieldRow, List.append_assoc]
    exact readFields_last (readName_printString name _) (skipSpace_cons rfl _)
      (readValue_spaced isSpace_one read) closed
  | (name, value) :: next :: rest, _, ⟨readable, others⟩, depth, fuel, tail, enough => by
    have size := printValue_length_pos layout (depth + 1) readable
    have ends := endsNumber_fields blank depth (next :: rest) tail
    obtain ⟨gap, space, shape⟩ := printFields_cons blank (depth + 1) next rest
    rw [printFieldRow, shape] at enough
    simp only [List.length_append, List.length_cons] at enough
    obtain ⟨fuel, rfl⟩ : ∃ less, fuel = less + 2 := ⟨fuel - 2, by omega⟩
    have read := readValue_printValue blank value readable (depth + 1) fuel ends (by omega)
    have goes : skipSpace (printFields layout (depth + 1) (next :: rest) ++
        (layout.newLine depth ++ '}' :: tail)) = ',' :: (gap ++
          (printFieldRow layout (depth + 1) (next :: rest) ++
            (layout.newLine depth ++ '}' :: tail))) := by
      rw [shape, List.cons_append, List.append_assoc, skipSpace_cons rfl]
    have row := readFields_printFieldRow blank (next :: rest) (by simp) others depth (fuel + 1) tail
      (by omega)
    rw [printFieldRow]
    simp only [List.append_assoc]
    exact readFields_more (readName_printString name _) (skipSpace_cons rfl _)
      (readValue_spaced isSpace_one read) goes (readFields_spaced space row)

end

end Folio.Json
