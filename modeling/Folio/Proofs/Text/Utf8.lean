import Folio.Proofs.Outcome
import Folio.Proofs.Text.Lowercase
import Folio.Text.Utf8

/-! UTF-8 is read exactly: what is read as a text are the bytes of that text and no others. First
bytes fall into eight sorts; each says which bytes may follow, and with these a character is spelled
out. -/
namespace Folio.Text.Utf8

/-- First bytes with the bounds of the bytes that they ask for and the bits that they bring along. -/
inductive Lead : Nat → List (Nat × Nat) → Nat → Prop
  | one {bits : Nat} (most : bits < 0x80) : Lead bits [] bits
  | two {bits : Nat} (least : 2 ≤ bits) (most : bits < 0x20) : Lead (bits + 0xC0) [tail] bits
  | lowThree : Lead 0xE0 [(0xA0, 0xBF), tail] 0
  | three {bits : Nat} (least : 0 < bits) (most : bits < 0x10) (other : bits ≠ 0xD) :
      Lead (bits + 0xE0) [tail, tail] bits
  | cutThree : Lead 0xED [(0x80, 0x9F), tail] 0xD
  | lowFour : Lead 0xF0 [(0x90, 0xBF), tail, tail] 0
  | four {bits : Nat} (least : 0 < bits) (most : bits < 4) :
      Lead (bits + 0xF0) [tail, tail, tail] bits
  | cutFour : Lead 0xF4 [(0x80, 0x8F), tail, tail] 4

theorem lead_of_lead? {byte bits : Nat} {owed : List (Nat × Nat)}
    (found : lead? byte = some (owed, bits)) : Lead byte owed bits := by
  -- The bounds are tried from below, so each case has the ones before it ruled out.
  simp only [lead?, beq_iff_eq] at found
  by_cases low : byte < 0x80
  · rw [if_pos low] at found
    cases found
    exact .one low
  rw [if_neg low] at found
  by_cases stray : byte < 0xC2
  · rw [if_pos stray] at found
    cases found
  rw [if_neg stray] at found
  by_cases two : byte < 0xE0
  · rw [if_pos two] at found
    cases found
    have lead : Lead (byte - 0xC0 + 0xC0) [tail] (byte - 0xC0) := .two (by omega) (by omega)
    rwa [Nat.sub_add_cancel (by omega)] at lead
  rw [if_neg two] at found
  by_cases three : byte = 0xE0
  · rw [if_pos three] at found
    cases found
    exact three ▸ .lowThree
  rw [if_neg three] at found
  by_cases cut : byte = 0xED
  · rw [if_pos cut] at found
    cases found
    exact cut ▸ .cutThree
  rw [if_neg cut] at found
  by_cases more : byte < 0xF0
  · rw [if_pos more] at found
    cases found
    have lead : Lead (byte - 0xE0 + 0xE0) [tail, tail] (byte - 0xE0) :=
      .three (by omega) (by omega) (by omega)
    rwa [Nat.sub_add_cancel (by omega)] at lead
  rw [if_neg more] at found
  by_cases four : byte = 0xF0
  · rw [if_pos four] at found
    cases found
    exact four ▸ .lowFour
  rw [if_neg four] at found
  by_cases longer : byte < 0xF4
  · rw [if_pos longer] at found
    cases found
    have lead : Lead (byte - 0xF0 + 0xF0) [tail, tail, tail] (byte - 0xF0) :=
      .four (by omega) (by omega)
    rwa [Nat.sub_add_cancel (by omega)] at lead
  rw [if_neg longer] at found
  by_cases last : byte = 0xF4
  · rw [if_pos last] at found
    cases found
    exact last ▸ .cutFour
  rw [if_neg last] at found
  cases found

theorem Lead.lead?_eq {byte bits : Nat} {owed : List (Nat × Nat)} (lead : Lead byte owed bits) :
    lead? byte = some (owed, bits) := by
  simp only [lead?, beq_iff_eq]
  cases lead with
  | one most => rw [if_pos most]
  | two least most =>
    rw [if_neg (by omega), if_neg (by omega), if_pos (by omega), Nat.add_sub_cancel]
  | lowThree | cutThree | lowFour | cutFour => rfl
  | three least most other =>
    rw [if_neg (by omega), if_neg (by omega), if_neg (by omega), if_neg (by omega),
      if_neg (by omega), if_pos (by omega), Nat.add_sub_cancel]
  | four least most =>
    rw [if_neg (by omega), if_neg (by omega), if_neg (by omega), if_neg (by omega),
      if_neg (by omega), if_neg (by omega), if_neg (by omega), if_pos (by omega),
      Nat.add_sub_cancel]

def units (n : Nat) : List Nat :=
  if n ≤ 0x7F then [n]
  else if n ≤ 0x7FF then [n / 64 % 32 + 0xC0, n % 64 + 0x80]
  else if n ≤ 0xFFFF then [n / 4096 % 16 + 0xE0, n / 64 % 64 + 0x80, n % 64 + 0x80]
  else [n / 262144 % 8 + 0xF0, n / 4096 % 64 + 0x80, n / 64 % 64 + 0x80, n % 64 + 0x80]

theorem isValidChar_iff (n : Nat) :
    n.isValidChar ↔ n < 0xD800 ∨ 0xDFFF < n ∧ n < 0x110000 := Iff.rfl

theorem map_utf8EncodeChar (c : Char) :
    (String.utf8EncodeChar c).map UInt8.toNat = units c.toNat := by
  have valid := (isValidChar_iff c.toNat).mp c.valid
  have same : c.val.toNat = c.toNat := rfl
  simp only [String.utf8EncodeChar, units, same]
  generalize c.toNat = n at valid ⊢
  split_ifs <;>
    simp only [List.map_cons, List.map_nil, UInt8.toNat_ofNat', List.cons.injEq, and_true] <;>
    omega

def Within (byte : Nat) (bounds : Nat × Nat) : Prop := bounds.1 ≤ byte ∧ byte ≤ bounds.2

theorem within_iff (byte low high : Nat) : Within byte (low, high) ↔ low ≤ byte ∧ byte ≤ high :=
  Iff.rfl

theorem within_tail_iff (byte : Nat) : Within byte tail ↔ 0x80 ≤ byte ∧ byte ≤ 0xBF :=
  within_iff byte 0x80 0xBF

@[irreducible] def joined (bits byte : Nat) : Nat := bits * 64 + (byte - 0x80)

theorem joined_eq (bits byte : Nat) : joined bits byte = bits * 64 + (byte - 0x80) := by
  unfold joined
  rfl

def bitsAfter (bits : Nat) (more : List Nat) : Nat := more.foldl joined bits

theorem bitsAfter_cons (bits byte : Nat) (more : List Nat) :
    bitsAfter bits (byte :: more) = bitsAfter (joined bits byte) more := rfl

theorem bitsAfter_one (bits b : Nat) : bitsAfter bits [b] = bits * 64 + (b - 0x80) := by
  simp only [bitsAfter, List.foldl_cons, List.foldl_nil, joined_eq]

theorem bitsAfter_two (bits b c : Nat) :
    bitsAfter bits [b, c] = (bits * 64 + (b - 0x80)) * 64 + (c - 0x80) := by
  simp only [bitsAfter, List.foldl_cons, List.foldl_nil, joined_eq]

theorem bitsAfter_three (bits b c d : Nat) :
    bitsAfter bits [b, c, d] =
      ((bits * 64 + (b - 0x80)) * 64 + (c - 0x80)) * 64 + (d - 0x80) := by
  simp only [bitsAfter, List.foldl_cons, List.foldl_nil, joined_eq]

theorem spells_one {n : Nat} (most : n < 0x80) : n.isValidChar ∧ units n = [n] := by
  rw [isValidChar_iff, units, if_pos (by omega)]
  exact ⟨by omega, rfl⟩

theorem spells_two {high b : Nat} (long : 2 ≤ high) (most : high ≤ 0x1F) (one : Within b tail) :
    (bitsAfter high [b]).isValidChar ∧ units (bitsAfter high [b]) = [high + 0xC0, b] := by
  obtain ⟨low, up⟩ := (within_tail_iff b).mp one
  have spelled := bitsAfter_one high b
  generalize bitsAfter high [b] = n at spelled
  rw [isValidChar_iff, units, if_neg (by omega), if_pos (by omega)]
  have first : n / 64 % 32 = high := by omega
  have last : n % 64 + 0x80 = b := by omega
  rw [first, last]
  exact ⟨by omega, rfl⟩

/-- Three bytes are too many for a small code point, and there is none between the two halves. -/
theorem spells_three {high b c : Nat} (most : high ≤ 0xF) (one : Within b tail) (two : Within c tail)
    (long : high ≠ 0 ∨ 0xA0 ≤ b) (apart : high ≠ 0xD ∨ b ≤ 0x9F) :
    (bitsAfter high [b, c]).isValidChar ∧
      units (bitsAfter high [b, c]) = [high + 0xE0, b, c] := by
  obtain ⟨low, up⟩ := (within_tail_iff b).mp one
  obtain ⟨low', up'⟩ := (within_tail_iff c).mp two
  have spelled := bitsAfter_two high b c
  generalize bitsAfter high [b, c] = n at spelled
  rw [isValidChar_iff, units, if_neg (by omega), if_neg (by omega), if_pos (by omega)]
  have first : n / 4096 % 16 = high := by omega
  have second : n / 64 % 64 + 0x80 = b := by omega
  have last : n % 64 + 0x80 = c := by omega
  rw [first, second, last]
  exact ⟨by omega, rfl⟩

theorem spells_four {high b c d : Nat} (one : Within b tail) (two : Within c tail)
    (three : Within d tail) (long : high ≠ 0 ∨ 0x90 ≤ b) (most : high < 4 ∨ high = 4 ∧ b ≤ 0x8F) :
    (bitsAfter high [b, c, d]).isValidChar ∧
      units (bitsAfter high [b, c, d]) = [high + 0xF0, b, c, d] := by
  obtain ⟨low, up⟩ := (within_tail_iff b).mp one
  obtain ⟨low', up'⟩ := (within_tail_iff c).mp two
  obtain ⟨low'', up''⟩ := (within_tail_iff d).mp three
  have spelled := bitsAfter_three high b c d
  generalize bitsAfter high [b, c, d] = n at spelled
  rw [isValidChar_iff, units, if_neg (by omega), if_neg (by omega), if_neg (by omega)]
  have first : n / 262144 % 8 = high := by omega
  have second : n / 4096 % 64 + 0x80 = b := by omega
  have third : n / 64 % 64 + 0x80 = c := by omega
  have last : n % 64 + 0x80 = d := by omega
  rw [first, second, third, last]
  exact ⟨by omega, rfl⟩

/-- The bytes that were asked for, one for each of the bounds. -/
abbrev Follow (more : List Nat) (owed : List (Nat × Nat)) : Prop := List.Forall₂ Within more owed

theorem follow_one {more : List Nat} {x : Nat × Nat} :
    Follow more [x] ↔ ∃ b, more = [b] ∧ Within b x := by
  simp [Follow, List.forall₂_cons_right_iff, and_comm]

theorem follow_two {more : List Nat} {x y : Nat × Nat} :
    Follow more [x, y] ↔ ∃ b c, more = [b, c] ∧ Within b x ∧ Within c y := by
  constructor
  · rintro (_ | ⟨one, _ | ⟨two, _ | _⟩⟩)
    exact ⟨_, _, rfl, one, two⟩
  · rintro ⟨b, c, rfl, one, two⟩
    exact .cons one (.cons two .nil)

theorem follow_three {more : List Nat} {x y z : Nat × Nat} :
    Follow more [x, y, z] ↔ ∃ b c d, more = [b, c, d] ∧ Within b x ∧ Within c y ∧ Within d z := by
  constructor
  · rintro (_ | ⟨one, _ | ⟨two, _ | ⟨three, _ | _⟩⟩⟩)
    exact ⟨_, _, _, rfl, one, two, three⟩
  · rintro ⟨b, c, d, rfl, one, two, three⟩
    exact .cons one (.cons two (.cons three .nil))

theorem Lead.spells {byte bits : Nat} {owed : List (Nat × Nat)} (lead : Lead byte owed bits)
    {more : List Nat} (follow : Follow more owed) :
    (bitsAfter bits more).isValidChar ∧ units (bitsAfter bits more) = byte :: more := by
  cases lead with
  | one most =>
    obtain rfl := List.forall₂_nil_right_iff.mp follow
    exact spells_one most
  | two least most =>
    obtain ⟨b, rfl, one⟩ := follow_one.mp follow
    exact spells_two least (by omega) one
  | lowThree =>
    obtain ⟨b, c, rfl, one, two⟩ := follow_two.mp follow
    obtain ⟨low, up⟩ := (within_iff b _ _).mp one
    exact spells_three (by omega) ((within_tail_iff b).mpr ⟨by omega, up⟩) two (.inr low)
      (.inl (by omega))
  | three least most other =>
    obtain ⟨b, c, rfl, one, two⟩ := follow_two.mp follow
    exact spells_three (by omega) one two (.inl (by omega)) (.inl other)
  | cutThree =>
    obtain ⟨b, c, rfl, one, two⟩ := follow_two.mp follow
    obtain ⟨low, up⟩ := (within_iff b _ _).mp one
    exact spells_three (by omega) ((within_tail_iff b).mpr ⟨low, by omega⟩) two (.inl (by omega))
      (.inr up)
  | lowFour =>
    obtain ⟨b, c, d, rfl, one, two, three⟩ := follow_three.mp follow
    obtain ⟨low, up⟩ := (within_iff b _ _).mp one
    exact spells_four ((within_tail_iff b).mpr ⟨by omega, up⟩) two three (.inr low)
      (.inl (by omega))
  | four least most =>
    obtain ⟨b, c, d, rfl, one, two, three⟩ := follow_three.mp follow
    exact spells_four one two three (.inl (by omega)) (.inl most)
  | cutFour =>
    obtain ⟨b, c, d, rfl, one, two, three⟩ := follow_three.mp follow
    obtain ⟨low, up⟩ := (within_iff b _ _).mp one
    exact spells_four ((within_tail_iff b).mpr ⟨low, by omega⟩) two three (.inl (by omega))
      (.inr ⟨rfl, up⟩)

theorem within_tail_mod (n : Nat) : Within (n % 64 + 0x80) tail := by
  rw [within_tail_iff]
  omega

theorem exists_lead {n : Nat} (valid : n.isValidChar) :
    ∃ byte owed bits more, Lead byte owed bits ∧ Follow more owed ∧ bitsAfter bits more = n := by
  -- The size tells how many bytes there are, and the leading bits which sort the first one is.
  have bounds := (isValidChar_iff n).mp valid
  have last := within_tail_mod n
  have third := within_tail_mod (n / 64)
  by_cases one : n < 0x80
  · exact ⟨n, [], n, [], .one one, .nil, rfl⟩
  by_cases two : n < 0x800
  · have spelled : bitsAfter (n / 64) [n % 64 + 0x80] = n := by
      rw [bitsAfter_one]
      omega
    exact ⟨_, _, _, _, .two (by omega) (by omega), follow_one.mpr ⟨_, rfl, last⟩, spelled⟩
  by_cases three : n < 0x10000
  · have spelled : bitsAfter (n / 4096) [n / 64 % 64 + 0x80, n % 64 + 0x80] = n := by
      rw [bitsAfter_two]
      omega
    by_cases low : n / 4096 = 0
    · have first : Within (n / 64 % 64 + 0x80) (0xA0, 0xBF) := by
        rw [within_iff]
        omega
      rw [low] at spelled
      exact ⟨_, _, _, _, .lowThree, follow_two.mpr ⟨_, _, rfl, first, last⟩, spelled⟩
    by_cases cut : n / 4096 = 0xD
    · have first : Within (n / 64 % 64 + 0x80) (0x80, 0x9F) := by
        rw [within_iff]
        omega
      rw [cut] at spelled
      exact ⟨_, _, _, _, .cutThree, follow_two.mpr ⟨_, _, rfl, first, last⟩, spelled⟩
    · exact ⟨_, _, _, _, .three (by omega) (by omega) cut,
        follow_two.mpr ⟨_, _, rfl, third, last⟩, spelled⟩
  · have spelled :
        bitsAfter (n / 262144) [n / 4096 % 64 + 0x80, n / 64 % 64 + 0x80, n % 64 + 0x80] = n := by
      rw [bitsAfter_three]
      omega
    by_cases low : n / 262144 = 0
    · have first : Within (n / 4096 % 64 + 0x80) (0x90, 0xBF) := by
        rw [within_iff]
        omega
      rw [low] at spelled
      exact ⟨_, _, _, _, .lowFour, follow_three.mpr ⟨_, _, _, rfl, first, third, last⟩, spelled⟩
    by_cases cut : n / 262144 = 4
    · have first : Within (n / 4096 % 64 + 0x80) (0x80, 0x8F) := by
        rw [within_iff]
        omega
      rw [cut] at spelled
      exact ⟨_, _, _, _, .cutFour, follow_three.mpr ⟨_, _, _, rfl, first, third, last⟩, spelled⟩
    · exact ⟨_, _, _, _, .four (by omega) (by omega),
        follow_three.mpr ⟨_, _, _, rfl, within_tail_mod _, third, last⟩, spelled⟩

theorem scan_follow {more : List Nat} {owed : List (Nat × Nat)} (follow : Follow more owed)
    (asked : owed ≠ []) (pending : Pending) (index : Nat) (rest : List Nat) :
    ∃ pending' index', scan pending owed index (more ++ rest) =
      (scan pending' [] index' rest).map (Char.ofNat (bitsAfter pending.bits more) :: ·) := by
  induction follow generalizing pending index with
  | nil => exact absurd rfl asked
  | @cons byte bounds more owed within follow ih =>
    obtain ⟨low, high⟩ := within
    rw [List.cons_append, scan, bitsAfter_cons]
    simp only [low, high, decide_true, Bool.and_true, ↓reduceIte, ← joined_eq]
    cases owed with
    | nil =>
      obtain rfl := List.forall₂_nil_right_iff.mp follow
      exact ⟨pending, index + 1, rfl⟩
    | cons next owed =>
      exact ih (by simp) { pending with bits := joined pending.bits byte } (index + 1)

theorem follow_of_scan {owed : List (Nat × Nat)} (asked : owed ≠ []) {pending : Pending}
    {index : Nat} {bytes : List Nat} {text : List Char}
    (read : scan pending owed index bytes = .ok text) :
    ∃ more rest after pending' index', bytes = more ++ rest ∧ Follow more owed ∧
      text = Char.ofNat (bitsAfter pending.bits more) :: after ∧
      scan pending' [] index' rest = .ok after := by
  induction owed generalizing pending index bytes with
  | nil => exact absurd rfl asked
  | cons bounds owed ih =>
    cases bytes with
    | nil => simp [scan] at read
    | cons byte rest =>
      rw [scan] at read
      by_cases within : Within byte bounds
      · obtain ⟨low, high⟩ := within
        simp only [low, high, decide_true, Bool.and_true, ↓reduceIte, ← joined_eq] at read
        -- With the last byte that was owed the character is complete.
        cases owed with
        | nil =>
          obtain ⟨after, onward, rfl⟩ := Outcome.map_eq_ok_iff.mp read
          exact ⟨[byte], rest, after, pending, index + 1, rfl, .cons ⟨low, high⟩ .nil,
            rfl, onward⟩
        | cons next owed =>
          obtain ⟨more, rest, after, pending', index', rfl, follow, rfl, onward⟩ :=
            ih (by simp) read
          exact ⟨byte :: more, rest, after, pending', index', rfl, .cons ⟨low, high⟩ follow,
            rfl, onward⟩
      · have outside : (decide (bounds.1 ≤ byte) && decide (byte ≤ bounds.2)) = false := by
          simpa [Within] using within
        simp [outside] at read

theorem scan_lead {byte bits : Nat} {owed : List (Nat × Nat)} (lead : Lead byte owed bits)
    {more : List Nat} (follow : Follow more owed) (pending : Pending) (index : Nat)
    (rest : List Nat) :
    ∃ pending' index', scan pending [] index (byte :: more ++ rest) =
      (scan pending' [] index' rest).map (Char.ofNat (bitsAfter bits more) :: ·) := by
  rw [List.cons_append, scan, lead.lead?_eq]
  cases owed with
  | nil =>
    obtain rfl := List.forall₂_nil_right_iff.mp follow
    exact ⟨pending, index + 1, rfl⟩
  | cons bounds owed => exact scan_follow follow (by simp) ⟨byte, index, bits⟩ (index + 1) rest

theorem lead_of_scan {pending : Pending} {index byte : Nat} {bytes : List Nat} {text : List Char}
    (read : scan pending [] index (byte :: bytes) = .ok text) :
    ∃ bits owed more rest after pending' index', bytes = more ++ rest ∧ Lead byte owed bits ∧
      Follow more owed ∧ text = Char.ofNat (bitsAfter bits more) :: after ∧
      scan pending' [] index' rest = .ok after := by
  rw [scan] at read
  cases found : lead? byte with
  | none => simp [found] at read
  | some asked =>
    obtain ⟨owed, bits⟩ := asked
    have lead := lead_of_lead? found
    cases owed with
    | nil =>
      obtain ⟨after, onward, rfl⟩ := Outcome.map_eq_ok_iff.mp (by simpa [found] using read)
      exact ⟨bits, [], [], bytes, after, pending, index + 1, rfl, lead, .nil, rfl, onward⟩
    | cons bounds owed =>
      obtain ⟨more, rest, after, pending', index', same, follow, begun, onward⟩ :=
        follow_of_scan (List.cons_ne_nil bounds owed) (by simpa [found] using read)
      exact ⟨bits, _, more, rest, after, pending', index', same, lead, follow, begun, onward⟩

def allUnits (text : List Char) : List Nat := text.flatMap fun c => units c.toNat

theorem allUnits_cons (c : Char) (text : List Char) :
    allUnits (c :: text) = units c.toNat ++ allUnits text :=
  List.flatMap_cons

theorem scan_allUnits (text : List Char) (pending : Pending) (index : Nat) :
    scan pending [] index (allUnits text) = .ok text := by
  induction text generalizing pending index with
  | nil => rfl
  | cons c text ih =>
    obtain ⟨byte, owed, bits, more, lead, follow, spelled⟩ := exists_lead (n := c.toNat) c.valid
    have bytes := (lead.spells follow).2
    rw [spelled] at bytes
    obtain ⟨pending', index', onward⟩ := scan_lead lead follow pending index (allUnits text)
    rw [allUnits_cons, bytes, onward, ih, spelled, Char.ofNat_toNat]
    rfl

theorem allUnits_of_scan {text : List Char} {pending : Pending} {index : Nat} {bytes : List Nat}
    (read : scan pending [] index bytes = .ok text) : bytes = allUnits text := by
  -- The induction is on the text, since a character takes up any number of bytes.
  induction text generalizing pending index bytes with
  | nil =>
    cases bytes with
    | nil => rfl
    | cons byte bytes =>
      obtain ⟨_, _, _, _, _, _, _, _, _, _, begun, _⟩ := lead_of_scan read
      exact absurd begun (by simp)
  | cons c text ih =>
    cases bytes with
    | nil => simp [scan] at read
    | cons byte bytes =>
      obtain ⟨bits, owed, more, rest, after, pending', index', rfl, lead, follow, begun, onward⟩ :=
        lead_of_scan read
      obtain ⟨rfl, rfl⟩ := List.cons.inj begun
      obtain ⟨valid, spelled⟩ := lead.spells follow
      rw [ih onward, allUnits_cons, toNat_ofNat_of_valid valid, spelled]
      rfl

def encode (text : List Char) : List UInt8 := text.flatMap String.utf8EncodeChar

theorem map_encode (text : List Char) : (encode text).map UInt8.toNat = allUnits text := by
  simp [encode, allUnits, List.map_flatMap, map_utf8EncodeChar]

/-- Bytes are read as a text just if they are the bytes of that text. -/
theorem decode_eq_ok_iff (bytes : List UInt8) (text : List Char) :
    decode bytes = .ok text ↔ bytes = encode text := by
  constructor
  · intro read
    have units := allUnits_of_scan read
    rw [← map_encode] at units
    exact List.map_injective_iff.mpr (fun _ _ => UInt8.toNat_inj.mp) units
  · rintro rfl
    rw [decode, map_encode]
    exact scan_allUnits text _ _

end Folio.Text.Utf8
