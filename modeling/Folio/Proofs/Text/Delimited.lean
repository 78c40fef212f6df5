import Folio.Proofs.Text.ScriptLiteral
import Mathlib.Data.List.DropRight

/-! Where a script literal starts and ends. It is the text quoted in ASCII, with the three signs of
markup replaced one after another in the whole of it; the replacing leaves every escape whole. So
only the outermost quotes are not escaped, and nothing that stands around a literal runs into it. -/
namespace Folio.Text.ScriptLiteral

def quote (text : List Char) : List Char := '"' :: text.flatMap asciiChar ++ ['"']

def replace (sign : Char) (other text : List Char) : List Char :=
  text.flatMap fun c => if c = sign then other else [c]

def cleared (text : List Char) : List Char :=
  replace '&' "\\u0026".toList (replace '>' "\\u003e".toList (replace '<' "\\u003c".toList text))

theorem replace_append (sign : Char) (other left right : List Char) :
    replace sign other (left ++ right) = replace sign other left ++ replace sign other right :=
  List.flatMap_append

theorem replace_absent {sign : Char} {text : List Char} (absent : sign ∉ text)
    (other : List Char) : replace sign other text = text := by
  induction text with
  | nil => rfl
  | cons c text ih =>
    simp only [List.mem_cons, not_or] at absent
    obtain ⟨apart, absent⟩ := absent
    rw [replace, List.flatMap_cons, if_neg (Ne.symm apart)]
    exact congrArg (c :: ·) (ih absent)

theorem cleared_append (left right : List Char) :
    cleared (left ++ right) = cleared left ++ cleared right := by
  simp only [cleared, replace_append]

theorem cleared_inert {text : List Char} (inert : Inert text) : cleared text = text := by
  have absent : ∀ sign, isMarkup sign = true → sign ∉ text := by
    intro sign markup member
    rw [(inert sign member).2.2] at markup
    exact absurd markup (by decide)
  rw [cleared, replace_absent (absent '<' rfl), replace_absent (absent '>' rfl),
    replace_absent (absent '&' rfl)]

theorem cleared_asciiChar (c : Char) : cleared (asciiChar c) = literalChar c := by
  by_cases markup : isMarkup c = true
  · have known : c = '<' ∨ c = '>' ∨ c = '&' := by simpa [isMarkup, or_assoc] using markup
    rcases known with rfl | rfl | rfl <;> decide
  · have plain : literalChar c = asciiChar c := if_neg markup
    rw [← plain]
    -- An escape is inert already, so that replacing does not look into it.
    exact cleared_inert (inert_literalChar c)

theorem cleared_quote (text : List Char) : cleared (quote text) = encode text := by
  have body : cleared (text.flatMap asciiChar) = text.flatMap literalChar := by
    induction text with
    | nil => rfl
    | cons c text ih =>
      rw [List.flatMap_cons, cleared_append, cleared_asciiChar, ih, List.flatMap_cons]
  have shape : quote text = ['"'] ++ text.flatMap asciiChar ++ ['"'] := rfl
  rw [shape, cleared_append, cleared_append, body]
  rfl

/-- What follows is escaped: an odd number of backslashes in a row stands right before it. -/
def Escapes (before : List Char) : Prop := (before.rtakeWhile (· == '\\')).length % 2 = 1

instance (before : List Char) : Decidable (Escapes before) := inferInstanceAs (Decidable (_ = _))

/-- The same from the left: a backslash that is not escaped itself is pending. -/
def pending (before : List Char) : Bool :=
  before.foldl (fun waits c => !waits && c == '\\') false

theorem pending_plain {c : Char} (plain : c ≠ '\\') (rest : List Char) :
    pending (c :: rest) = pending rest := by
  have skipped : (c == '\\') = false := by simpa using plain
  simp [pending, skipped]

theorem pending_escape (c : Char) (rest : List Char) :
    pending ('\\' :: c :: rest) = pending rest := by
  simp [pending]

theorem escapes_iff (before : List Char) : Escapes before ↔ pending before = true := by
  induction before using List.reverseRecOn with
  | nil => simp [Escapes, pending]
  | append_singleton before c ih =>
    have next : pending (before ++ [c]) = (!pending before && c == '\\') := by simp [pending]
    rw [next]
    by_cases slash : c = '\\'
    · have longer : (before ++ [c]).rtakeWhile (· == '\\') =
          before.rtakeWhile (· == '\\') ++ [c] :=
        List.rtakeWhile_concat_pos _ _ _ (by simp [slash])
      have turned : Escapes (before ++ [c]) ↔ ¬ Escapes before := by
        rw [Escapes, Escapes, longer, List.length_append, List.length_singleton]
        omega
      rw [turned, ih]
      simp [slash]
    · have none : (before ++ [c]).rtakeWhile (· == '\\') = [] :=
        List.rtakeWhile_concat_neg _ _ _ (by simp [slash])
      simp [Escapes, none, slash]

example : Escapes ['a', '\\', '\\', '\\'] ∧ ¬ Escapes ['"', '\\', '\\'] := by decide

/-- What stands between the quotes: plain characters, and backslashes each with the one escaped. -/
inductive Body : List Char → Prop
  | nil : Body []
  | plain {c : Char} {rest : List Char} (quote : c ≠ '"') (slash : c ≠ '\\') :
      Body rest → Body (c :: rest)
  | escape (c : Char) {rest : List Char} : Body rest → Body ('\\' :: c :: rest)

theorem Body.append {left right : List Char} (first : Body left) (second : Body right) :
    Body (left ++ right) := by
  induction first with
  | nil => exact second
  | plain quote slash _ ih => exact .plain quote slash ih
  | escape c _ ih => exact .escape c ih

theorem Body.settled {body : List Char} (good : Body body) : pending body = false := by
  induction good with
  | nil => rfl
  | plain _ slash _ ih => rw [pending_plain slash, ih]
  | escape c _ ih => rw [pending_escape, ih]

theorem Body.pending_quote {body : List Char} (good : Body body) {before after : List Char}
    (found : body = before ++ '"' :: after) : pending before = true := by
  induction good generalizing before with
  | nil => simp at found
  | plain quote slash _ ih =>
    cases before with
    | nil => exact absurd (List.cons.inj found).1 quote
    | cons first before =>
      obtain ⟨rfl, later⟩ := List.cons.inj found
      rw [pending_plain slash, ih later]
  | escape c _ ih =>
    match before with
    | [] => exact absurd (List.cons.inj found).1 (by decide)
    | [slash] =>
      -- The quote is the one escaped.
      obtain ⟨rfl, _⟩ := List.cons.inj found
      rfl
    | slash :: escaped :: before =>
      obtain ⟨rfl, more⟩ := List.cons.inj found
      obtain ⟨rfl, later⟩ := List.cons.inj more
      rw [pending_escape, ih later]

theorem body_hexPadded (width n : Nat) : Body (hexPadded width n) := by
  have digits : ∀ digit : Fin 16, hexDigit digit ≠ '"' ∧ hexDigit digit ≠ '\\' := by decide
  induction width generalizing n with
  | zero => exact .nil
  | succ width ih =>
    have last := digits ⟨n % 16, Nat.mod_lt n (by decide)⟩
    exact (ih _).append (.plain last.1 last.2 .nil)

theorem body_unit (n : Nat) : Body (unit n) := .escape 'u' (body_hexPadded 4 n)

theorem body_spelled (n : Nat) : Body (spelled n) := by
  unfold spelled
  split
  · exact body_unit n
  · exact (body_unit _).append (body_unit _)

theorem body_literalChar (c : Char) : Body (literalChar c) := by
  unfold literalChar
  split
  · exact body_unit _
  · unfold asciiChar
    split
    case h_8 quote slash _ _ _ _ _ =>
      split
      · exact .plain quote slash .nil
      · exact body_spelled _
    all_goals exact .escape _ .nil

theorem body_flatMap (text : List Char) : Body (text.flatMap literalChar) := by
  induction text with
  | nil => exact .nil
  | cons c text ih =>
    rw [List.flatMap_cons]
    exact (body_literalChar c).append ih

/-- There is a quote at each end, and any other one is escaped. -/
structure Delimited (literal : List Char) : Prop where
  ends : ∃ body, literal = '"' :: body ++ ['"']
  escaped {before after : List Char} :
    literal = before ++ '"' :: after → (Escapes before ↔ before ≠ [] ∧ after ≠ [])

theorem Body.delimited {body : List Char} (good : Body body) :
    Delimited ('"' :: body ++ ['"']) where
  ends := ⟨body, rfl⟩
  escaped {before after} found := by
    rw [escapes_iff]
    cases before with
    | nil => simp [pending]
    | cons first before =>
      obtain ⟨rfl, body_eq⟩ := List.cons.inj found
      rw [pending_plain (by decide)]
      rcases List.eq_nil_or_concat after with rfl | ⟨others, last, rfl⟩
      · -- The closing quote: nothing of the body is pending any more.
        obtain ⟨rfl, _⟩ := List.append_inj' body_eq rfl
        simp [good.settled]
      · have inside : body ++ ['"'] = (before ++ '"' :: others) ++ [last] := by
          simpa using body_eq
        obtain ⟨shape, _⟩ := List.append_inj' inside rfl
        simp [good.pending_quote shape]

theorem delimited_encode (text : List Char) : Delimited (encode text) :=
  (body_flatMap text).delimited

def lineBreaks : List Char :=
  ['\n', '\r', '\x0B', '\x0C', '\x1C', '\x1D', '\x1E', '\u0085', '\u2028', '\u2029']

theorem not_inert_lineBreak {c : Char} (member : c ∈ lineBreaks) : ¬ IsInert c := by
  have none : lineBreaks.all (fun c => !decide (IsInert c)) = true := rfl
  simpa using List.all_eq_true.mp none c member

/-- Inside a literal this would end the script or break it; tags are read in any case. -/
inductive Disruptive : List Char → Prop
  | close {name : List Char} :
      name.map Char.toLower = "script".toList → Disruptive ('<' :: '/' :: name)
  | comment : Disruptive "<!--".toList
  | line {c : Char} : c ∈ lineBreaks → Disruptive [c]

/-- It cannot start inside a literal, nor hold either end of one. -/
structure Foreign (marker : List Char) : Prop where
  start : ∃ first rest, marker = first :: rest ∧ ¬ IsInert first
  unquoted : '"' ∉ marker

theorem Disruptive.foreign {marker : List Char} (disruptive : Disruptive marker) :
    Foreign marker := by
  cases disruptive with
  | @close name lowered =>
    refine ⟨⟨'<', '/' :: name, rfl, by decide⟩, ?_⟩
    have unquoted : '"' ∉ name := by
      intro member
      have kept : '"' ∈ name.map Char.toLower := List.mem_map.mpr ⟨'"', member, by decide⟩
      rw [lowered] at kept
      exact absurd kept (by decide)
    simp [unquoted]
  | comment => exact ⟨⟨'<', "!--".toList, rfl, by decide⟩, by decide⟩
  | @line c member =>
    have alien := not_inert_lineBreak member
    have other : '"' ≠ c := by
      rintro rfl
      exact alien (by decide)
    exact ⟨⟨c, [], rfl, alien⟩, by simpa using other⟩

/-- A marker lies in what stands before the literal or in what comes after it. -/
def Apart (before literal after left marker right : List Char) : Prop :=
  (∃ gap, before = left ++ marker ++ gap ∧ right = gap ++ literal ++ after) ∨
    ∃ gap, after = gap ++ marker ++ right ∧ left = before ++ literal ++ gap

theorem Foreign.after {marker : List Char} (foreign : Foreign marker) {literal : List Char}
    (inert : Inert literal) {left after right : List Char}
    (whole : literal ++ after = left ++ marker ++ right) :
    ∃ gap, after = gap ++ marker ++ right ∧ left = literal ++ gap := by
  obtain ⟨first, rest, rfl, alien⟩ := foreign.start
  rw [List.append_assoc, List.append_eq_append_iff] at whole
  rcases whole with ⟨gap, rfl, found⟩ | ⟨tail, rfl, found⟩
  · exact ⟨gap, by simpa using found, rfl⟩
  · cases tail with
    | nil => exact ⟨[], by simpa using found.symm, by simp⟩
    | cons next tail =>
      obtain ⟨rfl, _⟩ := List.cons.inj found
      exact absurd (inert first (by simp)) alien

theorem Foreign.apart {marker : List Char} (foreign : Foreign marker) {literal : List Char}
    (inert : Inert literal) (ends : ∃ body, literal = '"' :: body ++ ['"'])
    {before after left right : List Char}
    (whole : before ++ literal ++ after = left ++ marker ++ right) :
    Apart before literal after left marker right := by
  obtain ⟨body, rfl⟩ := ends
  rw [List.append_assoc, List.append_eq_append_iff] at whole
  rcases whole with ⟨tail, passed, found⟩ | ⟨gap, shorter, found⟩
  · cases tail with
    | nil => exact .inl ⟨[], by simpa using passed.symm, by simpa using found.symm⟩
    | cons quote tail =>
      obtain ⟨rfl, _⟩ := List.cons.inj found
      rw [List.append_eq_append_iff] at passed
      rcases passed with ⟨inner, _, split⟩ | ⟨front, rfl, split⟩
      · exact absurd (split ▸ by simp) foreign.unquoted
      · rw [split] at found
        obtain ⟨gap, rfl, rfl⟩ := foreign.after inert found
        exact .inr ⟨gap, rfl, by simp⟩
  · exact .inl ⟨gap, shorter, by simpa using found⟩

/-- Quoted in ASCII and cleared of markup, a text is read back as what it was. In a script it is one
literal, which only its own quotes start and end and nothing disruptive around it reaches into. -/
theorem encoded_faithful (text : String) :
    (encoded text).toList = cleared (quote text.toList) ∧
    Inert (encoded text).toList ∧
    Delimited (encoded text).toList ∧
    Json.read (encoded text) = .ok (.str text) ∧
    (∀ other, encoded other = encoded text → other = text) ∧
    ∀ marker, Disruptive marker → ∀ before after left right,
      before ++ (encoded text).toList ++ after = left ++ marker ++ right →
      Apart before (encoded text).toList after left marker right := by
  have literal : (encoded text).toList = encode text.toList := String.toList_ofList
  have inert := inert_encoded text
  have delimited : Delimited (encoded text).toList := by
    rw [literal]
    exact delimited_encode text.toList
  refine ⟨?_, inert, delimited, Json.read_encoded text, ?_, ?_⟩
  · rw [literal, cleared_quote]
  · intro other same
    have read := Json.read_encoded other
    rw [same, Json.read_encoded text] at read
    exact (Value.str.inj (Except.ok.inj read)).symm
  · intro marker disruptive before after left right whole
    exact disruptive.foreign.apart inert delimited.ends whole

def hostileText : String := "</script>&\"\\\n\x7F\u2028😀"

theorem encoded_faithful_hostile :
    encoded hostileText =
      "\"\\u003c/script\\u003e\\u0026\\\"\\\\\\n\\u007f\\u2028\\ud83d\\ude00\"" ∧
    Json.read (encoded hostileText) = .ok (.str hostileText) ∧
    encoded "<script>" ≠ encoded hostileText ∧
    Disruptive "</SCRIPT".toList ∧
    Apart "a(".toList (encoded hostileText).toList ")</SCRIPT>".toList
      ("a(".toList ++ (encoded hostileText).toList ++ [')']) "</SCRIPT".toList ['>'] := by
  obtain ⟨-, -, -, read, apart, outside⟩ := encoded_faithful hostileText
  have close : Disruptive "</SCRIPT".toList := .close (by decide)
  refine ⟨by decide, read, ?_, close, ?_⟩
  · intro same
    exact absurd (apart "<script>" same) (by decide)
  · exact outside _ close _ _ _ _ (by simp)

end Folio.Text.ScriptLiteral
