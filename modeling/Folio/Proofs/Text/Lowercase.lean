import Folio.Text.Blank
import Folio.Text.Lowercase
import Mathlib.Data.List.TakeWhile

/-! What lower case does to a text. Within ASCII it is the plain one, and of the letters beyond none
but two give letters within. It is reached in one step, and it neither brings white space nor takes
any away. All of it is read off the table of runs. -/
namespace Folio.Text

/-- Every run of letters with a lower case lies within ASCII or beyond it, and so do its lower
cases. Only one letter from beyond comes back: the sign for kelvin. -/
def CaseRun.Apart (run : CaseRun) : Prop :=
  (run.last < 0x80 ∨ 0x80 ≤ run.first ∧ 0x80 ≤ run.first + run.shift ∨
    run.first = 0x212A ∧ run.last = 0x212A ∧ run.shift = -8383) ∧
  (run.last + run.shift < 0xD800 ∨
    0xE000 ≤ run.first + run.shift ∧ run.last + run.shift < 0x110000)

instance (run : CaseRun) : Decidable run.Apart :=
  inferInstanceAs (Decidable ((_ ∨ _ ∧ _ ∨ _) ∧ (_ ∨ _)))

theorem caseRuns_apart : ∀ run ∈ caseRuns, run.Apart := by decide +kernel

theorem toNat_ofNat_of_valid {n : Nat} (valid : n.isValidChar) : (Char.ofNat n).toNat = n := by
  rw [Char.ofNat, dif_pos valid]
  rfl

theorem CaseRun.holds_iff (run : CaseRun) (n : Nat) : run.holds n = true ↔
    run.first ≤ n ∧ n ≤ run.last ∧ (n - run.first) % run.stride = 0 := by
  simp [holds, and_assoc]

theorem toNat_shifted {run : CaseRun} (known : run ∈ caseRuns) {n : Nat}
    (held : run.holds n = true) :
    (Char.ofNat (n + run.shift).toNat).toNat = (n + run.shift).toNat := by
  have valid := (caseRuns_apart run known).2
  obtain ⟨low, high, -⟩ := (run.holds_iff n).mp held
  apply toNat_ofNat_of_valid
  unfold Nat.isValidChar
  omega

theorem lowerCodePoint_cases (n : Nat) :
    (∃ run ∈ caseRuns, run.holds n = true ∧ lowerCodePoint n = (n + run.shift).toNat) ∨
      (∀ run ∈ caseRuns, run.holds n = false) ∧ lowerCodePoint n = n := by
  unfold lowerCodePoint
  cases found : caseRuns.find? (·.holds n) with
  | none => exact Or.inr ⟨by simpa using List.find?_eq_none.mp found, rfl⟩
  | some run =>
    exact Or.inl ⟨run, List.mem_of_find?_eq_some found, by simpa using List.find?_some found, rfl⟩

theorem lowerChar_beyond {c : Char} (beyond : 0x80 ≤ c.toNat) :
    0x80 ≤ (lowerChar c).toNat ∨ lowerChar c = 'k' := by
  rcases lowerCodePoint_cases c.toNat with ⟨run, known, held, same⟩ | ⟨-, same⟩
  · have valid := toNat_shifted known held
    obtain ⟨low, high, -⟩ := (run.holds_iff _).mp held
    rw [lowerChar, same]
    rcases (caseRuns_apart run known).1 with ascii | ⟨-, far⟩ | ⟨first, last, shift⟩
    · omega
    · left
      omega
    · right
      have kelvin : ((c.toNat : Int) + run.shift).toNat = 0x6B := by omega
      simp [kelvin]
  · left
    rw [lowerChar, same, Char.ofNat_toNat]
    exact beyond

theorem lowerCodePoint_ascii {n : Nat} (ascii : n < 0x80) :
    lowerCodePoint n = if 0x41 ≤ n ∧ n ≤ 0x5A then n + 32 else n := by
  have later : ∀ run ∈ caseRuns.tail, 0x80 ≤ run.first := by decide +kernel
  have absent : caseRuns.tail.find? (·.holds n) = none := by
    rw [List.find?_eq_none]
    intro run member
    have beyond := later run member
    simp only [CaseRun.holds, Bool.and_eq_true, decide_eq_true_eq]
    omega
  have shape : caseRuns = ⟨0x41, 0x5A, 1, 32⟩ :: caseRuns.tail := rfl
  rw [lowerCodePoint, shape, List.find?_cons, absent]
  by_cases capital : 0x41 ≤ n ∧ n ≤ 0x5A
  · have shifted : ((n : Int) + 32).toNat = n + 32 := by omega
    simp [CaseRun.holds, capital, Nat.mod_one, shifted]
  · have unheld : (CaseRun.mk 0x41 0x5A 1 32).holds n = false := by
      simp only [CaseRun.holds, Bool.and_eq_false_iff, decide_eq_false_iff_not]
      omega
    simp [unheld, capital]

theorem lowerChar_ascii {c : Char} (ascii : c.toNat < 0x80) : lowerChar c = c.toLower := by
  have all : ∀ n : Fin 0x80,
      Char.ofNat (if 0x41 ≤ n.val ∧ n.val ≤ 0x5A then n.val + 32 else n.val) =
        (Char.ofNat n).toLower := by decide +kernel
  rw [lowerChar, lowerCodePoint_ascii ascii]
  simpa using all ⟨c.toNat, ascii⟩

theorem toLower_beyond {c : Char} (beyond : 0x80 ≤ c.toNat) : c.toLower = c := by
  have foreign : ¬ (c.val ≥ 'A'.val ∧ c.val ≤ 'Z'.val) := by
    rintro ⟨-, last⟩
    have small : c.toNat ≤ 'Z'.toNat := last
    have ends : 'Z'.toNat = 90 := rfl
    omega
  exact dif_neg foreign

/-- Texts of ASCII that lower-casing anything else does not give: without the letter of the sign for
kelvin, and with something after every letter that a dotted capital turns into. -/
def IsNative (text : List Char) : Prop :=
  (∀ c ∈ text, c.toNat < 0x80 ∧ c ≠ 'k') ∧ text.getLast? ≠ some 'i'

instance (text : List Char) : Decidable (IsNative text) :=
  inferInstanceAs (Decidable (_ ∧ _))

theorem IsNative.tail {c : Char} {rest : List Char} (native : IsNative (c :: rest)) :
    IsNative rest := by
  refine ⟨fun d member => native.1 d (List.mem_cons_of_mem c member), ?_⟩
  cases rest with
  | nil => simp
  | cons d rest => simpa [List.getLast?_cons_cons] using native.2

theorem lowerAt_ascii (before after : List Char) {c : Char} (ascii : c.toNat < 0x80) :
    lowerAt before c after = [c.toLower] := by
  have sigma : c ≠ '\u03A3' := by
    rintro rfl
    exact absurd ascii (by decide)
  have dotted : c ≠ '\u0130' := by
    rintro rfl
    exact absurd ascii (by decide)
  simp [lowerAt, sigma, dotted, lowerChar_ascii ascii]

theorem not_prefix_lowerAt (before after more : List Char) {c : Char} (beyond : 0x80 ≤ c.toNat)
    {first : Char} {rest : List Char} (native : IsNative (first :: rest)) :
    ¬ first :: rest <+: lowerAt before c after ++ more := by
  obtain ⟨ascii, noKelvin⟩ := native.1 first List.mem_cons_self
  intro starts
  unfold lowerAt at starts
  split at starts
  · -- Either small sigma lies beyond ASCII itself.
    split at starts <;>
    · obtain ⟨rfl, -⟩ := List.cons_prefix_cons.mp starts
      exact absurd ascii (by decide)
  · split at starts
    · -- The dot stays behind its letter, where the text would have to go on.
      obtain ⟨rfl, later⟩ := List.cons_prefix_cons.mp starts
      cases rest with
      | nil => exact native.2 rfl
      | cons next rest =>
        obtain ⟨rfl, -⟩ := List.cons_prefix_cons.mp later
        exact absurd (native.tail.1 _ List.mem_cons_self).1 (by decide)
    · obtain ⟨same, -⟩ := List.cons_prefix_cons.mp starts
      rcases lowerChar_beyond beyond with far | kelvin
      · rw [← same] at far
        omega
      · exact noKelvin (same.trans kelvin)

theorem prefix_lowerFrom_iff (start : List Char) (native : IsNative start)
    (before text : List Char) :
    start <+: lowerFrom before text ↔ start <+: text.map Char.toLower := by
  -- Characters passed before matter to a sigma alone, so they may be any.
  induction text generalizing start before with
  | nil => simp [lowerFrom]
  | cons c text ih =>
    cases start with
    | nil => simp
    | cons first rest =>
      rw [lowerFrom, List.map_cons]
      by_cases ascii : c.toNat < 0x80
      · rw [lowerAt_ascii before text ascii, List.singleton_append, List.cons_prefix_cons,
          List.cons_prefix_cons, ih rest native.tail]
      · have beyond : 0x80 ≤ c.toNat := Nat.le_of_not_lt ascii
        refine iff_of_false (not_prefix_lowerAt before text _ beyond native) ?_
        rw [toLower_beyond beyond, List.cons_prefix_cons]
        rintro ⟨rfl, -⟩
        exact ascii (native.1 _ List.mem_cons_self).1

def CaseRun.target (run : CaseRun) : Nat := (run.first + run.shift).toNat

/-- The lower case of one run lies before the other run or behind it, or the two go by twos and out
of step. -/
def CaseRun.misses (run other : CaseRun) : Bool :=
  Nat.blt (run.target + (run.last - run.first)) other.first || Nat.blt other.last run.target ||
    (run.stride == 2 || run.first == run.last) && other.stride == 2 &&
      (run.target + other.first) % 2 == 1

theorem CaseRun.not_holds_shifted {run other : CaseRun} (whole : 0 ≤ run.first + run.shift)
    (apart : run.misses other = true) {n : Nat} (held : run.holds n = true) :
    other.holds (n + run.shift).toNat = false := by
  obtain ⟨low, high, step⟩ := (run.holds_iff n).mp held
  have place : (n + run.shift).toNat = run.target + (n - run.first) := by
    rw [target]
    omega
  rw [place, Bool.eq_false_iff]
  intro found
  obtain ⟨least, most, rest⟩ := (other.holds_iff _).mp found
  simp only [misses, Bool.or_eq_true, Bool.and_eq_true, Nat.blt_eq, beq_iff_eq] at apart
  rcases apart with (before | behind) | ⟨⟨twos, alsoTwos⟩, odd⟩
  · omega
  · omega
  · -- Steps of two keep to one side of even and odd.
    rw [alsoTwos] at rest
    rcases twos with twos | single
    · rw [twos] at step
      omega
    · omega

/-- White space, as runs that nothing is done to. -/
def blankRuns : List CaseRun := [
  ⟨0x09, 0x0D, 1, 0⟩, ⟨0x1C, 0x20, 1, 0⟩, ⟨0x85, 0x85, 1, 0⟩, ⟨0xA0, 0xA0, 1, 0⟩,
  ⟨0x1680, 0x1680, 1, 0⟩, ⟨0x2000, 0x200A, 1, 0⟩, ⟨0x2028, 0x2029, 1, 0⟩, ⟨0x202F, 0x202F, 1, 0⟩,
  ⟨0x205F, 0x205F, 1, 0⟩, ⟨0x3000, 0x3000, 1, 0⟩]

theorem exists_blankRun {c : Char} (blank : isBlank c = true) :
    ∃ run ∈ blankRuns, run.holds c.toNat = true := by
  simp only [isBlank, Bool.or_eq_true, Bool.and_eq_true, decide_eq_true_eq, beq_iff_eq] at blank
  simp only [blankRuns, List.mem_cons, List.not_mem_nil, or_false, exists_eq_or_imp,
    exists_eq_left, CaseRun.holds_iff, Nat.mod_one, and_true]
  omega

def oddRuns : List CaseRun := [⟨0x3A3, 0x3A3, 1, 0⟩, ⟨0x130, 0x130, 1, 0⟩]

theorem caseRuns_miss : ∀ run ∈ caseRuns, 0 ≤ run.first + run.shift ∧
    ((caseRuns ++ blankRuns ++ oddRuns).all run.misses) = true := by
  decide +kernel

/-- A character that lower case leaves as it is, wherever it stands. -/
structure IsLower (c : Char) : Prop where
  unshifted : ∀ run ∈ caseRuns, run.holds c.toNat = false
  notSigma : c ≠ '\u03A3'
  notDotted : c ≠ '\u0130'

theorem IsLower.lowerChar_eq {c : Char} (low : IsLower c) : lowerChar c = c := by
  rcases lowerCodePoint_cases c.toNat with ⟨run, known, held, -⟩ | ⟨-, same⟩
  · exact absurd held (by simp [low.unshifted run known])
  · rw [lowerChar, same, Char.ofNat_toNat]

theorem IsLower.lowerAt_eq {c : Char} (low : IsLower c) (before after : List Char) :
    lowerAt before c after = [c] := by
  simp [lowerAt, low.notSigma, low.notDotted, low.lowerChar_eq]

theorem isLower_shifted {run : CaseRun} (known : run ∈ caseRuns) {n : Nat}
    (held : run.holds n = true) :
    IsLower (Char.ofNat (n + run.shift).toNat) ∧
      isBlank (Char.ofNat (n + run.shift).toNat) = false := by
  obtain ⟨whole, apart⟩ := caseRuns_miss run known
  have free : ∀ other ∈ caseRuns ++ blankRuns ++ oddRuns,
      other.holds (Char.ofNat (n + run.shift).toNat).toNat = false := by
    intro other member
    rw [toNat_shifted known held]
    exact CaseRun.not_holds_shifted whole (List.all_eq_true.mp apart other member) held
  generalize Char.ofNat (n + run.shift).toNat = c at free
  refine ⟨⟨?_, ?_, ?_⟩, ?_⟩
  · intro other member
    exact free other (by simp [member])
  · rintro rfl
    exact absurd (free ⟨0x3A3, 0x3A3, 1, 0⟩ (by simp [oddRuns])) (by decide)
  · rintro rfl
    exact absurd (free ⟨0x130, 0x130, 1, 0⟩ (by simp [oddRuns])) (by decide)
  · rw [Bool.eq_false_iff]
    intro blank
    obtain ⟨other, member, found⟩ := exists_blankRun blank
    simp [free other (by simp [member])] at found

theorem lowerChar_settles {c : Char} (notSigma : c ≠ '\u03A3') (notDotted : c ≠ '\u0130') :
    IsLower (lowerChar c) ∧ (isBlank c = false → isBlank (lowerChar c) = false) := by
  rcases lowerCodePoint_cases c.toNat with ⟨run, known, held, same⟩ | ⟨unshifted, same⟩
  · obtain ⟨low, shown⟩ := isLower_shifted known held
    rw [lowerChar, same]
    exact ⟨low, fun _ => shown⟩
  · rw [lowerChar, same, Char.ofNat_toNat]
    exact ⟨⟨unshifted, notSigma, notDotted⟩, id⟩

/-- Each character becomes one or two that stay, and shows as long as it did before. -/
theorem lowerAt_settles (before after : List Char) (c : Char) :
    lowerAt before c after ≠ [] ∧ (∀ d ∈ lowerAt before c after, IsLower d) ∧
      (isBlank c = false → ∀ d ∈ lowerAt before c after, isBlank d = false) := by
  have small : ∀ c ∈ ['\u03C2', '\u03C3', 'i', '\u0307'], IsLower c ∧ isBlank c = false := by
    have known : ['\u03C2', '\u03C3', 'i', '\u0307'].all (fun c =>
        caseRuns.all (fun run => !run.holds c.toNat) && c != '\u03A3' && c != '\u0130' &&
          !isBlank c) = true := by
      decide +kernel
    intro c member
    have here := List.all_eq_true.mp known c member
    simp only [Bool.and_eq_true, List.all_eq_true, Bool.not_eq_true', bne_iff_ne] at here
    obtain ⟨⟨⟨unshifted, notSigma⟩, notDotted⟩, shown⟩ := here
    exact ⟨⟨unshifted, notSigma, notDotted⟩, shown⟩
  unfold lowerAt
  split
  · split <;> simp [small]
  · split
    · simp [small]
    · next notSigma notDotted =>
      have settled := lowerChar_settles (c := c) (by simpa using notSigma) (by simpa using notDotted)
      simpa using settled

theorem lowerFrom_isLower (before text : List Char) : ∀ c ∈ lowerFrom before text, IsLower c := by
  induction text generalizing before with
  | nil => simp [lowerFrom]
  | cons c text ih =>
    intro d member
    rcases List.mem_append.mp member with here | later
    · exact (lowerAt_settles before text c).2.1 d here
    · exact ih (c :: before) d later

theorem lowerFrom_of_isLower (before : List Char) {text : List Char}
    (low : ∀ c ∈ text, IsLower c) : lowerFrom before text = text := by
  induction text generalizing before with
  | nil => rfl
  | cons c text ih =>
    rw [lowerFrom, (low c List.mem_cons_self).lowerAt_eq, List.singleton_append,
      ih (c :: before) fun d member => low d (List.mem_cons_of_mem c member)]

theorem lower_lower (text : List Char) : lower (lower text) = lower text :=
  lowerFrom_of_isLower [] (lowerFrom_isLower [] text)

theorem caseRuns_beside_blanks : ∀ run ∈ caseRuns, ∀ other ∈ blankRuns,
    run.last < other.first ∨ other.last < run.first := by
  decide +kernel

theorem isLower_of_blank {c : Char} (blank : isBlank c = true) : IsLower c := by
  refine ⟨fun run known => ?_, ?_, ?_⟩
  · obtain ⟨other, member, found⟩ := exists_blankRun blank
    have beside := caseRuns_beside_blanks run known other member
    rw [Bool.eq_false_iff]
    intro held
    obtain ⟨low, high, -⟩ := (run.holds_iff _).mp held
    obtain ⟨least, most, -⟩ := (other.holds_iff _).mp found
    omega
  · rintro rfl
    exact absurd blank (by decide)
  · rintro rfl
    exact absurd blank (by decide)

theorem mem_lowerFrom_of_blank {c : Char} (blank : isBlank c = true) {text : List Char}
    (member : c ∈ text) (before : List Char) : c ∈ lowerFrom before text := by
  induction text generalizing before with
  | nil => exact absurd member List.not_mem_nil
  | cons d text ih =>
    rw [lowerFrom]
    rcases List.mem_cons.mp member with rfl | later
    · rw [(isLower_of_blank blank).lowerAt_eq]
      exact List.mem_cons_self
    · exact List.mem_append_right _ (ih later _)

/-- A text without white space at its ends. -/
def IsTrim (text : List Char) : Prop :=
  (∀ c ∈ text.head?, isBlank c = false) ∧ ∀ c ∈ text.getLast?, isBlank c = false

theorem dropBlanks_of_head {text : List Char} (shown : ∀ c ∈ text.head?, isBlank c = false) :
    dropBlanks text = text := by
  cases text with
  | nil => rfl
  | cons c rest => simp [dropBlanks, shown c (by simp)]

theorem head_dropBlanks (text : List Char) : ∀ c ∈ (dropBlanks text).head?, isBlank c = false := by
  intro c member
  have kept := List.head?_dropWhile_not isBlank text
  rw [dropBlanks] at member
  simpa [Option.mem_def.mp member] using kept

theorem isTrim_trim (text : List Char) : IsTrim (trim text) := by
  constructor
  · intro c member
    -- What is cut off at the end leaves the front as it is, unless nothing is left.
    have split := List.takeWhile_append_dropWhile (p := isBlank) (l := (dropBlanks text).reverse)
    have last : c ∈ (List.dropWhile isBlank (dropBlanks text).reverse).getLast? := by
      simpa [trim, dropBlanks] using member
    have whole : (dropBlanks text).reverse.getLast? = some c := by
      rw [← split, List.getLast?_append, Option.mem_def.mp last, Option.some_or]
    exact head_dropBlanks text c (by simpa using whole)
  · intro c member
    exact head_dropBlanks _ c (by simpa [trim] using member)

theorem IsTrim.trim_eq {text : List Char} (isTrim : IsTrim text) : trim text = text := by
  have back : ∀ c ∈ text.reverse.head?, isBlank c = false := by
    simpa using isTrim.2
  rw [trim, dropBlanks_of_head isTrim.1, dropBlanks_of_head back, List.reverse_reverse]

theorem IsTrim.of_shown {text : List Char} (shown : ∀ c ∈ text, isBlank c = false) :
    IsTrim text :=
  ⟨fun c first => shown c (List.mem_of_mem_head? first),
    fun c last => shown c (List.mem_of_mem_getLast? last)⟩

theorem dropBlanks_append_of_blank {before : List Char} (blank : before.all isBlank = true)
    (text : List Char) : dropBlanks (before ++ text) = dropBlanks text := by
  rw [dropBlanks, List.dropWhile_append_of_pos (List.all_eq_true.mp blank), dropBlanks]

theorem trim_surrounded {before after : List Char} (blankBefore : before.all isBlank = true)
    (blankAfter : after.all isBlank = true) (text : List Char) :
    trim (before ++ text ++ after) = trim text := by
  rw [trim, List.append_assoc, dropBlanks_append_of_blank blankBefore]
  by_cases blank : text.all isBlank = true
  · have none : dropBlanks (text ++ after) = [] := by
      rw [dropBlanks_eq_nil_iff, List.all_append, blank, blankAfter, Bool.and_self]
    rw [none, (trim_eq_nil_iff text).mpr blank]
    rfl
  · have kept : dropBlanks (text ++ after) = dropBlanks text ++ after := by
      have some : (text.dropWhile isBlank).isEmpty = false := by
        rw [List.isEmpty_eq_false_iff]
        exact fun empty => blank ((dropBlanks_eq_nil_iff text).mp empty)
      rw [dropBlanks, List.dropWhile_append, some]
      rfl
    have back : after.reverse.all isBlank = true := by rw [List.all_reverse, blankAfter]
    rw [kept, List.reverse_append, dropBlanks_append_of_blank back, trim]

theorem exists_lowerFrom_concat (before text : List Char) (c : Char) :
    ∃ front passed, lowerFrom before (text ++ [c]) = front ++ lowerAt passed c [] := by
  induction text generalizing before with
  | nil => exact ⟨[], before, by simp [lowerFrom]⟩
  | cons d text ih =>
    obtain ⟨front, passed, rest⟩ := ih (d :: before)
    refine ⟨lowerAt before d (text ++ [c]) ++ front, passed, ?_⟩
    rw [List.cons_append, lowerFrom, rest, List.append_assoc]

theorem IsTrim.lower {text : List Char} (isTrim : IsTrim text) : IsTrim (lower text) := by
  constructor
  · cases text with
    | nil => simp [Text.lower, lowerFrom]
    | cons c rest =>
      obtain ⟨some, -, shown⟩ := lowerAt_settles [] rest c
      intro d member
      rw [Text.lower, lowerFrom, List.head?_append, List.head?_eq_some_head some,
        Option.some_or] at member
      exact shown (isTrim.1 c (by simp)) d (Option.mem_some.mp member ▸ List.head_mem some)
  · rcases text.eq_nil_or_concat with rfl | ⟨front, c, rfl⟩
    · simp [Text.lower, lowerFrom]
    · rw [List.concat_eq_append] at isTrim ⊢
      obtain ⟨front', passed, whole⟩ := exists_lowerFrom_concat [] front c
      obtain ⟨some, -, shown⟩ := lowerAt_settles passed [] c
      intro d member
      rw [Text.lower, whole, List.getLast?_append, List.getLast?_eq_some_getLast some,
        Option.some_or] at member
      exact shown (isTrim.2 c (by simp)) d (Option.mem_some.mp member ▸ List.getLast_mem some)

theorem lower_eq_nil_iff (text : List Char) : lower text = [] ↔ text = [] := by
  cases text with
  | nil => simp [lower, lowerFrom]
  | cons c rest => simp [lower, lowerFrom, (lowerAt_settles [] rest c).1]

end Folio.Text
