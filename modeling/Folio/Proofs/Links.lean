import Folio.Links
import Folio.Proofs.Text.Lowercase
import Mathlib.Data.List.DropRight

/-! Which targets of links are dangerous. Full lower-casing reaches far beyond ASCII, but it makes no
scheme out of foreign letters and takes none apart, so the verdict is that of a plain look at the
ASCII letters. Whatever a reader of the page drops before it looks for a scheme is ignored here as
well, so a harmless target stays harmless to it. -/
namespace Folio.Links

open Text (IsNative)

/-- What counts of a target: nothing that is ignored, and no difference between large and small
letters of ASCII. -/
def skeleton (url : List Char) : List Char :=
  (url.filter fun c => !isIgnored c).map Char.toLower

theorem dangerousSchemes_native : ∀ scheme ∈ dangerousSchemes, IsNative scheme.toList := by
  simp [dangerousSchemes, IsNative]

theorem isDangerous_iff (url : List Char) :
    isDangerous url = true ↔ ∃ scheme ∈ dangerousSchemes, scheme.toList <+: skeleton url := by
  simp only [isDangerous, List.any_eq_true, List.isPrefixOf_iff_prefix]
  refine exists_congr fun scheme => and_congr_right fun known => ?_
  exact Text.prefix_lowerFrom_iff scheme.toList (dangerousSchemes_native scheme known) [] _

/-- Two texts that differ in ignored characters here and there and in the case of ASCII letters. -/
inductive Disguise : List Char → List Char → Prop
  | done : Disguise [] []
  | letter {c d : Char} {left right : List Char} (same : c.toLower = d.toLower)
      (rest : Disguise left right) : Disguise (c :: left) (d :: right)
  | dropped {c : Char} {left right : List Char} (ignored : isIgnored c = true)
      (rest : Disguise left right) : Disguise (c :: left) right
  | inserted {c : Char} {left right : List Char} (ignored : isIgnored c = true)
      (rest : Disguise left right) : Disguise left (c :: right)

theorem isIgnored_toLower (c : Char) : isIgnored c.toLower = isIgnored c := by
  by_cases ascii : c.toNat < 0x80
  · have all : ∀ n : Fin 0x80,
        isIgnored (Char.ofNat n).toLower = isIgnored (Char.ofNat n) := by decide +kernel
    simpa using all ⟨c.toNat, ascii⟩
  · rw [Text.toLower_beyond (Nat.le_of_not_lt ascii)]

theorem Disguise.skeleton_eq {left right : List Char} (disguise : Disguise left right) :
    skeleton left = skeleton right := by
  induction disguise with
  | done => rfl
  | @letter c d left right same _ ih =>
    have alike : isIgnored c = isIgnored d := by
      rw [← isIgnored_toLower c, same, isIgnored_toLower d]
    by_cases ignored : isIgnored d = true
    · simpa [skeleton, alike, ignored] using ih
    · simpa [skeleton, alike, ignored, same] using ih
  | dropped ignored _ ih => simpa [skeleton, ignored] using ih
  | inserted ignored _ ih => simpa [skeleton, ignored] using ih

theorem Disguise.isDangerous_eq {left right : List Char} (disguise : Disguise left right) :
    isDangerous left = isDangerous right := by
  rw [Bool.eq_iff_iff, isDangerous_iff, isDangerous_iff, disguise.skeleton_eq]

def isControl (c : Char) : Bool := c.toNat ≤ 0x20

def isBreak (c : Char) : Bool := c == '\t' || c == '\n' || c == '\r'

/-- What a reader of a page looks for a scheme in: no controls or spaces at either end, no tabs or
line breaks anywhere, and ASCII letters in lower case. -/
def preprocessed (url : List Char) : List Char :=
  (((url.dropWhile isControl).rdropWhile isControl).filter fun c => !isBreak c).map Char.toLower

theorem filter_dropWhile {dropped kept : Char → Bool} (apart : ∀ c, dropped c = true → kept c = false)
    (text : List Char) : (text.dropWhile dropped).filter kept = text.filter kept := by
  induction text with
  | nil => rfl
  | cons c text ih =>
    by_cases drops : dropped c = true
    · simp [drops, apart c drops, ih]
    · simp [drops]

theorem filter_rdropWhile {dropped kept : Char → Bool}
    (apart : ∀ c, dropped c = true → kept c = false) (text : List Char) :
    (text.rdropWhile dropped).filter kept = text.filter kept := by
  rw [List.rdropWhile, List.filter_reverse, filter_dropWhile apart, ← List.filter_reverse,
    List.reverse_reverse]

theorem isIgnored_of_isControl {c : Char} (control : isControl c = true) : isIgnored c = true := by
  have low : c.toNat ≤ 0x20 := by simpa [isControl] using control
  simp [isIgnored, low]

theorem isIgnored_of_isBreak {c : Char} (breaks : isBreak c = true) : isIgnored c = true := by
  have known : c = '\t' ∨ c = '\n' ∨ c = '\r' := by simpa [isBreak, or_assoc] using breaks
  rcases known with rfl | rfl | rfl <;> decide

theorem skeleton_preprocessed (url : List Char) :
    (preprocessed url).filter (fun c => !isIgnored c) = skeleton url := by
  have ends : ∀ c, isControl c = true → (!isIgnored c) = false := by
    intro c control
    simp [isIgnored_of_isControl control]
  have inner : ∀ c, (!isIgnored c && !isBreak c) = !isIgnored c := by
    intro c
    by_cases breaks : isBreak c = true
    · simp [isIgnored_of_isBreak breaks]
    · simp [breaks]
  have lowered : ((fun c => !isIgnored c) ∘ Char.toLower) = fun c => !isIgnored c := by
    funext c
    simp [isIgnored_toLower]
  rw [preprocessed, List.filter_map, lowered, List.filter_filter]
  simp only [inner]
  rw [filter_rdropWhile ends, filter_dropWhile ends, skeleton]

theorem dangerousSchemes_solid :
    ∀ scheme ∈ dangerousSchemes, scheme.toList.filter (fun c => !isIgnored c) = scheme.toList := by
  decide +kernel

theorem isDangerous_of_preprocessed {url : List Char} {scheme : String}
    (known : scheme ∈ dangerousSchemes) (starts : scheme.toList <+: preprocessed url) :
    isDangerous url = true := by
  have kept := starts.filter fun c => !isIgnored c
  rw [dangerousSchemes_solid scheme known, skeleton_preprocessed] at kept
  exact (isDangerous_iff url).mpr ⟨scheme, known, kept⟩

/-- Whatever a link was to lead to, no reader finds a scheme that runs script in what it is given. -/
theorem target_harmless (url scheme : String) (known : scheme ∈ dangerousSchemes) :
    ¬ scheme.toList <+: preprocessed (target url).toList := by
  intro starts
  have dangerous := isDangerous_of_preprocessed known starts
  by_cases given : isDangerous url.toList = true
  · have replaced : target url = neutral := by simp [target, given]
    rw [replaced] at dangerous
    exact absurd dangerous (by decide +kernel)
  · have kept : target url = url := by simp [target, given]
    rw [kept] at dangerous
    exact given dangerous

end Folio.Links
