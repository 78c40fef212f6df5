import Folio.Assets.Catalogue
import Folio.Proofs.Text.Lowercase

/-! The one spelling of a language. Spelling it again changes nothing, so it makes no difference which
of the two a grammar is looked up by; and it is empty only for a language that says nothing. White space
around a language does not change it, and neither does an alias in place of what it stands for. -/
namespace Folio.Assets

def plain (language : String) : String := Text.lowered (Text.trimmed language)

theorem canonical_eq (language : String) :
    canonical language = (aliases.lookup (plain language)).getD (plain language) := rfl

theorem toList_plain (language : String) :
    (plain language).toList = Text.lower (Text.trim language.toList) := by
  simp [plain, Text.lowered, Text.trimmed]

theorem plain_plain (language : String) : plain (plain language) = plain language := by
  have isTrim := (Text.isTrim_trim language.toList).lower
  rw [← String.toList_inj, toList_plain, toList_plain, isTrim.trim_eq, Text.lower_lower]

theorem plain_eq_empty_iff (language : String) :
    plain language = "" ↔ Text.trim language.toList = [] := by
  rw [← String.toList_inj, toList_plain, String.toList_empty, Text.lower_eq_nil_iff]

theorem aliases_spelled : ∀ entry ∈ aliases, canonical entry.2 = entry.2 ∧ entry.2 ≠ "" := by
  decide +kernel

theorem canonical_cases (language : String) :
    (∃ entry ∈ aliases, entry.1 = plain language ∧ canonical language = entry.2) ∨
      aliases.lookup (plain language) = none ∧ canonical language = plain language := by
  rw [canonical_eq]
  cases found : aliases.lookup (plain language) with
  | none => exact Or.inr ⟨rfl, rfl⟩
  | some target =>
    obtain ⟨before, after, table, -⟩ := List.lookup_eq_some_iff.mp found
    exact Or.inl ⟨(plain language, target), by simp [table], rfl, rfl⟩

theorem canonical_canonical (language : String) :
    canonical (canonical language) = canonical language := by
  rcases canonical_cases language with ⟨entry, known, -, same⟩ | ⟨unknown, same⟩
  · rw [same, (aliases_spelled entry known).1]
  · rw [same, canonical_eq, plain_plain, unknown, Option.getD_none]

theorem canonical_eq_empty_iff (language : String) :
    canonical language = "" ↔ Text.trim language.toList = [] := by
  rw [← plain_eq_empty_iff]
  rcases canonical_cases language with ⟨entry, known, name, same⟩ | ⟨-, same⟩
  · have named : ∀ entry ∈ aliases, entry.1 ≠ "" := by decide
    refine iff_of_false ?_ ?_
    · rw [same]
      exact (aliases_spelled entry known).2
    · rw [← name]
      exact named entry known
  · rw [same]

theorem grammar?_canonical (catalogue : Catalogue) (language : String) :
    catalogue.grammar? (canonical language) = catalogue.grammar? language := by
  rw [Catalogue.grammar?, canonical_canonical, Catalogue.grammar?]

theorem canonical_surrounded {before after : String}
    (blankBefore : before.toList.all Text.isBlank = true)
    (blankAfter : after.toList.all Text.isBlank = true) (language : String) :
    canonical (before ++ language ++ after) = canonical language := by
  have cut : plain (before ++ language ++ after) = plain language := by
    rw [← String.toList_inj, toList_plain, toList_plain, String.toList_append, String.toList_append,
      Text.trim_surrounded blankBefore blankAfter]
  rw [canonical_eq, canonical_eq, cut]

theorem aliases_lead : ∀ entry ∈ aliases,
    (entry.1.toList.any Text.isBlank = false ∧ entry.2.toList.any Text.isBlank = false) ∧
      aliases.lookup entry.1 = some entry.2 ∧ aliases.lookup entry.2 = none := by
  decide +kernel

theorem plain_of_lowered {spelling name : String} (shown : name.toList.any Text.isBlank = false)
    (same : Text.lowered spelling = name) : plain spelling = name := by
  have letters : Text.lower spelling.toList = name.toList := by
    rw [← same, Text.lowered, String.toList_ofList]
  have unbroken : ∀ c ∈ spelling.toList, Text.isBlank c = false := by
    intro c member
    rw [Bool.eq_false_iff]
    intro blank
    have kept : c ∈ name.toList := letters ▸ Text.mem_lowerFrom_of_blank blank member []
    exact List.any_eq_false.mp shown c kept blank
  rw [← String.toList_inj, toList_plain, (Text.IsTrim.of_shown unbroken).trim_eq, letters]

theorem canonical_alias {entry : String × String} (known : entry ∈ aliases)
    {spelling other : String} (short : Text.lowered spelling = entry.1)
    (full : Text.lowered other = entry.2) : canonical other = canonical spelling := by
  obtain ⟨⟨shortShown, fullShown⟩, leads, ends⟩ := aliases_lead entry known
  rw [canonical_eq, canonical_eq, plain_of_lowered shortShown short, plain_of_lowered fullShown full,
    leads, ends, Option.getD_none, Option.getD_some]

end Folio.Assets
