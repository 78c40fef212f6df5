import Folio.Proofs.Assets.Exactness
import Folio.Proofs.Assets.Language

/-! Grammars that can be selected. A grammar is kept under the language that the name of its file
announces, but looked up under the one spelling of a language: only what announces that spelling is
ever found. -/
namespace Folio.Assets

open Files (Directory)
open Files.Directory (placed)

theorem mem_languages_iff (catalogue : Catalogue) (language : String) :
    language ∈ catalogue.languages ↔ language ∈ catalogue.grammars.map Prod.fst :=
  List.mem_mergeSort

theorem exists_canonical_iff (language : String) :
    (∃ asked, canonical asked = language) ↔ canonical language = language := by
  constructor
  · rintro ⟨asked, rfl⟩
    exact canonical_canonical asked
  · intro spelled
    exact ⟨language, spelled⟩

theorem grammar?_eq_some_iff {directory : Directory} {catalogue : Catalogue}
    (loaded : readCatalogue directory = .ok catalogue) (asked script : String) :
    catalogue.grammar? asked = some script ↔
      canonical asked ∈ catalogue.languages ∧
        readFile directory (grammarFile (canonical asked)) = .ok script := by
  rw [Catalogue.grammar?, lookup_grammars_iff loaded, mem_languages_iff, keys_grammars loaded]

/-- A listed language has its script in its own file, and whoever asks for it gets this script. It is
asked for at all just if it is in its one spelling; otherwise what is found under it, if anything,
belongs to another language. -/
theorem listed_grammar_selected {directory : Directory} {catalogue : Catalogue}
    (loaded : (loadCatalogue directory).outcome.1 = .ok catalogue) {language : String}
    (listed : language ∈ catalogue.languages) :
    ∃ script, readFile directory (grammarFile language) = .ok script ∧
      (∀ asked, canonical asked = language → catalogue.grammar? asked = some script) ∧
      ((∃ asked, canonical asked = language) ↔ canonical language = language) ∧
      ∀ found, catalogue.grammar? language = some found ↔
        canonical language ∈ catalogue.languages ∧
          readFile directory (grammarFile (canonical language)) = .ok found := by
  rw [outcome_loadCatalogue_fst] at loaded
  have present : grammarRow language ∈ rows directory := by
    rw [mem_languages_iff, keys_grammars loaded] at listed
    exact List.mem_append_left _ (List.mem_map_of_mem listed)
  obtain ⟨script, read⟩ := (exists_readCatalogue_iff directory).mp ⟨catalogue, loaded⟩ _ present
  refine ⟨script, read, ?_, exists_canonical_iff language, grammar?_eq_some_iff loaded language⟩
  rintro asked rfl
  exact (grammar?_eq_some_iff loaded asked script).mpr ⟨listed, read⟩

theorem load_sample : ∃ directory catalogue, Directory.ofFiles sample = .ok directory ∧
    (loadCatalogue directory).outcome.1 = .ok catalogue ∧
    ∀ language, language ∈ catalogue.languages ↔
      ∃ bytes, (placed sample).lookup (grammarFile language) = some bytes := by
  obtain ⟨directory, written⟩ :=
    (Files.Directory.ofFiles_eq_ok_iff laid_sample.apart).mpr nameable_sample
  have holds := Files.Directory.holds_ofFiles laid_sample.apart written
  obtain ⟨catalogue, loaded⟩ := (loadsExactly laid_sample holds).succeeds.mpr
    ⟨grammarsRead_sample, required_sample⟩
  refine ⟨directory, catalogue, written, ?_, fun language => ?_⟩
  · rw [outcome_loadCatalogue_fst, loaded]
  · rw [mem_languages_iff, keys_grammars loaded, mem_languages_of_laid laid_sample holds]

theorem listed_grammar_selected_sample : ∃ directory catalogue script,
    (loadCatalogue directory).outcome.1 = .ok catalogue ∧ "a.b" ∈ catalogue.languages ∧
      readFile directory (grammarFile "a.b") = .ok script ∧
      catalogue.grammar? "a.b" = some script := by
  obtain ⟨directory, catalogue, -, loaded, languages⟩ := load_sample
  rw [placed_sample] at languages
  have listed : "a.b" ∈ catalogue.languages :=
    (languages "a.b").mpr ⟨[120, 13, 10, 121, 13], by decide +kernel⟩
  obtain ⟨script, read, answered, -⟩ := listed_grammar_selected loaded listed
  have spelled : canonical "a.b" = "a.b" := by decide +kernel
  exact ⟨directory, catalogue, script, loaded, listed, read, answered "a.b" spelled⟩

/-- Who asks for shell scripts is led on to another language, for which there is no grammar. -/
theorem shell_grammar_lost : ∃ directory catalogue, Directory.ofFiles sample = .ok directory ∧
    (loadCatalogue directory).outcome.1 = .ok catalogue ∧ "sh" ∈ catalogue.languages ∧
    catalogue.grammar? "sh" = none := by
  obtain ⟨directory, catalogue, written, loaded, languages⟩ := load_sample
  rw [placed_sample] at languages
  have listed : "sh" ∈ catalogue.languages := (languages "sh").mpr ⟨[115], by decide +kernel⟩
  refine ⟨directory, catalogue, written, loaded, listed, ?_⟩
  rw [Option.eq_none_iff_forall_ne_some]
  intro script found
  rw [outcome_loadCatalogue_fst] at loaded
  have other := ((grammar?_eq_some_iff loaded "sh" script).mp found).1
  have spelled : canonical "sh" = "bash" := by decide +kernel
  obtain ⟨bytes, present⟩ := (languages "bash").mp (spelled ▸ other)
  have within := List.lookup_isSome_iff.mp (Option.isSome_of_mem present)
  revert within
  decide +kernel

end Folio.Assets
