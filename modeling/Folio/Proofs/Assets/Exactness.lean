import Folio.Proofs.Assets.Loading

/-! Loading is exact. A catalogue holds what the required files and the files of grammars read as;
no other file has a say, and which of several errors is reported follows from the order of rows. -/
namespace Folio.Assets

open Files (Directory Path)
open Files.Directory (Apart Holds placed)

def folders : List Path := [["css"], ["js"], grammarFolder, ["icons"]]

def IsAsset (path : Path) : Prop :=
  path ∈ required.map Prod.snd ∨ ∃ language, path = grammarFile language

theorem isAsset_of_required {row : String × Path} (within : row ∈ required) : IsAsset row.2 :=
  .inl (List.mem_map.mpr ⟨row, within, rfl⟩)

theorem isAsset_grammarFile (language : String) : IsAsset (grammarFile language) :=
  .inr ⟨language, rfl⟩

theorem IsAsset.named {path : Path} (asset : IsAsset path) : path ≠ [] := by
  rcases asset with within | ⟨language, rfl⟩
  · rintro rfl
    simp [required] at within
  · simp [grammarFile]

theorem IsAsset.above {path : Path} (asset : IsAsset path) :
    ∀ folder ∈ path.above, folder = [] ∨ folder ∈ folders := by
  rcases asset with within | ⟨language, rfl⟩
  · simp only [required, List.map_cons, List.map_nil, List.mem_cons, List.not_mem_nil,
      or_false] at within
    rcases within with rfl | rfl | rfl | rfl | rfl | rfl | rfl | rfl | rfl <;>
      simp [Path.above, folders]
  · simp [grammarFile, grammarFolder, Path.above, folders]

theorem not_isAsset_folder {folder : Path} (known : folder = [] ∨ folder ∈ folders) :
    ¬ IsAsset folder := by
  simp only [folders, grammarFolder, List.mem_cons, List.not_mem_nil, or_false] at known
  rintro (within | ⟨language, rfl⟩)
  · rcases known with rfl | rfl | rfl | rfl | rfl <;> simp [required] at within
  · simp [grammarFile, grammarFolder] at known

/-- Files that lie apart, with no file where a folder of assets is and no folder where an asset is.
-/
structure Laid (files : List (Path × List UInt8)) : Prop where
  apart : Apart files
  reachable : ∀ folder ∈ folders, folder ∉ files.map Prod.fst
  whole : ∀ path, IsAsset path → ∀ file ∈ files, path ∉ file.1.above

def HasText (files : List (Path × List UInt8)) (path : Path) (text : String) : Prop :=
  ∃ bytes, files.lookup path = some bytes ∧ ReadsAs bytes text

def GrammarsRead (files : List (Path × List UInt8)) : Prop :=
  ∀ language bytes, files.lookup (grammarFile language) = some bytes → ∃ script, ReadsAs bytes script

section Reading

variable {files : List (Path × List UInt8)} {directory : Directory} (laid : Laid files)
  (holds : Holds directory files)
include laid holds

theorem read?_asset {path : Path} (asset : IsAsset path) :
    directory.read? path = .ok (files.lookup path) := by
  unfold Directory.read?
  cases present : files.lookup path with
  | some bytes => rw [(holds.file path bytes).mpr present]
  | none =>
    have missing := Files.Directory.lookup_eq_none_iff_not_mem.mp present
    have clear : directory.isBlocked path = false := by
      rw [Files.Directory.isBlocked_eq_false_iff]
      intro folder above
      rcases asset.above folder above with rfl | known
      · rfl
      · exact holds.holdsFile (laid.reachable folder known)
    rw [holds.entry?_eq_none asset.named missing (laid.whole path asset), clear]
    rfl

theorem readFile_of_missing {path : Path} (asset : IsAsset path)
    (missing : files.lookup path = none) :
    readFile directory path = .error (.missingFile path.text) := by
  rw [readFile, read?_asset laid holds asset, missing]
  rfl

theorem readFile_of_lookup {path : Path} (asset : IsAsset path) {bytes : List UInt8}
    (present : files.lookup path = some bytes) :
    readFile directory path = readBytes bytes := by
  rw [readFile, read?_asset laid holds asset, present]
  rfl

theorem readFile_eq_ok_iff {path : Path} (asset : IsAsset path) (text : String) :
    readFile directory path = .ok text ↔ HasText files path text := by
  unfold HasText
  cases present : files.lookup path with
  | none => simp [readFile_of_missing laid holds asset present]
  | some bytes => simp [readFile_of_lookup laid holds asset present, readBytes_eq_ok_iff]

theorem mem_languages_of_laid (language : String) :
    language ∈ grammarLanguages directory ↔
      ∃ bytes, files.lookup (grammarFile language) = some bytes := by
  have asset := isAsset_grammarFile language
  simp only [mem_grammarLanguages_iff, ← holds.file]
  cases found : directory.entry? (grammarFile language) with
  | none => simp
  | some entry =>
    cases entry with
    | file bytes => simp
    | folder =>
      obtain ⟨file, within, above⟩ := (holds.folder _ asset.named).mp found
      exact absurd above (laid.whole _ asset file within)

theorem grammarsRead_iff :
    GrammarsRead files ↔ ∀ language ∈ grammarLanguages directory,
      ∃ script, readFile directory (grammarFile language) = .ok script := by
  simp only [readFile_eq_ok_iff laid holds (isAsset_grammarFile _), HasText]
  constructor
  · intro read language within
    obtain ⟨bytes, present⟩ := (mem_languages_of_laid laid holds language).mp within
    obtain ⟨script, reads⟩ := read language bytes present
    exact ⟨script, bytes, present, reads⟩
  · intro read language bytes present
    have within := (mem_languages_of_laid laid holds language).mpr ⟨bytes, present⟩
    obtain ⟨script, other, found, reads⟩ := read language within
    obtain rfl := Option.some.inj (present.symm.trans found)
    exact ⟨script, reads⟩

theorem required_read_iff {part : List (String × Path)} (known : part ⊆ required) :
    (∀ row ∈ part, ∃ text, HasText files row.2 text) ↔
      ∀ row ∈ part, ∃ text, readFile directory row.2 = .ok text := by
  refine forall₂_congr fun row within => exists_congr fun text => ?_
  exact (readFile_eq_ok_iff laid holds (isAsset_of_required (known within)) text).symm

theorem readCatalogue_of_required {before after : List (String × Path)} {row : String × Path}
    {fault : Fault} (order : required = before ++ row :: after) (read : GrammarsRead files)
    (clear : ∀ earlier ∈ before, ∃ text, HasText files earlier.2 text)
    (failed : readFile directory row.2 = .error fault) :
    readCatalogue directory = .error fault := by
  have known : before ⊆ required := by
    rw [order]
    exact List.subset_append_left before _
  have order' : rows directory =
      (grammarLanguages directory).map grammarRow ++ before ++ row :: after := by
    rw [rows, order, List.append_assoc]
  apply readCatalogue_of_error order'
  · intro earlier within
    rcases List.mem_append.mp within with grammar | front
    · obtain ⟨language, present, rfl⟩ := List.mem_map.mp grammar
      exact (grammarsRead_iff laid holds).mp read language present
    · exact (required_read_iff laid holds known).mp clear earlier front
  · exact failed

theorem readCatalogue_congr {others : List (Path × List UInt8)} {another : Directory}
    (laid' : Laid others) (holds' : Holds another others)
    (agree : ∀ path, IsAsset path → others.lookup path = files.lookup path) :
    readCatalogue another = readCatalogue directory := by
  have same : ∀ path, IsAsset path → readFile another path = readFile directory path := by
    intro path asset
    rw [readFile, readFile, read?_asset laid' holds' asset, read?_asset laid holds asset,
      agree path asset]
  -- The order of the names leaves no choice, however the two directories were filled.
  have languages : grammarLanguages another = grammarLanguages directory := by
    apply List.Perm.eq_of_pairwise _ (pairwise_grammarLanguages another)
      (pairwise_grammarLanguages directory)
    · apply (List.perm_ext_iff_of_nodup (nodup_grammarLanguages holds'.single)
        (nodup_grammarLanguages holds.single)).mpr
      intro language
      rw [mem_languages_of_laid laid' holds', mem_languages_of_laid laid holds,
        agree _ (isAsset_grammarFile language)]
    · intro left right _ _ one other
      exact grammarName_injective (le_antisymm one other)
  have grammars : readGrammars another (another.namesIn grammarFolder) =
      readGrammars directory (directory.namesIn grammarFolder) := by
    rw [readGrammars_namesIn, readGrammars_namesIn, languages]
    apply Outcome.mapM_congr
    intro row within
    obtain ⟨language, -, rfl⟩ := List.mem_map.mp within
    rw [readRow, readRow, same (grammarRow language).2 (isAsset_grammarFile language)]
  have texts : ∀ path ∈ required.map Prod.snd, readFile another path = readFile directory path :=
    fun path within => same path (.inl within)
  simp only [required, List.map_cons, List.map_nil, List.forall_mem_cons] at texts
  simp only [readCatalogue, grammars, texts]

end Reading

/-- What a catalogue that is loaded from files, or the error instead, says about the files. -/
structure LoadsExactly (files : List (Path × List UInt8)) (outcome : Except Fault Catalogue) :
    Prop where
  succeeds : (∃ catalogue, outcome = .ok catalogue) ↔
    GrammarsRead files ∧ ∀ row ∈ required, ∃ text, HasText files row.2 text
  texts : ∀ catalogue, outcome = .ok catalogue →
    List.Forall₂ (fun row text => row.1 = text.1 ∧ HasText files row.2 text.2) required
      catalogue.texts
  distinct : ∀ catalogue, outcome = .ok catalogue → (catalogue.grammars.map Prod.fst).Nodup
  grammars : ∀ catalogue, outcome = .ok catalogue → ∀ language script,
    catalogue.grammars.lookup language = some script ↔ HasText files (grammarFile language) script
  -- Grammars come first, in the order of the names of their files, then what is required.
  brokenGrammar : ∀ language bytes mishap, files.lookup (grammarFile language) = some bytes →
    Text.Utf8.decode bytes = .error mishap →
    (∀ other bytes, grammarName other < grammarName language →
      files.lookup (grammarFile other) = some bytes → ∃ script, ReadsAs bytes script) →
    outcome = .error (.badUtf8 mishap)
  missing : ∀ before row after, required = before ++ row :: after → GrammarsRead files →
    (∀ earlier ∈ before, ∃ text, HasText files earlier.2 text) → files.lookup row.2 = none →
    outcome = .error (.missingFile row.2.text)
  broken : ∀ before row after bytes mishap, required = before ++ row :: after →
    GrammarsRead files → (∀ earlier ∈ before, ∃ text, HasText files earlier.2 text) →
    files.lookup row.2 = some bytes → Text.Utf8.decode bytes = .error mishap →
    outcome = .error (.badUtf8 mishap)

theorem loadsExactly {files : List (Path × List UInt8)} {directory : Directory} (laid : Laid files)
    (holds : Holds directory files) : LoadsExactly files (readCatalogue directory) := by
  constructor
  case succeeds =>
    rw [exists_readCatalogue_iff, rows, List.forall_mem_append, List.forall_mem_map,
      grammarsRead_iff laid holds, required_read_iff laid holds (List.Subset.refl required)]
    rfl
  case texts =>
    intro catalogue loaded
    -- What is read of a row is known only where the row is an asset.
    have known : ∀ row ∈ required, IsAsset row.2 := fun row => isAsset_of_required
    have read := (List.forall₂_and_left _ _).mpr ⟨known, (forall₂_of_readCatalogue loaded).2⟩
    apply read.imp
    intro row text known
    obtain ⟨same, found⟩ := readRow_eq_ok_iff.mp known.2
    exact ⟨same, (readFile_eq_ok_iff laid holds known.1 text.2).mp found⟩
  case distinct =>
    intro catalogue loaded
    rw [keys_grammars loaded]
    exact nodup_grammarLanguages holds.single
  case grammars =>
    intro catalogue loaded language script
    rw [lookup_grammars_iff loaded, mem_languages_of_laid laid holds,
      readFile_eq_ok_iff laid holds (isAsset_grammarFile language), and_iff_right_iff_imp]
    rintro ⟨bytes, present, -⟩
    exact ⟨bytes, present⟩
  case brokenGrammar =>
    intro language bytes mishap present broken clear
    have asset := isAsset_grammarFile language
    have within := (mem_languages_of_laid laid holds language).mpr ⟨bytes, present⟩
    apply readCatalogue_of_grammar holds.single within
    · intro other within lower
      obtain ⟨bytes, found⟩ := (mem_languages_of_laid laid holds other).mp within
      obtain ⟨script, reads⟩ := clear other bytes lower found
      exact ⟨script, (readFile_eq_ok_iff laid holds (isAsset_grammarFile other) script).mpr
        ⟨bytes, found, reads⟩⟩
    · rw [readFile_of_lookup laid holds asset present, readBytes_of_error broken]
  case missing =>
    intro before row after order read clear gone
    have asset : IsAsset row.2 := isAsset_of_required (by simp [order])
    exact readCatalogue_of_required laid holds order read clear
      (readFile_of_missing laid holds asset gone)
  case broken =>
    intro before row after bytes mishap order read clear present broken
    have asset : IsAsset row.2 := isAsset_of_required (by simp [order])
    apply readCatalogue_of_required laid holds order read clear
    rw [readFile_of_lookup laid holds asset present, readBytes_of_error broken]

/-- Whether a directory can be filled with files depends on their names alone. Of one that is, only
the assets count, and they decide what is loaded and with which notices, or which error it is. -/
theorem loadCatalogue_exact (files : List (String × List UInt8)) (laid : Laid (placed files)) :
    ((∃ directory, Directory.ofFiles files = .ok directory) ↔
        ∀ file ∈ placed files, file.1.Nameable) ∧
      ∀ directory, Directory.ofFiles files = .ok directory →
        LoadsExactly (placed files) (loadCatalogue directory).outcome.1 ∧
          ∀ others another, Laid (placed others) → Directory.ofFiles others = .ok another →
            (∀ path, IsAsset path → (placed others).lookup path = (placed files).lookup path) →
            (loadCatalogue another).outcome = (loadCatalogue directory).outcome := by
  refine ⟨Files.Directory.ofFiles_eq_ok_iff laid.apart, fun directory written => ?_⟩
  have holds := Files.Directory.holds_ofFiles laid.apart written
  constructor
  · rw [outcome_loadCatalogue_fst]
    exact loadsExactly laid holds
  · intro others another laid' written' agree
    have holds' := Files.Directory.holds_ofFiles laid'.apart written'
    have same := readCatalogue_congr laid holds laid' holds' agree
    rw [outcome_loadCatalogue, outcome_loadCatalogue, same]

def sample : List (String × List UInt8) :=
  required.map (fun row => (row.2.text, [97])) ++
    [("js/prism/prism-a.b.js", [120, 13, 10, 121, 13]), ("js/prism/prism-sh.js", [115]),
      ("js/prism/notes.txt", [255])]

theorem placed_sample : placed sample =
    required.map (fun row => (row.2, [97])) ++
      [(grammarFile "a.b", [120, 13, 10, 121, 13]), (grammarFile "sh", [115]),
        (["js", "prism", "notes.txt"], [255])] := by
  decide +kernel

theorem laid_sample : Laid (placed sample) := by
  have ways : ∀ file ∈ placed sample, ∀ folder ∈ file.1.above, folder = [] ∨ folder ∈ folders := by
    rw [placed_sample]
    decide +kernel
  rw [placed_sample] at ways ⊢
  constructor
  · exact ⟨by decide +kernel, by decide +kernel⟩
  · decide +kernel
  · intro path asset file within above
    exact not_isAsset_folder (ways file within path above) asset

theorem nameable_sample : ∀ file ∈ placed sample, file.1.Nameable := by
  have each : ∀ file ∈ placed sample,
      file.1 ≠ [] ∧ file.1.hasNull = false ∧ file.1.hasLongName = false := by
    rw [placed_sample]
    decide +kernel
  intro file within
  obtain ⟨named, plain, short⟩ := each file within
  exact ⟨named, plain, short⟩

theorem grammarsRead_sample : GrammarsRead (placed sample) := by
  have texts : ∀ file ∈ placed sample, file.1.getLast? ≠ some "notes.txt" →
      file.2 = Text.Utf8.encode ['a'] ∨ file.2 = Text.Utf8.encode ['x', '\r', '\n', 'y', '\r'] ∨
        file.2 = Text.Utf8.encode ['s'] := by
    rw [placed_sample]
    decide +kernel
  intro language bytes present
  obtain ⟨before, after, order, -⟩ := List.lookup_eq_some_iff.mp present
  have within : (grammarFile language, bytes) ∈ placed sample := by simp [order]
  have grammar : (grammarFile language).getLast? ≠ some "notes.txt" := by
    simp [grammarFile, grammarName, ← String.toList_inj]
  obtain ⟨chars, rfl⟩ : ∃ chars, bytes = Text.Utf8.encode chars := by
    rcases texts _ within grammar with same | same | same <;> exact ⟨_, same⟩
  exact ⟨_, readsAs_encode chars⟩

theorem required_sample : ∀ row ∈ required, ∃ text, HasText (placed sample) row.2 text := by
  have there : ∀ row ∈ required, (placed sample).lookup row.2 = some [97] := by
    rw [placed_sample]
    decide +kernel
  exact fun row within => ⟨"a", [97], there row within, readsAs_encode ['a']⟩

theorem loadCatalogue_exact_sample :
    Laid (placed sample) ∧ ∃ directory catalogue, Directory.ofFiles sample = .ok directory ∧
      (loadCatalogue directory).outcome.1 = .ok catalogue ∧
      catalogue.grammars.lookup "a.b" = some "x\ny\n" := by
  obtain ⟨made, loads⟩ := loadCatalogue_exact sample laid_sample
  obtain ⟨directory, written⟩ := made.mpr nameable_sample
  obtain ⟨exactly, -⟩ := loads directory written
  obtain ⟨catalogue, loaded⟩ := exactly.succeeds.mpr ⟨grammarsRead_sample, required_sample⟩
  have grammar : (placed sample).lookup (grammarFile "a.b") = some [120, 13, 10, 121, 13] := by
    rw [placed_sample]
    decide +kernel
  exact ⟨laid_sample, directory, catalogue, written, loaded,
    (exactly.grammars catalogue loaded "a.b" "x\ny\n").mpr
      ⟨[120, 13, 10, 121, 13], grammar, readsAs_encode ['x', '\r', '\n', 'y', '\r']⟩⟩

end Folio.Assets
