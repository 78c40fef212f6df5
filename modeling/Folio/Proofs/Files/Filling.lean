import Folio.Files.Directory
import Folio.Proofs.Outcome
import Mathlib.Data.List.Nodup
import Mathlib.Data.String.Basic

/-! Filling a directory. Once files have been written that lie apart from one another, there are
these files, the folders above them, and nothing else. -/
namespace Folio.Files

namespace Path

theorem above_eq {path : Path} (named : path ≠ []) :
    above path = above path.dropLast ++ [path.dropLast] := by
  induction path with
  | nil => exact absurd rfl named
  | cons name rest ih =>
    cases rest with
    | nil => rfl
    | cons next rest =>
      have onward := ih (List.cons_ne_nil next rest)
      rw [above, onward, List.dropLast_cons_cons, above]
      simp

theorem not_mem_above (path : Path) : path ∉ path.above := by
  induction path with
  | nil => exact List.not_mem_nil
  | cons name rest ih => simpa [above] using ih

/-- Whether a file can have the path: it has a name, and all names on the way can be written. -/
structure Nameable (path : Path) : Prop where
  named : path ≠ []
  plain : path.hasNull = false
  short : path.hasLongName = false

theorem Nameable.above {path : Path} (nameable : path.Nameable) :
    hasNull path.dropLast = false ∧ hasLongName path.dropLast = false := by
  have plain := List.any_eq_false.mp nameable.plain
  have short := List.any_eq_false.mp nameable.short
  constructor
  · exact List.any_eq_false.mpr fun name within => plain name (List.dropLast_subset path within)
  · exact List.any_eq_false.mpr fun name within => short name (List.dropLast_subset path within)

end Path

namespace Directory

theorem lookup_row {α : Type} (path : Path) (row : Path × α) (rest : List (Path × α)) :
    (row :: rest).lookup path = if path = row.1 then some row.2 else rest.lookup path := by
  rw [List.lookup_cons]
  by_cases same : path = row.1
  · simp [same]
  · simp [beq_false_of_ne same, same]

theorem entry?_nil (directory : Directory) : directory.entry? [] = some .folder := rfl

theorem entry?_of_ne {path : Path} (named : path ≠ []) (directory : Directory) :
    directory.entry? path = directory.lookup path := by
  cases path with
  | nil => exact absurd rfl named
  | cons name rest => rfl

theorem lookup_eq_none_iff_not_mem {α : Type} {path : Path} {rows : List (Path × α)} :
    rows.lookup path = none ↔ path ∉ rows.map Prod.fst := by
  rw [List.lookup_eq_none_iff, List.mem_map, not_exists]
  refine forall_congr' fun row => ?_
  rw [bne_iff_ne, not_and, ne_comm]

theorem lookup_put (directory : Directory) (path other : Path) (entry : Entry) :
    (directory.put path entry).lookup other =
      if other = path then some entry else directory.lookup other := by
  induction directory with
  | nil => rw [put, lookup_row]
  | cons head rest ih =>
    obtain ⟨found, old⟩ := head
    by_cases taken : found = path
    · subst taken
      by_cases same : other = found <;> simp [put, lookup_row, same]
    · by_cases same : other = found
      · subst same
        simp [put, taken]
      · simp [put, taken, lookup_row, same, ih]

theorem entry?_put {path : Path} (named : path ≠ []) (directory : Directory) (entry : Entry)
    (other : Path) :
    entry? (directory.put path entry) other =
      if other = path then some entry else directory.entry? other := by
  cases other with
  | nil => rw [entry?_nil, entry?_nil, if_neg named.symm]
  | cons name rest => exact lookup_put directory path (name :: rest) entry

theorem keys_put (directory : Directory) (path : Path) (entry : Entry) :
    (directory.put path entry).map Prod.fst =
      if path ∈ directory.map Prod.fst then directory.map Prod.fst
      else directory.map Prod.fst ++ [path] := by
  induction directory with
  | nil => simp [put]
  | cons head rest ih =>
    obtain ⟨found, old⟩ := head
    by_cases taken : found = path
    · simp [put, taken]
    · have other : path ≠ found := Ne.symm taken
      by_cases further : path ∈ rest.map Prod.fst <;> simp_all [put]

def Single (directory : Directory) : Prop := (directory.map Prod.fst).Nodup

theorem Single.put {directory : Directory} (single : directory.Single) (path : Path)
    (entry : Entry) : (Directory.put directory path entry).Single := by
  rw [Single, keys_put]
  split_ifs with taken
  · exact single
  · exact single.append (List.nodup_singleton path) (by simpa using taken)

theorem entry?_addFolder (directory : Directory) (path other : Path) :
    entry? (directory.addFolder path) other =
      (directory.entry? other).or (if other = path then some .folder else none) := by
  unfold addFolder
  by_cases there : (directory.entry? path).isSome
  · rw [if_pos there]
    by_cases same : other = path
    · subst same
      obtain ⟨entry, found⟩ := Option.isSome_iff_exists.mp there
      simp [found]
    · simp [same]
  · have named : path ≠ [] := by
      rintro rfl
      exact there rfl
    rw [if_neg there, entry?_put named]
    by_cases same : other = path
    · subst same
      simp [Option.not_isSome_iff_eq_none.mp there]
    · simp [same]

theorem entry?_addFolders (directory : Directory) (folders : List Path) (other : Path) :
    entry? (folders.foldl addFolder directory) other =
      (directory.entry? other).or (if other ∈ folders then some .folder else none) := by
  induction folders generalizing directory with
  | nil => simp
  | cons folder folders ih =>
    rw [List.foldl_cons, ih, entry?_addFolder, Option.or_assoc]
    by_cases same : other = folder <;> simp [same]

theorem Single.addFolders {directory : Directory} (single : directory.Single)
    (folders : List Path) : Single (folders.foldl addFolder directory) := by
  induction folders generalizing directory with
  | nil => exact single
  | cons folder folders ih =>
    apply ih
    unfold addFolder
    split_ifs
    · exact single
    · exact single.put folder .folder

theorem holdsFile_iff (directory : Directory) (path : Path) :
    directory.holdsFile path = true ↔ ∃ bytes, directory.entry? path = some (.file bytes) := by
  unfold holdsFile
  split <;> simp_all

theorem isBlocked_eq_false_iff (directory : Directory) (path : Path) :
    directory.isBlocked path = false ↔
      ∀ folder ∈ path.above, directory.holdsFile folder = false := by
  simp only [isBlocked, List.any_eq_false, Bool.not_eq_true]

theorem checkPlace_eq_ok_iff (directory : Directory) (path : Path) :
    directory.checkPlace path = .ok () ↔
      path.hasNull = false ∧ directory.isBlocked path = false ∧ path.hasLongName = false := by
  unfold checkPlace
  split_ifs <;> simp_all

theorem nameable_of_write {directory after : Directory} {path : Path} {bytes : List UInt8}
    (written : directory.write path bytes = .ok after) : path.Nameable := by
  obtain ⟨middle, -, written⟩ := Outcome.bind_eq_ok_iff.mp written
  obtain ⟨⟨⟩, placed, written⟩ := Outcome.bind_eq_ok_iff.mp written
  obtain ⟨plain, -, short⟩ := (checkPlace_eq_ok_iff middle path).mp placed
  refine ⟨?_, plain, short⟩
  rintro rfl
  rw [entry?_nil] at written
  cases written

theorem holdsFile_addFolders {directory : Directory} {path : Path}
    (vacant : directory.holdsFile path = false) (folders : List Path) :
    holdsFile (folders.foldl addFolder directory) path = false := by
  rw [holdsFile, entry?_addFolders]
  unfold holdsFile at vacant
  cases found : directory.entry? path with
  | none => by_cases within : path ∈ folders <;> simp [within]
  | some entry => simpa [found] using vacant

theorem makeFolder_above {directory : Directory} {path : Path} (nameable : path.Nameable)
    (free : ∀ folder ∈ path.above, directory.holdsFile folder = false) :
    directory.makeFolder path.dropLast = .ok (path.above.foldl addFolder directory) := by
  rw [Path.above_eq nameable.named] at free ⊢
  have way : directory.isBlocked path.dropLast = false := by
    rw [isBlocked_eq_false_iff]
    exact fun folder within => free folder (List.mem_append_left _ within)
  have placed : directory.checkPlace path.dropLast = .ok () :=
    (checkPlace_eq_ok_iff directory _).mpr ⟨nameable.above.1, way, nameable.above.2⟩
  have vacant := free path.dropLast (List.mem_append_right _ List.mem_cons_self)
  rw [makeFolder, placed, vacant]
  rfl

theorem write_fresh {directory : Directory} {path : Path} (nameable : path.Nameable)
    (free : ∀ folder ∈ path.above, directory.holdsFile folder = false)
    (fresh : directory.entry? path = none) (bytes : List UInt8) :
    directory.write path bytes =
      .ok (put (path.above.foldl addFolder directory) path (.file bytes)) := by
  have way : isBlocked (path.above.foldl addFolder directory) path = false := by
    rw [isBlocked_eq_false_iff]
    exact fun folder within => holdsFile_addFolders (free folder within) path.above
  have clear : checkPlace (path.above.foldl addFolder directory) path = .ok () :=
    (checkPlace_eq_ok_iff _ path).mpr ⟨nameable.plain, way, nameable.short⟩
  have vacant : entry? (path.above.foldl addFolder directory) path = none := by
    rw [entry?_addFolders, fresh, if_neg path.not_mem_above]
    rfl
  rw [write, makeFolder_above nameable free]
  simp [bind, Except.bind, clear, vacant]

/-- Files with different paths, none of them above another. -/
structure Apart (files : List (Path × List UInt8)) : Prop where
  distinct : (files.map Prod.fst).Nodup
  beside : ∀ file ∈ files, ∀ other ∈ files, file.1 ∉ other.1.above

/-- The directory has these files, the folders above them, and nothing else. -/
structure Holds (directory : Directory) (files : List (Path × List UInt8)) : Prop where
  single : directory.Single
  file : ∀ path bytes, directory.entry? path = some (.file bytes) ↔ files.lookup path = some bytes
  folder : ∀ path, path ≠ [] →
    (directory.entry? path = some .folder ↔ ∃ file ∈ files, path ∈ file.1.above)

theorem holds_empty : Holds [] [] := by
  refine ⟨List.nodup_nil, fun path bytes => ?_, fun path named => ?_⟩
  · cases path with
    | nil => simp [entry?_nil]
    | cons name rest => simp [entry?_of_ne]
  · cases path with
    | nil => exact absurd rfl named
    | cons name rest => simp [entry?_of_ne]

theorem Holds.holdsFile {directory : Directory} {files : List (Path × List UInt8)}
    (holds : Holds directory files) {path : Path} (missing : path ∉ files.map Prod.fst) :
    directory.holdsFile path = false := by
  rw [← Bool.not_eq_true, holdsFile_iff]
  rintro ⟨bytes, found⟩
  rw [holds.file path bytes, lookup_eq_none_iff_not_mem.mpr missing] at found
  exact Option.some_ne_none bytes found.symm

theorem Holds.entry?_eq_none {directory : Directory} {files : List (Path × List UInt8)}
    (holds : Holds directory files) {path : Path} (named : path ≠ [])
    (missing : path ∉ files.map Prod.fst) (bare : ∀ file ∈ files, path ∉ file.1.above) :
    directory.entry? path = none := by
  cases found : directory.entry? path with
  | none => rfl
  | some entry =>
    cases entry with
    | folder =>
      obtain ⟨file, within, above⟩ := (holds.folder path named).mp found
      exact absurd above (bare file within)
    | file bytes =>
      rw [holds.file path bytes, lookup_eq_none_iff_not_mem.mpr missing] at found
      exact absurd found.symm (Option.some_ne_none bytes)

theorem Holds.write {directory : Directory} {files : List (Path × List UInt8)}
    (holds : Holds directory files) {path : Path} (nameable : path.Nameable) {bytes : List UInt8}
    (apart : Apart (files ++ [(path, bytes)])) :
    ∃ after, Directory.write directory path bytes = .ok after ∧
      Holds after (files ++ [(path, bytes)]) := by
  -- Nothing is there under the path yet, and no file on the way to it.
  have last : (path, bytes) ∈ files ++ [(path, bytes)] := by simp
  have missing : path ∉ files.map Prod.fst := by
    have distinct := apart.distinct
    rw [List.map_append, List.nodup_append'] at distinct
    exact fun within => distinct.2.2 within List.mem_cons_self
  have below : ∀ file ∈ files, path ∉ file.1.above := fun file within =>
    apart.beside (path, bytes) last file (List.mem_append_left _ within)
  have beyond : ∀ folder ∈ path.above, folder ∉ files.map Prod.fst := by
    intro folder above within
    obtain ⟨file, present, rfl⟩ := List.mem_map.mp within
    exact apart.beside file (List.mem_append_left _ present) (path, bytes) last above
  have written := write_fresh nameable (fun folder above => holds.holdsFile (beyond folder above))
    (holds.entry?_eq_none nameable.named missing below) bytes
  have entries := entry?_put nameable.named (path.above.foldl addFolder directory) (.file bytes)
  refine ⟨_, written, (holds.single.addFolders path.above).put path _, ?_, ?_⟩
  · intro other content
    rw [entries other, List.lookup_append, lookup_row]
    by_cases same : other = path
    · subst same
      simp [lookup_eq_none_iff_not_mem.mpr missing]
    · -- The folders that were made on the way hide no file.
      have kept := holds.file other content
      rw [if_neg same, if_neg same, entry?_addFolders, List.lookup_nil, Option.or_none, ← kept]
      cases directory.entry? other <;> simp
  · intro other named
    rw [entries other, entry?_addFolders]
    simp only [List.mem_append, or_and_right, exists_or, List.mem_singleton, exists_eq_left,
      ← holds.folder other named]
    by_cases same : other = path
    · subst same
      have none := holds.entry?_eq_none nameable.named missing below
      simp [none, Path.not_mem_above]
    · by_cases above : other ∈ path.above
      · have vacant := holds.holdsFile (beyond other above)
        cases found : directory.entry? other with
        | none => simp [same, above]
        | some entry => cases entry <;> simp_all [Directory.holdsFile]
      · simp [same, above]

def writeAll (directory : Directory) (files : List (Path × List UInt8)) : Except Fault Directory :=
  files.foldlM (fun directory file => Directory.write directory file.1 file.2) directory

theorem writeAll_cons (directory : Directory) (file : Path × List UInt8)
    (files : List (Path × List UInt8)) :
    directory.writeAll (file :: files) =
      directory.write file.1 file.2 >>= fun middle => middle.writeAll files :=
  List.foldlM_cons

theorem nameable_of_writeAll {files : List (Path × List UInt8)} {directory after : Directory}
    (written : directory.writeAll files = .ok after) : ∀ file ∈ files, file.1.Nameable := by
  induction files generalizing directory with
  | nil => simp
  | cons file files ih =>
    rw [writeAll_cons] at written
    obtain ⟨middle, first, later⟩ := Outcome.bind_eq_ok_iff.mp written
    exact List.forall_mem_cons.mpr ⟨nameable_of_write first, ih later⟩

theorem Apart.start {files more : List (Path × List UInt8)} (apart : Apart (files ++ more)) :
    Apart files := by
  constructor
  · have distinct := apart.distinct
    rw [List.map_append] at distinct
    exact distinct.of_append_left
  · intro file within other present
    exact apart.beside file (List.mem_append_left more within) other
      (List.mem_append_left more present)

theorem Holds.writeAll {directory : Directory} {done : List (Path × List UInt8)}
    (holds : Holds directory done) (files : List (Path × List UInt8))
    (nameable : ∀ file ∈ files, file.1.Nameable) (apart : Apart (done ++ files)) :
    ∃ after, Directory.writeAll directory files = .ok after ∧ Holds after (done ++ files) := by
  induction files generalizing directory done with
  | nil => exact ⟨directory, rfl, by simpa using holds⟩
  | cons file files ih =>
    rw [List.append_cons] at apart ⊢
    obtain ⟨middle, written, kept⟩ := holds.write (nameable file List.mem_cons_self) apart.start
    rw [writeAll_cons, written]
    exact ih kept (fun other within => nameable other (List.mem_cons_of_mem file within)) apart

def placed (files : List (String × List UInt8)) : List (Path × List UInt8) :=
  files.map fun file => (Path.ofText file.1, file.2)

theorem ofFiles_eq (files : List (String × List UInt8)) :
    ofFiles files = writeAll [] (placed files) := by
  rw [placed, writeAll, List.foldlM_map]
  rfl

theorem ofFiles_eq_ok_iff {files : List (String × List UInt8)} (apart : Apart (placed files)) :
    (∃ directory, ofFiles files = .ok directory) ↔ ∀ file ∈ placed files, file.1.Nameable := by
  rw [ofFiles_eq]
  constructor
  · rintro ⟨directory, written⟩
    exact nameable_of_writeAll written
  · intro nameable
    obtain ⟨directory, written, -⟩ := holds_empty.writeAll (placed files) nameable apart
    exact ⟨directory, written⟩

theorem holds_ofFiles {files : List (String × List UInt8)} (apart : Apart (placed files))
    {directory : Directory} (written : ofFiles files = .ok directory) :
    Holds directory (placed files) := by
  have nameable := (ofFiles_eq_ok_iff apart).mp ⟨directory, written⟩
  -- There is only one directory that can come of it, so this is the one that holds the files.
  obtain ⟨other, again, holds⟩ := holds_empty.writeAll (placed files) nameable apart
  rw [ofFiles_eq, again] at written
  exact Except.ok.inj written ▸ holds

def nameIn? (folder path : Path) : Option String :=
  match path.getLast? with
  | some name => if path.dropLast == folder then some name else none
  | none => none

theorem nameIn?_eq_some_iff (folder path : Path) (name : String) :
    nameIn? folder path = some name ↔ path = folder ++ [name] := by
  rcases List.eq_nil_or_concat' path with rfl | ⟨front, last, rfl⟩
  · simp [nameIn?]
  · simp [nameIn?]

theorem namesIn_eq (directory : Directory) (folder : Path) :
    directory.namesIn folder =
      (directory.filterMap fun row => nameIn? folder row.1).mergeSort
        fun left right => !decide (right < left) :=
  rfl

theorem inOrder_iff (left right : String) : (!decide (right < left)) = true ↔ left ≤ right := by
  rw [Bool.not_eq_true', decide_eq_false_iff_not, not_lt]

theorem pairwise_namesIn (directory : Directory) (folder : Path) :
    (directory.namesIn folder).Pairwise (· ≤ ·) := by
  have sorted : (directory.namesIn folder).Pairwise
      fun left right => (!decide (right < left)) = true := by
    apply List.pairwise_mergeSort
    · intro a b c
      simp only [inOrder_iff]
      exact le_trans
    · intro a b
      rw [Bool.or_eq_true, inOrder_iff, inOrder_iff]
      exact le_total a b
  exact sorted.imp (inOrder_iff _ _).mp

theorem nodup_namesIn {directory : Directory} (single : directory.Single) (folder : Path) :
    (directory.namesIn folder).Nodup := by
  rw [namesIn_eq, (List.mergeSort_perm _ _).nodup_iff]
  refine (List.pairwise_map.mp single).filterMap _ ?_
  intro row other different name found name' found' same
  rw [nameIn?_eq_some_iff] at found found'
  exact different (by rw [found, found', same])

theorem mem_namesIn_iff (directory : Directory) (folder : Path) (name : String) :
    name ∈ directory.namesIn folder ↔ (directory.entry? (folder ++ [name])).isSome := by
  rw [namesIn_eq, List.mem_mergeSort, List.mem_filterMap, entry?_of_ne (by simp),
    List.lookup_isSome_iff]
  refine exists_congr fun row => and_congr_right fun _ => ?_
  rw [nameIn?_eq_some_iff, beq_iff_eq, eq_comm]

end Directory
end Folio.Files
