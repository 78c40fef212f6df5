import Folio.Assets.Loading
import Folio.Proofs.Files.Filling
import Folio.Proofs.Text.Utf8

/-! Loading the assets. Everything is read row by row, first the grammars in the order of the names
of their files, then the required files; the first row that cannot be read decides the error. -/
namespace Folio.Assets

open Files (Directory Path)

/-- The lines of a text as they are read. A carriage return ends a line, together with the line feed
behind it if there is one, and is read as a line feed. -/
inductive Unified : List Char → List Char → Prop
  | done : Unified [] []
  | paired {rest read : List Char} (later : Unified rest read) :
      Unified ('\r' :: '\n' :: rest) ('\n' :: read)
  | alone {rest read : List Char} (unpaired : rest.head? ≠ some '\n') (later : Unified rest read) :
      Unified ('\r' :: rest) ('\n' :: read)
  | kept {c : Char} {rest read : List Char} (other : c ≠ '\r') (later : Unified rest read) :
      Unified (c :: rest) (c :: read)

theorem unified_unifyLineEnds (text : List Char) : Unified text (Text.unifyLineEnds text) := by
  fun_induction Text.unifyLineEnds text with
  | case1 rest ih => exact .paired ih
  | case2 rest unpaired ih =>
    refine .alone ?_ ih
    cases rest with
    | nil => simp
    | cons c rest => simpa using fun same => unpaired rest (by rw [same])
  | case3 c rest _ other ih => exact .kept other ih
  | case4 => exact .done

theorem unified_iff (text read : List Char) :
    Unified text read ↔ read = Text.unifyLineEnds text := by
  constructor
  · intro unified
    induction unified with
    | done => rfl
    | paired later ih => rw [ih, Text.unifyLineEnds]
    | @alone rest read unpaired later ih =>
      rw [ih, Text.unifyLineEnds]
      rintro after rfl
      exact unpaired rfl
    | @kept c rest read other later ih =>
      rw [ih, Text.unifyLineEnds]
      · exact fun _ same => absurd same other
      · exact other
  · rintro rfl
    exact unified_unifyLineEnds text

/-- What the bytes of a file are read as. -/
def ReadsAs (bytes : List UInt8) (text : String) : Prop :=
  ∃ chars read, bytes = Text.Utf8.encode chars ∧ Unified chars read ∧ text = String.ofList read

theorem readsAs_encode (chars : List Char) :
    ReadsAs (Text.Utf8.encode chars) (String.ofList (Text.unifyLineEnds chars)) :=
  ⟨chars, _, rfl, unified_unifyLineEnds chars, rfl⟩

theorem readBytes_eq_ok_iff (bytes : List UInt8) (text : String) :
    readBytes bytes = .ok text ↔ ReadsAs bytes text := by
  simp only [ReadsAs, ← Text.Utf8.decode_eq_ok_iff, unified_iff, exists_and_left, exists_eq_left]
  unfold readBytes
  cases Text.Utf8.decode bytes with
  | error mishap => simp
  | ok chars => simp [eq_comm]

theorem readBytes_of_error {bytes : List UInt8} {mishap : Text.Utf8.Mishap}
    (broken : Text.Utf8.decode bytes = .error mishap) :
    readBytes bytes = .error (.badUtf8 mishap) := by
  rw [readBytes, broken]

def grammarName (language : String) : String := "prism-" ++ language ++ ".js"

def grammarFile (language : String) : Path := grammarFolder ++ [grammarName language]

theorem toList_grammarName (language : String) :
    (grammarName language).toList = grammarStart ++ language.toList ++ grammarEnd := by
  rw [grammarName, String.toList_append, String.toList_append]
  rfl

theorem grammarLanguage?_eq_some_iff (name language : String) :
    grammarLanguage? name = some language ↔ name = grammarName language := by
  unfold grammarLanguage?
  constructor
  · intro found
    dsimp only at found
    split_ifs at found with same
    obtain rfl := Option.some.inj found
    apply String.toList_inj.mp
    rw [toList_grammarName, String.toList_ofList]
    exact beq_iff_eq.mp same
  · rintro rfl
    have middle : ((grammarStart ++ language.toList ++ grammarEnd).drop grammarStart.length).take
        ((grammarStart ++ language.toList ++ grammarEnd).length - grammarStart.length -
          grammarEnd.length) = language.toList := by
      rw [List.append_assoc, List.drop_left, List.length_append, List.length_append,
        Nat.add_sub_cancel_left, Nat.add_sub_cancel, List.take_left]
    simp only [toList_grammarName, middle, BEq.rfl, ↓reduceIte, String.ofList_toList]

theorem grammarName_injective {language other : String}
    (same : grammarName language = grammarName other) : language = other := by
  have found := (grammarLanguage?_eq_some_iff (grammarName language) language).mpr rfl
  exact Option.some.inj (found.symm.trans ((grammarLanguage?_eq_some_iff _ other).mpr same))

def grammarLanguages (directory : Directory) : List String :=
  (directory.namesIn grammarFolder).filterMap grammarLanguage?

theorem mem_grammarLanguages_iff (directory : Directory) (language : String) :
    language ∈ grammarLanguages directory ↔ (directory.entry? (grammarFile language)).isSome := by
  simp only [grammarLanguages, List.mem_filterMap, grammarLanguage?_eq_some_iff, exists_eq_right,
    Files.Directory.mem_namesIn_iff, grammarFile]

theorem pairwise_grammarLanguages (directory : Directory) :
    (grammarLanguages directory).Pairwise fun left right => grammarName left ≤ grammarName right := by
  refine (Files.Directory.pairwise_namesIn directory grammarFolder).filterMap _ ?_
  intro name other ordered language found language' found'
  rw [grammarLanguage?_eq_some_iff] at found found'
  exact found ▸ found' ▸ ordered

theorem nodup_grammarLanguages {directory : Directory} (single : directory.Single) :
    (grammarLanguages directory).Nodup := by
  refine (Files.Directory.nodup_namesIn single grammarFolder).filterMap ?_
  intro name other language found found'
  rw [Option.mem_def, grammarLanguage?_eq_some_iff] at found found'
  exact found.trans found'.symm

def required : List (String × Path) := [
  ("normalize_css", ["css", "normalize.css"]), ("style_css", ["css", "style.css"]),
  ("katex_css", ["css", "katex.css"]), ("katex_js", ["js", "katex.js"]),
  ("prism_css", ["css", "prism.css"]), ("prism_js", ["js", "prism.js"]),
  ("mermaid_js", ["js", "mermaid.js"]), ("author_icon", ["icons", "profile.svg"]),
  ("license_icon", ["icons", "ereader.svg"])]

def grammarRow (language : String) : String × Path := (language, grammarFile language)

def rows (directory : Directory) : List (String × Path) :=
  (grammarLanguages directory).map grammarRow ++ required

def readRow (directory : Directory) (row : String × Path) : Except Fault (String × String) :=
  (fun text => (row.1, text)) <$> readFile directory row.2

theorem readGrammars_eq (directory : Directory) (names : List String) :
    readGrammars directory names =
      ((names.filterMap grammarLanguage?).map grammarRow).mapM (readRow directory) := by
  induction names with
  | nil => rfl
  | cons name names ih =>
    rw [readGrammars]
    cases announced : grammarLanguage? name with
    | none => simpa [announced] using ih
    | some language =>
      -- Only now is the name known to be that of the file of its language.
      obtain rfl := (grammarLanguage?_eq_some_iff name language).mp announced
      rw [List.filterMap_cons, announced, List.map_cons, List.mapM_cons, ← ih, readRow, bind_map_left]
      rfl

theorem readGrammars_namesIn (directory : Directory) :
    readGrammars directory (directory.namesIn grammarFolder) =
      ((grammarLanguages directory).map grammarRow).mapM (readRow directory) :=
  readGrammars_eq directory (directory.namesIn grammarFolder)

theorem readCatalogue_eq (directory : Directory) :
    (fun catalogue => catalogue.grammars ++ catalogue.texts) <$> readCatalogue directory =
      (rows directory).mapM (readRow directory) := by
  rw [rows, List.mapM_append, ← readGrammars_namesIn]
  simp only [readCatalogue, required, readRow, List.mapM_cons, List.mapM_nil, map_bind, bind_map_left,
    bind_assoc, pure_bind]
  rfl

theorem readRow_eq_ok_iff {directory : Directory} {row : String × Path} {read : String × String} :
    readRow directory row = .ok read ↔ row.1 = read.1 ∧ readFile directory row.2 = .ok read.2 := by
  unfold readRow
  cases readFile directory row.2 with
  | error fault => simp
  | ok text => simp [Prod.ext_iff]

theorem exists_readCatalogue_iff (directory : Directory) :
    (∃ catalogue, readCatalogue directory = .ok catalogue) ↔
      ∀ row ∈ rows directory, ∃ text, readFile directory row.2 = .ok text := by
  have each : ∀ row : String × Path, (∃ read, readRow directory row = .ok read) ↔
      ∃ text, readFile directory row.2 = .ok text := by
    intro row
    simp only [readRow_eq_ok_iff, Prod.exists, exists_and_left, exists_eq_left']
  simp only [← each, ← Outcome.exists_mapM_iff, ← readCatalogue_eq]
  cases readCatalogue directory <;> simp

theorem forall₂_of_readCatalogue {directory : Directory} {catalogue : Catalogue}
    (loaded : readCatalogue directory = .ok catalogue) :
    List.Forall₂ (fun language row => readRow directory (grammarRow language) = .ok row)
        (grammarLanguages directory) catalogue.grammars ∧
      List.Forall₂ (fun row read => readRow directory row = .ok read) required catalogue.texts := by
  have read := readCatalogue_eq directory
  rw [loaded] at read
  have all := Outcome.mapM_eq_ok_iff.mp read.symm
  -- There are as many texts as required rows, so both lists of rows split in the same place.
  have sizes : catalogue.grammars.length = ((grammarLanguages directory).map grammarRow).length := by
    have total := all.length_eq
    simp only [rows, List.length_append] at total
    exact Nat.add_right_cancel total.symm
  have front := List.forall₂_take_append _ _ _ all
  have back := List.forall₂_drop_append _ _ _ all
  rw [sizes, rows, List.take_left] at front
  rw [sizes, rows, List.drop_left] at back
  exact ⟨List.forall₂_map_left_iff.mp front, back⟩

theorem readCatalogue_of_error {directory : Directory} {before after : List (String × Path)}
    {row : String × Path} {fault : Fault} (order : rows directory = before ++ row :: after)
    (clear : ∀ earlier ∈ before, ∃ text, readFile directory earlier.2 = .ok text)
    (failed : readFile directory row.2 = .error fault) : readCatalogue directory = .error fault := by
  have first : readRow directory row = .error fault := by
    rw [readRow, failed]
    rfl
  have passed : ∀ earlier ∈ before, ∃ read, readRow directory earlier = .ok read := by
    intro earlier within
    obtain ⟨text, found⟩ := clear earlier within
    exact ⟨(earlier.1, text), readRow_eq_ok_iff.mpr ⟨rfl, found⟩⟩
  have read := readCatalogue_eq directory
  rw [order, Outcome.mapM_eq_error passed first after] at read
  cases loaded : readCatalogue directory with
  | error other =>
    rw [loaded] at read
    exact congrArg Except.error (Except.error.inj read)
  | ok catalogue =>
    rw [loaded] at read
    cases read

theorem readCatalogue_of_grammar {directory : Directory} (single : directory.Single)
    {language : String} {fault : Fault} (present : language ∈ grammarLanguages directory)
    (clear : ∀ other ∈ grammarLanguages directory, grammarName other < grammarName language →
      ∃ script, readFile directory (grammarFile other) = .ok script)
    (failed : readFile directory (grammarFile language) = .error fault) :
    readCatalogue directory = .error fault := by
  -- Languages are in the order of their files, and none is there twice.
  obtain ⟨before, after, order⟩ := List.append_of_mem present
  have ordered := pairwise_grammarLanguages directory
  have distinct := nodup_grammarLanguages single
  rw [order] at ordered distinct
  have lower : ∀ other ∈ before, grammarName other < grammarName language := by
    intro other within
    have least := (List.pairwise_append.mp ordered).2.2 other within language List.mem_cons_self
    refine lt_of_le_of_ne least fun same => ?_
    obtain rfl := grammarName_injective same
    exact (List.nodup_append'.mp distinct).2.2 within List.mem_cons_self
  have split : rows directory = before.map grammarRow ++ grammarRow language ::
      (after.map grammarRow ++ required) := by
    simp [rows, order]
  refine readCatalogue_of_error split ?_ failed
  intro earlier within
  obtain ⟨other, front, rfl⟩ := List.mem_map.mp within
  have known : other ∈ grammarLanguages directory := by
    rw [order]
    exact List.mem_append_left _ front
  exact clear other known (lower other front)

theorem lookup_iff_of_forall₂ {directory : Directory} {languages : List String}
    {grammars : List (String × String)}
    (read : List.Forall₂ (fun language row => readRow directory (grammarRow language) = .ok row)
      languages grammars) (language script : String) :
    grammars.lookup language = some script ↔
      language ∈ languages ∧ readFile directory (grammarFile language) = .ok script := by
  induction read with
  | nil => simp
  | @cons other row languages grammars first _ ih =>
    obtain ⟨same, found⟩ := readRow_eq_ok_iff.mp first
    rw [List.lookup_cons, List.mem_cons]
    by_cases here : language = other
    · subst here
      have text : readFile directory (grammarFile language) = .ok row.2 := found
      rw [text, ← same]
      simp [grammarRow]
    · rw [← same, grammarRow, beq_false_of_ne here, ih]
      simp [here]

theorem lookup_grammars_iff {directory : Directory} {catalogue : Catalogue}
    (loaded : readCatalogue directory = .ok catalogue) (language script : String) :
    catalogue.grammars.lookup language = some script ↔
      language ∈ grammarLanguages directory ∧
        readFile directory (grammarFile language) = .ok script :=
  lookup_iff_of_forall₂ (forall₂_of_readCatalogue loaded).1 language script

theorem keys_grammars {directory : Directory} {catalogue : Catalogue}
    (loaded : readCatalogue directory = .ok catalogue) :
    catalogue.grammars.map Prod.fst = grammarLanguages directory := by
  have read := (forall₂_of_readCatalogue loaded).1
  generalize grammarLanguages directory = languages, catalogue.grammars = grammars at read
  induction read with
  | nil => rfl
  | cons first _ ih => rw [List.map_cons, ih, ← (readRow_eq_ok_iff.mp first).1, grammarRow]

theorem outcome_loadCatalogue (directory : Directory) :
    (loadCatalogue directory).outcome =
      match readCatalogue directory with
      | .error fault => (.error fault, [])
      | .ok catalogue =>
        (.ok catalogue, loaded catalogue ::
          if catalogue.placeholders.isEmpty then [] else [stubbed catalogue]) := by
  unfold loadCatalogue
  cases readCatalogue directory with
  | error fault => rfl
  | ok catalogue =>
    have given : MonadExcept.ofExcept (Except.ok catalogue) = (pure catalogue : Noted Catalogue) :=
      rfl
    rw [given, pure_bind]
    cases quiet : catalogue.placeholders.isEmpty <;> simp only [quiet] <;> rfl

theorem outcome_loadCatalogue_fst (directory : Directory) :
    (loadCatalogue directory).outcome.1 = readCatalogue directory := by
  rw [outcome_loadCatalogue]
  cases readCatalogue directory <;> rfl

end Folio.Assets
