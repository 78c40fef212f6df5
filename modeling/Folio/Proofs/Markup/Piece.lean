import Folio.Proofs.Markup.Element
import Folio.Proofs.Markup.Writer

/-! Texts that a reader of pages finds complete elements in, wherever they stand. They are put
together from smaller ones, as elements are from their children; what a `style` or `script` element
holds is not looked into, as long as nothing in it could be taken for a closing tag. -/
namespace Folio.Markup

open Text.Entity (encoded)

/-- Nowhere do these two signs follow one another. -/
def NoPair (first second : Char) (text : List Char) : Prop := ¬ [first, second] <:+: text

instance (first second : Char) (text : List Char) : Decidable (NoPair first second text) :=
  inferInstanceAs (Decidable (¬ _))

theorem NoPair.of_infix {first second : Char} {part whole : List Char}
    (free : NoPair first second whole) (inside : part <:+: whole) : NoPair first second part :=
  fun found => free (found.trans inside)

theorem noPair_of_not_mem {first second : Char} {text : List Char} (free : first ∉ text) :
    NoPair first second text :=
  fun found => free (found.subset List.mem_cons_self)

theorem noPair_cons_iff {first second c : Char} {rest : List Char} :
    NoPair first second (c :: rest) ↔
      NoPair first second rest ∧ ¬ (c = first ∧ rest.head? = some second) := by
  have front : [first, second] <+: c :: rest ↔ c = first ∧ rest.head? = some second := by
    cases rest with
    | nil => simp
    | cons d rest => simp [List.cons_prefix_cons, eq_comm]
  rw [NoPair, List.infix_cons_iff, not_or, front, NoPair, and_comm]

theorem NoPair.append {first second : Char} {left right : List Char}
    (one : NoPair first second left) (two : NoPair first second right)
    (apart : left.getLast? ≠ some first) : NoPair first second (left ++ right) := by
  induction left with
  | nil => exact two
  | cons c rest ih =>
    cases rest with
    | nil =>
      have other : c ≠ first := fun same => apart (by simp [same])
      exact noPair_cons_iff.mpr ⟨two, fun found => other found.1⟩
    | cons d rest =>
      rw [List.getLast?_cons_cons] at apart
      obtain ⟨later, here⟩ := noPair_cons_iff.mp one
      exact noPair_cons_iff.mpr ⟨ih later apart, here⟩

theorem noPair_closer (name : String) {content : List Char} (free : NoPair '<' '/' content) :
    (closer name).isSuffixOf content = false := by
  cases found : (closer name).isSuffixOf content with
  | false => rfl
  | true =>
    have ends := List.isSuffixOf_iff_suffix.mp found
    have starts : ['<', '/'] <+: closer name := ⟨name.toList, rfl⟩
    exact absurd (starts.isInfix.trans ends.isInfix) free

theorem feed_verbatim (dialect : Dialect) (name : String) (before content : List Char)
    (free : NoPair '<' '/' (before ++ content)) :
    feed dialect (.verbatim name before) content = ([], .verbatim name (before ++ content)) := by
  induction content generalizing before with
  | nil => simp [feed]
  | cons c rest ih =>
    have unclosed := noPair_closer name (free.of_infix (List.prefix_append before _).isInfix)
    have later := ih (before ++ [c]) (by simpa using free)
    simp only [feed, readChar, unclosed, Bool.and_false, Bool.false_eq_true, ↓reduceIte, later]
    simp

theorem feed_closer (dialect : Dialect) (name : String) (before rest : List Char)
    (closed : '>' ∉ rest) :
    feed dialect (.verbatim name before) rest = ([], .verbatim name (before ++ rest)) := by
  induction rest generalizing before with
  | nil => simp [feed]
  | cons c rest ih =>
    rw [List.mem_cons, not_or] at closed
    have other : (c == '>') = false := beq_false_of_ne (Ne.symm closed.1)
    simp [feed, readChar, other, ih (before ++ [c]) closed.2]

theorem reads_verbatim (dialect : Dialect) (name content : String) (named : isWord name = true)
    (special : dialect.verbatim.contains name = true) (free : NoPair '<' '/' content.toList) :
    Reads dialect ((Token.opening name []).written ++ (content ++ closingTag name))
      [.opening name [], .verbatim content, .closing name] := by
  have opened := feed_opening dialect name [] named (by simp)
  have inside := feed_verbatim dialect name [] content.toList free
  -- The closing tag ends with the first sign of its kind, as its name is a word.
  have unclosed : '>' ∉ closer name := by
    intro member
    simp only [closer, List.mem_cons] at member
    rcases member with same | same | inName
    · exact absurd same (by decide)
    · exact absurd same (by decide)
    · exact absurd (isWord_chars named _ inName) (by decide)
  have ending := feed_closer dialect name content.toList (closer name) unclosed
  have chars : (closingTag name).toList = closer name ++ ['>'] := by simp [closingTag, closer]
  have suffixed : (closer name).isSuffixOf (content.toList ++ closer name) = true :=
    List.isSuffixOf_iff_suffix.mpr (List.suffix_append _ _)
  have body : feed dialect (.verbatim name []) (content.toList ++ (closer name ++ ['>'])) =
      ([.verbatim content, .closing name], .text) := by
    rw [feed_append, inside]
    simp only [List.nil_append]
    rw [feed_append, ending]
    simp [feed, readChar, suffixed]
  rw [Reads, String.toList_append, String.toList_append, chars, feed_append, opened,
    Dialect.after, special]
  simp only [↓reduceIte, body]
  rfl

def readElements (dialect : Dialect) (text : String) : Option (List Element) :=
  (tokens dialect text).bind fun found => elements (found.map Token.decoded)

def Piece (text : String) (forest : List Element) : Prop :=
  ∃ found, Reads .page text found ∧ Makes (found.map Token.decoded) forest

theorem marks_map_decoded (found : List Token) :
    marks (found.map Token.decoded) = (marks found).map Token.decoded := by
  induction found with
  | nil => rfl
  | cons token rest ih =>
    cases token <;> simpa [marks, Token.isText, Token.decoded] using ih

theorem marks_decoded_merged (found : List Token) :
    marks ((merged found).map Token.decoded) = marks (found.map Token.decoded) := by
  rw [marks_map_decoded, marks_map_decoded, marks_merged]

theorem Piece.read {text : String} {forest : List Element} (piece : Piece text forest) :
    readElements .page text = some forest := by
  obtain ⟨found, reads, makes⟩ := piece
  rw [readElements, reads.tokens_eq, Option.bind_some]
  exact (makes.of_marks (marks_decoded_merged found)).elements_eq

theorem piece_of_read {text : String} {forest : List Element}
    (read : readElements .page text = some forest) : Piece text forest := by
  obtain ⟨cut, known, nested⟩ := Option.bind_eq_some_iff.mp read
  unfold tokens at known
  split at known
  · next found fed =>
    obtain rfl := Option.some.inj known
    -- The elements were made of the merged tokens, which have the same marks as the tokens fed.
    have makes := makes_of_elements nested
    exact ⟨found, fed, makes.of_marks (marks_decoded_merged found).symm⟩
  · exact absurd known (by simp)

theorem readElements_alone {text name : String} {attrs : List (String × String)}
    (cut : tokens .page text = some [.opening name attrs])
    (plain : (Token.opening name attrs).decoded = .opening name attrs)
    (alone : standsAlone name attrs = true) :
    readElements .page text = some [.element name attrs []] := by
  rw [readElements, cut, Option.bind_some, List.map_singleton, plain]
  exact (makes_alone name attrs alone).elements_eq

theorem piece_empty : Piece "" [] := ⟨[], reads_empty .page, makes_nil⟩

theorem Piece.append {left right : String} {forest others : List Element}
    (first : Piece left forest) (second : Piece right others) :
    Piece (left ++ right) (forest ++ others) := by
  obtain ⟨found, reads, makes⟩ := first
  obtain ⟨more, readsMore, makesMore⟩ := second
  refine ⟨found ++ more, reads.append readsMore, ?_⟩
  rw [List.map_append]
  exact makes.append makesMore

theorem piece_writtenAll {found : List Token} {forest : List Element}
    (writable : ∀ token ∈ found, token.Writable .page) (makes : Makes found forest) :
    Piece (writtenAll found) forest :=
  ⟨_, reads_writtenAll .page found writable, makes.of_marks (marks_raw found)⟩

theorem piece_encoded (content : String) : Piece (encoded content) [] := by
  have written : writtenAll [.text content] = encoded content := by
    simp [writtenAll, Token.written]
  rw [← written]
  exact piece_writtenAll (by simp [Token.Writable]) (makes_text content)

/-- Names and keys of an element that holds others and is not verbatim. -/
def Solid (name : String) (attrs : List (String × String)) : Prop :=
  isWord name = true ∧ (∀ attr ∈ attrs, isWord attr.1 = true) ∧
    Dialect.page.verbatim.contains name = false ∧ standsAlone name attrs = false

theorem Piece.element {text : String} {forest : List Element} (piece : Piece text forest)
    {name : String} {attrs : List (String × String)} (solid : Solid name attrs) :
    Piece ((Token.opening name attrs).written ++ (text ++ closingTag name))
      [.element name attrs forest] := by
  obtain ⟨found, reads, makes⟩ := piece
  obtain ⟨named, keyed, ordinary, holds⟩ := solid
  refine ⟨(Token.opening name attrs).encoded :: (found ++ [.closing name]), ?_, ?_⟩
  · exact (reads_opening .page name attrs named keyed ordinary).append
      (reads.append (reads_closing .page name named))
  · rw [List.map_cons, Token.decoded_encoded, List.map_append]
    exact makes.element name attrs holds

theorem piece_verbatim (name content : String) (named : isWord name = true)
    (special : Dialect.page.verbatim.contains name = true) (holds : standsAlone name [] = false)
    (free : NoPair '<' '/' content.toList) :
    Piece ((Token.opening name []).written ++ (content ++ closingTag name))
      [.element name [] [.verbatim content]] :=
  ⟨_, reads_verbatim .page name content named special free,
    (makes_verbatim content).element name [] holds⟩

theorem piece_alone (name : String) (attrs : List (String × String)) (named : isWord name = true)
    (keyed : ∀ attr ∈ attrs, isWord attr.1 = true)
    (ordinary : Dialect.page.verbatim.contains name = false)
    (alone : standsAlone name attrs = true) :
    Piece (Token.opening name attrs).written [.element name attrs []] := by
  refine ⟨_, reads_opening .page name attrs named keyed ordinary, ?_⟩
  rw [List.map_singleton, Token.decoded_encoded]
  exact makes_alone name attrs alone

end Folio.Markup
