import Folio.Markup.Tag
import Folio.Proofs.Text.Entity

/-! Markup as a reader finds it. A tag runs from a less-than sign to the next greater-than sign, and
everything else is text. The reader goes from character to character and keeps nothing but the place
it is in, so what it finds in two texts in a row is what it finds in the one and then in the other.
It decodes nothing; what the five entities stand for is asked of its tokens afterwards. -/
namespace Folio.Markup

open Text.Entity (encoded)

inductive Token where
  | opening (name : String) (attrs : List (String × String))
  | closing (name : String)
  | text (content : String)
  | verbatim (content : String)
  | comment
  deriving DecidableEq

def isGap (c : Char) : Bool := c == ' ' || c == '\t' || c == '\n' || c == '\x0C' || c == '\r'

def bare (word : List Char) : List (String × String) :=
  if word = [] then [] else [(String.ofList word, "")]

/-- The words of a tag, each with the value that is quoted after it; a slash is a word of its own.
The word begun so far comes first, then the value begun so far where the reader is within one. -/
def words : List Char → Option (List Char) → List Char → List (String × String)
  | word, none, [] => bare word
  | word, some value, [] => [(String.ofList word, String.ofList value)]
  | word, some value, c :: rest =>
    if c == '"' then (String.ofList word, String.ofList value) :: words [] none rest
    else words word (some (value ++ [c])) rest
  | word, none, '=' :: '"' :: rest => words word (some []) rest
  | word, none, c :: rest =>
    if isGap c then bare word ++ words [] none rest
    else if c == '/' then bare word ++ ("/", "") :: words [] none rest
    else words (word ++ [c]) none rest

def readTag (body : List Char) : Token :=
  match words [] none body with
  | ("/", _) :: (name, _) :: _ => .closing name
  | (name, _) :: attrs => .opening name attrs
  | [] => .opening "" []

/-- What a reader knows of beyond tags: the elements whose content is read as it stands up to their
closing tag, and whether there are comments. -/
structure Dialect where
  verbatim : List String
  comments : Bool

def Dialect.plain : Dialect := ⟨[], false⟩

def Dialect.page : Dialect := ⟨["style", "script"], true⟩

/-- Where a reader is, with what it has met since it got there. -/
inductive Place where
  | text
  | tag (body : List Char)
  | verbatim (name : String) (content : List Char)
  | comment (content : List Char)

def Dialect.after (dialect : Dialect) : Token → Place
  | .opening name _ => if dialect.verbatim.contains name then .verbatim name [] else .text
  | _ => .text

def Dialect.opensComment (dialect : Dialect) (body : List Char) : Bool :=
  dialect.comments && body == ['!', '-', '-']

/-- What closes a verbatim element, but for the last sign. -/
def closer (name : String) : List Char := '<' :: '/' :: name.toList

def readChar (dialect : Dialect) : Place → Char → List Token × Place
  | .text, c => if c == '<' then ([], .tag []) else ([.text (String.singleton c)], .text)
  | .tag body, c =>
    if c == '>' then ([readTag body], dialect.after (readTag body))
    else if dialect.opensComment (body ++ [c]) then ([], .comment [])
    else ([], .tag (body ++ [c]))
  | .verbatim name content, c =>
    if c == '>' && (closer name).isSuffixOf content then
      ([.verbatim (String.ofList (content.take (content.length - (closer name).length))),
        .closing name], .text)
    else ([], .verbatim name (content ++ [c]))
  | .comment content, c =>
    if c == '>' && ['-', '-'].isSuffixOf content then ([.comment], .text)
    else ([], .comment (content ++ [c]))

def feed (dialect : Dialect) : Place → List Char → List Token × Place
  | place, [] => ([], place)
  | place, c :: rest =>
    let (found, next) := readChar dialect place c
    let (others, last) := feed dialect next rest
    (found ++ others, last)

/-- A text in front of tokens. It joins a text that comes first, and an empty one is left out. -/
def Token.prependText (content : String) : List Token → List Token
  | .text other :: rest => .text (content ++ other) :: rest
  | rest => if content = "" then rest else .text content :: rest

/-- Adjacent texts become one, and empty ones disappear. -/
def merged : List Token → List Token
  | [] => []
  | .text content :: rest => Token.prependText content (merged rest)
  | token :: rest => token :: merged rest

/-- The tokens of a text. A text that ends anywhere but in text has none. -/
def tokens (dialect : Dialect) (text : String) : Option (List Token) :=
  match feed dialect .text text.toList with
  | (found, .text) => some (merged found)
  | _ => none

def Token.decoded : Token → Token
  | .opening name attrs => .opening name (attrs.map fun (key, value) => (key, Text.Entity.decoded value))
  | .text content => .text (Text.Entity.decoded content)
  | token => token

theorem feed_append (dialect : Dialect) (place : Place) (left right : List Char) :
    feed dialect place (left ++ right) =
      ((feed dialect place left).1 ++ (feed dialect (feed dialect place left).2 right).1,
        (feed dialect (feed dialect place left).2 right).2) := by
  induction left generalizing place with
  | nil => simp [feed]
  | cons c left ih => simp only [List.cons_append, feed, ih, List.append_assoc]

/-- A text that is read from text back to text. -/
def Reads (dialect : Dialect) (text : String) (found : List Token) : Prop :=
  feed dialect .text text.toList = (found, .text)

theorem reads_empty (dialect : Dialect) : Reads dialect "" [] := rfl

theorem Reads.append {dialect : Dialect} {left right : String} {found others : List Token}
    (first : Reads dialect left found) (second : Reads dialect right others) :
    Reads dialect (left ++ right) (found ++ others) := by
  unfold Reads at *
  rw [String.toList_append, feed_append, first]
  simp only [second]

theorem Reads.tokens_eq {dialect : Dialect} {text : String} {found : List Token}
    (read : Reads dialect text found) : tokens dialect text = some (merged found) := by
  unfold tokens
  rw [read]

def singles (text : List Char) : List Token := text.map fun c => .text (String.singleton c)

theorem feed_text (dialect : Dialect) (text : List Char) (free : '<' ∉ text) :
    feed dialect .text text = (singles text, .text) := by
  induction text with
  | nil => rfl
  | cons c text ih =>
    rw [List.mem_cons, not_or] at free
    have other : (c == '<') = false := beq_false_of_ne (Ne.symm free.1)
    simp [feed, readChar, other, ih free.2, singles]

theorem reads_encoded (dialect : Dialect) (content : String) :
    Reads dialect (encoded content) (singles (encoded content).toList) := by
  apply feed_text
  intro written
  rw [encoded, String.toList_ofList] at written
  have plain := Text.Entity.not_special_of_mem_encode _ _ written
  exact absurd plain (by decide)

@[simp] theorem prependText_empty (found : List Token) : Token.prependText "" found = found := by
  rcases found with _ | ⟨token, rest⟩
  · rfl
  · cases token <;> simp [Token.prependText]

theorem prependText_prependText (left right : String) (found : List Token) :
    Token.prependText left (Token.prependText right found) =
      Token.prependText (left ++ right) found := by
  by_cases blank : right = ""
  · simp [blank]
  · rcases found with _ | ⟨token, rest⟩
    · simp [Token.prependText, blank]
    · cases token <;> simp [Token.prependText, blank, String.append_assoc]

theorem merged_text (content : String) (found : List Token) :
    merged (.text content :: found) = Token.prependText content (merged found) := rfl

theorem merged_singles (text : List Char) (found : List Token) :
    merged (singles text ++ found) = merged (.text (String.ofList text) :: found) := by
  induction text with
  | nil => simp [singles, merged]
  | cons c text ih =>
    change merged (.text (String.singleton c) :: (singles text ++ found)) = _
    rw [merged_text, ih, merged_text, prependText_prependText, ← merged_text,
      String.singleton_eq_ofList, ← String.ofList_append]
    rfl

def isWordChar (c : Char) : Bool := c.isAlphanum || c == '-'

def isWord (name : String) : Bool := name != "" && name.toList.all isWordChar

theorem isWord_ne_empty {name : String} (named : isWord name = true) : name ≠ "" := by
  simp only [isWord, Bool.and_eq_true, bne_iff_ne] at named
  exact named.1

theorem isWord_chars {name : String} (named : isWord name = true) :
    ∀ c ∈ name.toList, isWordChar c = true := by
  simp only [isWord, Bool.and_eq_true, List.all_eq_true] at named
  exact named.2

theorem isWordChar_ne {c sign : Char} (letter : isWordChar c = true)
    (divides : isWordChar sign = false) : c ≠ sign := by
  rintro rfl
  exact absurd letter (by simp [divides])

theorem not_gap_of_isWordChar {c : Char} (letter : isWordChar c = true) : isGap c = false := by
  simp only [isGap, Bool.or_eq_false_iff, beq_eq_false_iff_ne]
  refine ⟨⟨⟨⟨?_, ?_⟩, ?_⟩, ?_⟩, ?_⟩ <;> exact isWordChar_ne letter (by decide)

theorem words_word (word name rest : List Char) (named : ∀ c ∈ name, isWordChar c = true) :
    words word none (name ++ rest) = words (word ++ name) none rest := by
  induction name generalizing word with
  | nil => simp
  | cons c name ih =>
    have letter := named c List.mem_cons_self
    have plain : c ≠ '=' := isWordChar_ne letter (by decide)
    have slash : (c == '/') = false := beq_false_of_ne (isWordChar_ne letter (by decide))
    rw [List.cons_append, words]
    · simp only [not_gap_of_isWordChar letter, slash, Bool.false_eq_true, ↓reduceIte]
      rw [ih (word ++ [c]) fun d member => named d (List.mem_cons_of_mem c member)]
      simp
    · intro rest same _
      exact plain same

theorem words_value (word before value rest : List Char) (closed : '"' ∉ value) :
    words word (some before) (value ++ '"' :: rest) =
      (String.ofList word, String.ofList (before ++ value)) :: words [] none rest := by
  induction value generalizing before with
  | nil => simp [words]
  | cons c value ih =>
    rw [List.mem_cons, not_or] at closed
    have other : (c == '"') = false := beq_false_of_ne (Ne.symm closed.1)
    rw [List.cons_append, words]
    simp [other, ih (before ++ [c]) closed.2]

def attributeChars (attr : String × String) : List Char :=
  ' ' :: attr.1.toList ++ '=' :: '"' :: attr.2.toList ++ ['"']

/-- Attributes that a tag may carry: words for keys, and values that keep clear of markup. -/
def Tame (attrs : List (String × String)) : Prop :=
  ∀ attr ∈ attrs, isWord attr.1 = true ∧
    ∀ c ∈ attr.2.toList, Text.Entity.isSpecial c = false

theorem words_attributes (word : List Char) (attrs : List (String × String)) (tame : Tame attrs) :
    words word none (attrs.flatMap attributeChars) = bare word ++ attrs := by
  induction attrs generalizing word with
  | nil => simp [words]
  | cons attr attrs ih =>
    obtain ⟨key, value⟩ := attr
    obtain ⟨named, plain⟩ := tame (key, value) List.mem_cons_self
    have closed : '"' ∉ value.toList := fun member => absurd (plain _ member) (by decide)
    have others := ih [] fun attr member => tame attr (List.mem_cons_of_mem _ member)
    simp only [List.flatMap_cons, attributeChars, List.cons_append, List.append_assoc,
      List.nil_append]
    -- The blank before an attribute ends the word before it, whichever that is.
    rw [words]
    · rw [words_word [] key.toList _ (isWord_chars named), words,
        words_value _ [] value.toList _ closed, others]
      simp [isGap, bare]
    · intro rest same
      exact absurd same (by decide)

def tagChars (name : String) (attrs : List (String × String)) : List Char :=
  name.toList ++ attrs.flatMap attributeChars

theorem readTag_tagChars (name : String) (attrs : List (String × String))
    (named : isWord name = true) (tame : Tame attrs) :
    readTag (tagChars name attrs) = .opening name attrs := by
  have found : words [] none (tagChars name attrs) = (name, "") :: attrs := by
    rw [tagChars, words_word [] name.toList _ (isWord_chars named),
      words_attributes _ attrs tame]
    simp [bare, isWord_ne_empty named]
  unfold readTag
  rw [found]
  split
  -- A name is a word, so the tag is not taken for a closing one.
  · next slash _ same =>
    simp only [List.cons.injEq, Prod.mk.injEq] at same
    rw [same.1.1] at named
    exact absurd named (by decide)
  · next same =>
    simp only [List.cons.injEq, Prod.mk.injEq] at same
    rw [same.1.1, same.2]
  · next same => exact absurd same (by simp)

theorem readTag_closing (name : String) (named : isWord name = true) :
    readTag ('/' :: name.toList) = .closing name := by
  have found : words [] none ('/' :: name.toList) = [("/", ""), (name, "")] := by
    rw [words]
    · have word := words_word [] name.toList [] (isWord_chars named)
      rw [List.append_nil, List.nil_append] at word
      rw [word, words]
      simp [isGap, bare, isWord_ne_empty named]
    · intro rest same
      exact absurd same (by decide)
  simp only [readTag, found]

theorem feed_tag (dialect : Dialect) (body rest : List Char) (closed : '>' ∉ rest)
    (plain : (body ++ rest).head? ≠ some '!') :
    feed dialect (.tag body) rest = ([], .tag (body ++ rest)) := by
  induction rest generalizing body with
  | nil => simp [feed]
  | cons c rest ih =>
    rw [List.mem_cons, not_or] at closed
    have other : (c == '>') = false := beq_false_of_ne (Ne.symm closed.1)
    have whole : body ++ c :: rest = (body ++ [c]) ++ rest := by simp
    -- What opens a comment has an exclamation mark first, and this tag has none there.
    have uncommented : dialect.opensComment (body ++ [c]) = false := by
      rw [Dialect.opensComment, Bool.and_eq_false_iff]
      right
      apply beq_false_of_ne
      intro same
      rw [whole, same] at plain
      exact plain rfl
    rw [whole] at plain ⊢
    simp [feed, readChar, other, uncommented, ih (body ++ [c]) closed.2 plain]

theorem feed_whole_tag (dialect : Dialect) (body : List Char) (closed : '>' ∉ body)
    (plain : body.head? ≠ some '!') :
    feed dialect .text ('<' :: body ++ ['>']) =
      ([readTag body], dialect.after (readTag body)) := by
  have inside := feed_tag dialect [] body closed plain
  rw [List.nil_append] at inside
  rw [List.cons_append, feed]
  simp [readChar, feed_append, inside, feed]

theorem tame_closed {name : String} {attrs : List (String × String)}
    (named : isWord name = true) (tame : Tame attrs) : '>' ∉ tagChars name attrs := by
  intro member
  rcases List.mem_append.mp member with inName | inAttrs
  · exact absurd (isWord_chars named _ inName) (by decide)
  · obtain ⟨⟨key, value⟩, present, inside⟩ := List.mem_flatMap.mp inAttrs
    obtain ⟨keyed, plain⟩ := tame (key, value) present
    simp only [attributeChars, List.mem_append, List.mem_cons, List.not_mem_nil, or_false] at inside
    rcases inside with ((same | inKey) | same | same | inValue) | same
    · exact absurd same (by decide)
    · exact absurd (isWord_chars keyed _ inKey) (by decide)
    · exact absurd same (by decide)
    · exact absurd same (by decide)
    · exact absurd (plain _ inValue) (by decide)
    · exact absurd same (by decide)

theorem head_word_ne {name : String} (named : isWord name = true) (rest : List Char) :
    (name.toList ++ rest).head? ≠ some '!' := by
  have nonempty : name.toList ≠ [] := by simpa using isWord_ne_empty named
  obtain ⟨c, others, chars⟩ := List.exists_cons_of_ne_nil nonempty
  have letter := isWord_chars named c (by simp [chars])
  rw [chars]
  simpa using isWordChar_ne letter (by decide)

def Token.written : Token → String
  | .opening name attrs =>
    between (name :: attrs.map fun (key, value) => key ++ "=\"" ++ encoded value ++ "\"")
  | .closing name => closingTag name
  | .text content => encoded content
  | .verbatim content => content
  | .comment => "<!---->"

def Token.encoded : Token → Token
  | .opening name attrs =>
    .opening name (attrs.map fun (key, value) => (key, Text.Entity.encoded value))
  | .text content => .text (Text.Entity.encoded content)
  | token => token

theorem between_toList (name : String) (attrs : List (String × String)) :
    (between (name :: attrs.map fun (key, value) => key ++ "=\"" ++ encoded value ++ "\"")).toList =
      '<' :: tagChars name (attrs.map fun (key, value) => (key, encoded value)) ++ ['>'] := by
  have parts : (" ".intercalate
      (name :: attrs.map fun (key, value) => key ++ "=\"" ++ encoded value ++ "\"")).toList =
      tagChars name (attrs.map fun (key, value) => (key, encoded value)) := by
    induction attrs generalizing name with
    | nil => simp [tagChars]
    | cons attr attrs ih =>
      rw [List.map_cons, String.intercalate_cons_cons, String.toList_append, ih]
      simp [tagChars, attributeChars]
  simp [between, parts]

theorem tame_encoded {attrs : List (String × String)}
    (keyed : ∀ attr ∈ attrs, isWord attr.1 = true) :
    Tame (attrs.map fun (key, value) => (key, encoded value)) := by
  intro attr member
  obtain ⟨⟨key, value⟩, present, rfl⟩ := List.mem_map.mp member
  refine ⟨keyed (key, value) present, fun c written => ?_⟩
  simp only [encoded, String.toList_ofList] at written
  exact Text.Entity.not_special_of_mem_encode _ c written

theorem feed_opening (dialect : Dialect) (name : String) (attrs : List (String × String))
    (named : isWord name = true) (keyed : ∀ attr ∈ attrs, isWord attr.1 = true) :
    feed dialect .text (Token.opening name attrs).written.toList =
      ([(Token.opening name attrs).encoded], dialect.after (.opening name attrs)) := by
  have tame := tame_encoded keyed
  rw [Token.written, between_toList,
    feed_whole_tag dialect _ (tame_closed named tame) (head_word_ne named _),
    readTag_tagChars name _ named tame]
  rfl

theorem reads_opening (dialect : Dialect) (name : String) (attrs : List (String × String))
    (named : isWord name = true) (keyed : ∀ attr ∈ attrs, isWord attr.1 = true)
    (ordinary : dialect.verbatim.contains name = false) :
    Reads dialect (Token.opening name attrs).written [(Token.opening name attrs).encoded] := by
  rw [Reads, feed_opening dialect name attrs named keyed, Dialect.after, ordinary]
  rfl

theorem reads_closing (dialect : Dialect) (name : String) (named : isWord name = true) :
    Reads dialect (closingTag name) [.closing name] := by
  have chars : (closingTag name).toList = '<' :: ('/' :: name.toList) ++ ['>'] := by
    simp [closingTag]
  have closed : '>' ∉ '/' :: name.toList := by
    intro member
    rcases List.mem_cons.mp member with same | inName
    · exact absurd same (by decide)
    · exact absurd (isWord_chars named _ inName) (by decide)
  rw [Reads, chars, feed_whole_tag dialect _ closed (by simp), readTag_closing name named]
  rfl

/-- Tokens that come back from what is written for them. -/
def Token.Writable (dialect : Dialect) : Token → Prop
  | .opening name attrs =>
    isWord name = true ∧ (∀ attr ∈ attrs, isWord attr.1 = true) ∧
      dialect.verbatim.contains name = false
  | .closing name => isWord name = true
  | .text _ => True
  | _ => False

def Token.raw : Token → List Token
  | .text content => singles (Text.Entity.encoded content).toList
  | token => [token.encoded]

def writtenAll : List Token → String
  | [] => ""
  | token :: rest => token.written ++ writtenAll rest

theorem writtenAll_append (left right : List Token) :
    writtenAll (left ++ right) = writtenAll left ++ writtenAll right := by
  induction left with
  | nil => simp [writtenAll]
  | cons token left ih => simp [writtenAll, ih, String.append_assoc]

theorem reads_written (dialect : Dialect) (token : Token) (writable : token.Writable dialect) :
    Reads dialect token.written token.raw := by
  cases token with
  | opening name attrs =>
    obtain ⟨named, keyed, ordinary⟩ := writable
    exact reads_opening dialect name attrs named keyed ordinary
  | closing name => exact reads_closing dialect name writable
  | text content => exact reads_encoded dialect content
  | verbatim content => exact writable.elim
  | comment => exact writable.elim

theorem reads_writtenAll (dialect : Dialect) (found : List Token)
    (writable : ∀ token ∈ found, token.Writable dialect) :
    Reads dialect (writtenAll found) (found.flatMap Token.raw) := by
  induction found with
  | nil => exact reads_empty dialect
  | cons token rest ih =>
    have first := reads_written dialect token (writable token List.mem_cons_self)
    have others := ih fun other member => writable other (List.mem_cons_of_mem token member)
    exact first.append others

theorem map_encoded_prependText (content : String) (found : List Token) :
    (Token.prependText content found).map Token.encoded =
      Token.prependText (encoded content) (found.map Token.encoded) := by
  by_cases blank : content = ""
  · subst blank
    have empty : encoded "" = "" := by simp
    rw [empty, prependText_empty, prependText_empty]
  · have shown : encoded content ≠ "" := by simpa using blank
    rcases found with _ | ⟨token, rest⟩
    · simp [Token.prependText, blank, shown, Token.encoded]
    · cases token <;> simp [Token.prependText, blank, shown, Token.encoded]

theorem merged_raw (found : List Token) :
    merged (found.flatMap Token.raw) = (merged found).map Token.encoded := by
  induction found with
  | nil => rfl
  | cons token rest ih =>
    cases token with
    | text content =>
      -- A text comes character by character, and escaping the whole is escaping each of them.
      rw [List.flatMap_cons, Token.raw, merged_singles, merged_text, merged_text, ih,
        map_encoded_prependText, String.ofList_toList]
    | opening name attrs => simp [Token.raw, Token.encoded, merged, ih]
    | closing name => simp [Token.raw, Token.encoded, merged, ih]
    | verbatim content => simp [Token.raw, Token.encoded, merged, ih]
    | comment => simp [Token.raw, Token.encoded, merged, ih]

@[simp] theorem Token.decoded_encoded (token : Token) : token.encoded.decoded = token := by
  cases token <;> simp [Token.encoded, Token.decoded, Function.comp_def]

/-- Written tokens come back, with adjacent texts merged. -/
theorem tokens_writtenAll (dialect : Dialect) (found : List Token)
    (writable : ∀ token ∈ found, token.Writable dialect) :
    (tokens dialect (writtenAll found)).map (List.map Token.decoded) = some (merged found) := by
  rw [(reads_writtenAll dialect found writable).tokens_eq, merged_raw]
  simp [Function.comp_def]

def Token.isText : Token → Bool
  | .text _ => true
  | _ => false

def marks (found : List Token) : List Token := found.filter fun token => !token.isText

@[simp] theorem marks_text (content : String) (rest : List Token) :
    marks (.text content :: rest) = marks rest := rfl

@[simp] theorem marks_append (left right : List Token) :
    marks (left ++ right) = marks left ++ marks right := List.filter_append left right

theorem marks_prependText (content : String) (found : List Token) :
    marks (Token.prependText content found) = marks found := by
  by_cases blank : content = ""
  · simp [blank]
  · rcases found with _ | ⟨token, rest⟩
    · simp [Token.prependText, blank]
    · cases token <;> simp [Token.prependText, blank]

theorem marks_merged (found : List Token) : marks (merged found) = marks found := by
  induction found with
  | nil => rfl
  | cons token rest ih =>
    cases token with
    | text content => rw [merged_text, marks_prependText, ih, marks_text]
    | opening _ _ | closing _ | verbatim _ | comment =>
      simp only [merged, marks, List.filter_cons, Token.isText] at ih ⊢
      simp [ih]

theorem mem_of_mem_merged {found : List Token} {token : Token} (member : token ∈ merged found)
    (mark : token.isText = false) : token ∈ found := by
  have kept : token ∈ marks (merged found) := by simp [marks, member, mark]
  rw [marks_merged] at kept
  exact (List.mem_filter.mp kept).1

theorem marks_raw (found : List Token) :
    marks ((found.flatMap Token.raw).map Token.decoded) = marks found := by
  induction found with
  | nil => rfl
  | cons token rest ih =>
    rw [List.flatMap_cons, List.map_append, marks_append, ih]
    cases token with
    | text content => simp [Token.raw, singles, marks, Token.decoded, Token.isText]
    | opening _ _ | closing _ | verbatim _ | comment =>
      simp [Token.raw, marks, Token.isText]

example : (tokens .plain "<p class=\"a\">1 &lt; 2</p>").map (List.map Token.decoded) =
    some [.opening "p" [("class", "a")], .text "1 < 2", .closing "p"] := by decide +kernel

end Folio.Markup
