import Folio.Proofs.Markup.Token

/-! The elements that tokens nest into. An element is closed by the next closing tag that is not
taken up by elements inside it, and that tag has to carry its name; void elements and tags that end
in a slash stand alone. Texts are passed over, but what a verbatim element holds is kept. -/
namespace Folio.Markup

inductive Element where
  | verbatim (content : String)
  | element (name : String) (attrs : List (String × String)) (children : List Element)

def voidNames : List String := ["!DOCTYPE", "meta", "hr"]

def standsAlone (name : String) (attrs : List (String × String)) : Bool :=
  voidNames.contains name || attrs.contains ("/", "")

theorem standsAlone_of_words (name : String) {attrs : List (String × String)}
    (keyed : ∀ attr ∈ attrs, isWord attr.1 = true) :
    standsAlone name attrs = voidNames.contains name := by
  have noSlash : ("/", "") ∉ attrs := by
    intro member
    exact absurd (keyed _ member) (by decide)
  simp [standsAlone, noSlash]

/-- An element still open, with what was complete around it when it was opened. -/
structure Frame where
  name : String
  attrs : List (String × String)
  before : List Element

/-- The open elements, innermost first, and what is complete within the innermost. -/
structure Nest where
  frames : List Frame
  done : List Element

namespace Nest

def add (nest : Nest) (forest : List Element) : Nest :=
  { nest with done := nest.done ++ forest }

def take (nest : Nest) : Token → Option Nest
  | .opening name attrs =>
    if standsAlone name attrs then some (nest.add [.element name attrs []])
    else some ⟨⟨name, attrs, nest.done⟩ :: nest.frames, []⟩
  | .closing name =>
    match nest.frames with
    | [] => none
    | frame :: frames =>
      if frame.name = name then
        some ⟨frames, frame.before ++ [.element frame.name frame.attrs nest.done]⟩
      else none
  | .verbatim content => some (nest.add [.verbatim content])
  | .text _ => some nest
  | .comment => some nest

def takeAll (nest : Nest) (found : List Token) : Option Nest := found.foldlM take nest

end Nest

def elements (found : List Token) : Option (List Element) := do
  let nest ← Nest.takeAll ⟨[], []⟩ found
  if nest.frames.isEmpty then some nest.done else none

namespace Nest

theorem takeAll_append (nest : Nest) (left right : List Token) :
    nest.takeAll (left ++ right) = (nest.takeAll left).bind fun next => next.takeAll right := by
  simp [takeAll]

theorem takeAll_cons (nest : Nest) (token : Token) (rest : List Token) :
    nest.takeAll (token :: rest) = (nest.take token).bind fun next => next.takeAll rest := by
  simp [takeAll]

theorem takeAll_marks (nest : Nest) (found : List Token) :
    nest.takeAll (marks found) = nest.takeAll found := by
  induction found generalizing nest with
  | nil => rfl
  | cons token rest ih =>
    cases token with
    | text content => rw [marks_text, ih, takeAll_cons]; rfl
    | opening _ _ | closing _ | verbatim _ | comment =>
      simp only [marks, List.filter_cons, Token.isText] at ih ⊢
      simp [takeAll_cons, ih]

end Nest

/-- Tokens that add complete elements wherever they stand. -/
def Makes (found : List Token) (forest : List Element) : Prop :=
  ∀ nest : Nest, nest.takeAll found = some (nest.add forest)

theorem makes_nil : Makes [] [] := by
  intro nest
  simp [Nest.takeAll, Nest.add]

theorem Makes.append {left right : List Token} {forest others : List Element}
    (first : Makes left forest) (second : Makes right others) :
    Makes (left ++ right) (forest ++ others) := by
  intro nest
  rw [Nest.takeAll_append, first nest, Option.bind_some, second]
  simp [Nest.add]

theorem Makes.of_marks {found others : List Token} {forest : List Element}
    (makes : Makes found forest) (same : marks others = marks found) : Makes others forest := by
  intro nest
  rw [← Nest.takeAll_marks, same, Nest.takeAll_marks, makes nest]

theorem makes_text (content : String) : Makes [.text content] [] := by
  intro nest
  simp [Nest.takeAll, Nest.take, Nest.add]

theorem makes_verbatim (content : String) : Makes [.verbatim content] [.verbatim content] := by
  intro nest
  simp [Nest.takeAll, Nest.take]

theorem makes_alone (name : String) (attrs : List (String × String))
    (alone : standsAlone name attrs = true) :
    Makes [.opening name attrs] [.element name attrs []] := by
  intro nest
  simp [Nest.takeAll, Nest.take, alone]

theorem Makes.element {inner : List Token} {children : List Element} (name : String)
    (attrs : List (String × String)) (holds : standsAlone name attrs = false)
    (makes : Makes inner children) :
    Makes (.opening name attrs :: inner ++ [.closing name]) [.element name attrs children] := by
  intro nest
  rw [List.cons_append, Nest.takeAll_cons, Nest.take, holds]
  simp only [Bool.false_eq_true, ↓reduceIte, Option.bind_some]
  rw [Nest.takeAll_append, makes]
  simp [Nest.takeAll, Nest.take, Nest.add]

theorem Makes.elements_eq {found : List Token} {forest : List Element}
    (makes : Makes found forest) : elements found = some forest := by
  simp [elements, makes ⟨[], []⟩, Nest.add]

/-- Open elements put on top of others: what is complete below them comes before what was complete
around the outermost of them. -/
def Nest.over (base : Nest) : List Frame → List Element → Nest
  | [], done => base.add done
  | frame :: frames, done =>
    let below := base.over frames frame.before
    ⟨⟨frame.name, frame.attrs, below.done⟩ :: below.frames, done⟩

theorem Nest.over_append (base : Nest) (frames : List Frame) (done more : List Element) :
    base.over frames (done ++ more) = (base.over frames done).add more := by
  cases frames <;> simp [Nest.over, Nest.add]

theorem Nest.take_over (base nest next : Nest) (token : Token) (taken : nest.take token = some next) :
    (base.over nest.frames nest.done).take token = some (base.over next.frames next.done) := by
  cases token with
  | opening name attrs =>
    by_cases alone : standsAlone name attrs = true
    · simp only [Nest.take, alone, ↓reduceIte, Option.some.injEq] at taken ⊢
      subst taken
      rw [← Nest.over_append]
      rfl
    · simp only [Nest.take, alone, Bool.false_eq_true, ↓reduceIte, Option.some.injEq] at taken ⊢
      subst taken
      rfl
  | closing name =>
    obtain ⟨frames, done⟩ := nest
    cases frames with
    | nil => simp [Nest.take] at taken
    | cons frame frames =>
      -- What is closed goes to what was complete around it, with or without a nest below.
      by_cases same : frame.name = name
      · simp only [Nest.take, same, ↓reduceIte, Option.some.injEq] at taken
        subst taken
        rw [Nest.over_append]
        simp [Nest.over, Nest.take, same, Nest.add]
      · simp [Nest.take, same] at taken
  | verbatim content =>
    simp only [Nest.take, Option.some.injEq] at taken ⊢
    subst taken
    rw [← Nest.over_append]
    rfl
  | text content =>
    simp only [Nest.take, Option.some.injEq] at taken ⊢
    rw [taken]
  | comment =>
    simp only [Nest.take, Option.some.injEq] at taken ⊢
    rw [taken]

theorem Nest.takeAll_over (base nest next : Nest) (found : List Token)
    (taken : nest.takeAll found = some next) :
    (base.over nest.frames nest.done).takeAll found = some (base.over next.frames next.done) := by
  induction found generalizing nest with
  | nil =>
    simp only [Nest.takeAll, List.foldlM_nil, Option.pure_def, Option.some.injEq] at taken ⊢
    rw [taken]
  | cons token rest ih =>
    rw [Nest.takeAll_cons] at taken ⊢
    obtain ⟨middle, first, others⟩ := Option.bind_eq_some_iff.mp taken
    rw [Nest.take_over base nest middle token first, Option.bind_some]
    exact ih middle others

theorem makes_of_elements {found : List Token} {forest : List Element}
    (read : elements found = some forest) : Makes found forest := by
  intro base
  simp only [elements, Option.bind_eq_bind, Option.bind_eq_some_iff] at read
  obtain ⟨⟨frames, done⟩, taken, closed⟩ := read
  split at closed
  -- Nothing is open in the end, so all that was added to the nest below is complete.
  · next empty =>
    simp only [List.isEmpty_iff] at empty
    simp only [Option.some.injEq] at closed
    subst empty closed
    have placed := Nest.takeAll_over base ⟨[], []⟩ ⟨[], done⟩ found taken
    simpa [Nest.over, Nest.add] using placed
  · exact absurd closed (by simp)

abbrev Tag := String × List (String × String)

mutual

/-- The tags of an element and of those within it, in the order in which they are opened. -/
def Element.tags : Element → List Tag
  | .verbatim _ => []
  | .element name attrs children => (name, attrs) :: tagsAll children

def tagsAll : List Element → List Tag
  | [] => []
  | element :: rest => element.tags ++ tagsAll rest

end

@[simp] theorem tagsAll_append (left right : List Element) :
    tagsAll (left ++ right) = tagsAll left ++ tagsAll right := by
  induction left with
  | nil => simp [tagsAll]
  | cons element left ih => simp [tagsAll, ih]

theorem tagsAll_element (name : String) (attrs : List (String × String)) (children : List Element) :
    tagsAll [.element name attrs children] = (name, attrs) :: tagsAll children := by
  simp [tagsAll, Element.tags]

def Token.tag? : Token → Option Tag
  | .opening name attrs => some (name, attrs)
  | _ => none

def framesTags : List Frame → List Tag
  | [] => []
  | frame :: frames => framesTags frames ++ tagsAll frame.before ++ [(frame.name, frame.attrs)]

def Nest.tags (nest : Nest) : List Tag := framesTags nest.frames ++ tagsAll nest.done

theorem Nest.tags_take (nest next : Nest) (token : Token) (taken : nest.take token = some next) :
    next.tags = nest.tags ++ token.tag?.toList := by
  cases token with
  | opening name attrs =>
    -- An element that stands alone is complete at once; any other is put on top.
    by_cases alone : standsAlone name attrs = true
    · simp only [Nest.take, alone, ↓reduceIte, Option.some.injEq] at taken
      subst taken
      simp [Nest.tags, Nest.add, tagsAll, Element.tags, Token.tag?]
    · simp only [Nest.take, alone, Bool.false_eq_true, ↓reduceIte, Option.some.injEq] at taken
      subst taken
      simp [Nest.tags, framesTags, tagsAll, Token.tag?]
  | closing name =>
    obtain ⟨frames, done⟩ := nest
    cases frames with
    | nil => simp [Nest.take] at taken
    | cons frame frames =>
      by_cases same : frame.name = name
      · simp only [Nest.take, same, ↓reduceIte, Option.some.injEq] at taken
        subst taken
        simp [Nest.tags, framesTags, tagsAll_element, Token.tag?, same]
      · simp [Nest.take, same] at taken
  | verbatim content =>
    simp only [Nest.take, Option.some.injEq] at taken
    subst taken
    simp [Nest.tags, Nest.add, tagsAll, Element.tags, Token.tag?]
  | text content =>
    simp only [Nest.take, Option.some.injEq] at taken
    simp [taken, Token.tag?]
  | comment =>
    simp only [Nest.take, Option.some.injEq] at taken
    simp [taken, Token.tag?]

theorem Nest.tags_takeAll (nest next : Nest) (found : List Token)
    (taken : nest.takeAll found = some next) :
    next.tags = nest.tags ++ found.filterMap Token.tag? := by
  induction found generalizing nest with
  | nil =>
    simp only [Nest.takeAll, List.foldlM_nil, Option.pure_def, Option.some.injEq] at taken
    simp [taken]
  | cons token rest ih =>
    rw [Nest.takeAll_cons] at taken
    obtain ⟨middle, first, others⟩ := Option.bind_eq_some_iff.mp taken
    rw [ih middle others, Nest.tags_take nest middle token first]
    cases found : token.tag? <;> simp [found]

theorem Makes.tagsAll_eq {found : List Token} {forest : List Element}
    (makes : Makes found forest) : tagsAll forest = found.filterMap Token.tag? := by
  have kept := Nest.tags_takeAll ⟨[], []⟩ _ found (makes ⟨[], []⟩)
  simpa [Nest.tags, Nest.add, framesTags, tagsAll] using kept

mutual

def Element.count (name : String) : Element → Nat
  | .verbatim _ => 0
  | .element other _ children => (if other = name then 1 else 0) + countAll name children

def countAll (name : String) : List Element → Nat
  | [] => 0
  | element :: rest => element.count name + countAll name rest

end

mutual

theorem Element.count_eq (name : String) : (element : Element) →
    element.count name = element.tags.countP fun tag => tag.1 == name
  | .verbatim _ => rfl
  | .element other attrs children => by
    rw [Element.count, Element.tags, List.countP_cons, countAll_eq name children, Nat.add_comm]
    simp

theorem countAll_eq (name : String) : (forest : List Element) →
    countAll name forest = (tagsAll forest).countP fun tag => tag.1 == name
  | [] => rfl
  | element :: rest => by
    rw [countAll, tagsAll, List.countP_append, element.count_eq name, countAll_eq name rest]

end

end Folio.Markup
