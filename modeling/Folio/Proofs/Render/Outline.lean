import Folio.Links
import Folio.Proofs.Markup.Element
import Folio.Proofs.Markup.Writer
import Folio.Tree.Preorder

/-! The markup that a tree stands for, as a list of tokens with the strings of the tree in them. The
list is read off the tree alone; all it has to be told is how many formulas came before, because
formulas are numbered. -/
namespace Folio.Tree

open Markup (Makes Token inlineTokens isWord makes_alone makes_nil makes_text standsAlone)
open Number (digitsText)

/-- The class of a code element names the language as the author wrote it, if it is any. -/
def languageClass (language : String) : String :=
  if language.toList.all Text.isBlank then "language-none" else "language-" ++ Text.trimmed language

def Leaf.tokens (number : Nat) : Leaf → List Token
  | .codeBlock language source =>
    .opening "pre" [] ::
      inlineTokens "code" [("class", languageClass language.display)] source.display ++
      [.closing "pre"]
  | .mathExpr source display =>
    inlineTokens (if display then "div" else "span")
      [("class", if display then "katex-math katex-display" else "katex-math"),
        ("data-katex-index", digitsText number)] source.display
  | .diagram source => inlineTokens "div" [("class", "mermaid")] source.display
  | .thematicBreak => [.opening "hr" []]
  | .text content => [.text content.display]
  | .inlineCode content => inlineTokens "code" [] content.display

def Branch.title : Branch → List Token
  | .heading level anchor title =>
    inlineTokens ("h" ++ digitsText (min level 6)) [("id", anchor.display)] title.display
  | _ => []

/-- The element around the children of a branch, if there is one. -/
def Branch.element (hasChildren : Bool) : Branch → Option (String × List (String × String))
  | .container cssClass =>
    if cssClass.truthy then some ("div", [("class", cssClass.display)]) else none
  | .heading level _ _ =>
    if hasChildren then some ("div", [("class", "container-lvl" ++ digitsText (level + 1))])
    else none
  | .paragraph => some ("p", [])
  | .blockQuote => some ("blockquote", [])
  | .list ordered => some (if ordered then "ol" else "ul", [])
  | .listItem => some ("li", [])
  | .emphasis => some ("em", [])
  | .strong => some ("strong", [])
  | .link url =>
    some ("a", [("href", if Links.isDangerous url.display.toList then "#" else url.display)])

def within (element : Option (String × List (String × String))) (inner : List Token) :
    List Token :=
  match element with
  | none => inner
  | some (name, attrs) => .opening name attrs :: inner ++ [.closing name]

def Leaf.formulas : Leaf → Nat
  | .mathExpr _ _ => 1
  | _ => 0

mutual

def Node.formulas : Node → Nat
  | .leaf item _ => item.formulas
  | .branch _ children _ => formulasAll children

def formulasAll : List Node → Nat
  | [] => 0
  | node :: rest => node.formulas + formulasAll rest

end

mutual

/-- The tokens of a tree that so many formulas come before. -/
def Node.tokens (count : Nat) : Node → List Token
  | .leaf item _ => item.tokens (count + 1)
  | .branch frame children _ =>
    frame.title ++ within (frame.element (!children.isEmpty)) (tokensAll count children)

def tokensAll (count : Nat) : List Node → List Token
  | [] => []
  | node :: rest => node.tokens count ++ tokensAll (count + node.formulas) rest

end

def fragmentTags : List String := [
  "div", "h1", "h2", "h3", "h4", "h5", "h6", "p", "pre", "code", "span", "blockquote", "ol", "ul",
  "li", "hr", "em", "strong", "a"]

def fragmentAttributes : List String := ["class", "id", "href", "data-katex-index"]

def IsElement (name : String) (attrs : List (String × String)) : Prop :=
  name ∈ fragmentTags ∧ ∀ attr ∈ attrs, attr.1 ∈ fragmentAttributes

/-- Tokens that a fragment may have. -/
def Permitted : Token → Prop
  | .opening name attrs => IsElement name attrs
  | .closing name => name ∈ fragmentTags
  | .text _ => True
  | _ => False

theorem permitted_inlineTokens {name : String} {attrs : List (String × String)} (content : String)
    (known : IsElement name attrs) : ∀ token ∈ inlineTokens name attrs content, Permitted token := by
  intro token member
  simp only [inlineTokens, List.mem_cons, List.not_mem_nil, or_false] at member
  rcases member with rfl | rfl | rfl
  · exact known
  · trivial
  · exact known.1

def headingNames : List String := ["h1", "h2", "h3", "h4", "h5", "h6"]

theorem headingTag_mem (level : Nat) (positive : 1 ≤ level) :
    "h" ++ digitsText (min level 6) ∈ headingNames := by
  -- From the sixth level on the tag is the same.
  have cases : min level 6 = 1 ∨ min level 6 = 2 ∨ min level 6 = 3 ∨ min level 6 = 4 ∨
      min level 6 = 5 ∨ min level 6 = 6 := by omega
  rcases cases with same | same | same | same | same | same <;> rw [same] <;> decide

theorem headingTag_known (level : Nat) (positive : 1 ≤ level) :
    "h" ++ digitsText (min level 6) ∈ fragmentTags ∧ "h" ++ digitsText (min level 6) ≠ "hr" := by
  have known : ∀ name ∈ headingNames, name ∈ fragmentTags ∧ name ≠ "hr" := by decide
  exact known _ (headingTag_mem level positive)

theorem permitted_leaf (item : Leaf) (number : Nat) :
    ∀ token ∈ item.tokens number, Permitted token := by
  cases item with
  | codeBlock language source =>
    have known : IsElement "code" [("class", languageClass language.display)] := by
      simp [IsElement, fragmentTags, fragmentAttributes]
    intro token member
    simp only [Leaf.tokens, List.cons_append, List.mem_cons, List.mem_append, List.not_mem_nil,
      or_false] at member
    rcases member with rfl | inner | rfl
    · simp [Permitted, IsElement, fragmentTags]
    · exact permitted_inlineTokens _ known token inner
    · simp [Permitted, fragmentTags]
  | mathExpr source display =>
    apply permitted_inlineTokens
    cases display <;> simp [IsElement, fragmentTags, fragmentAttributes]
  | diagram source =>
    apply permitted_inlineTokens
    simp [IsElement, fragmentTags, fragmentAttributes]
  | thematicBreak => simp [Leaf.tokens, Permitted, IsElement, fragmentTags]
  | text content => simp [Leaf.tokens, Permitted]
  | inlineCode content =>
    apply permitted_inlineTokens
    simp [IsElement, fragmentTags]

theorem permitted_title (frame : Branch) (typed : frame.WellTyped) :
    ∀ token ∈ frame.title, Permitted token := by
  cases frame with
  | heading level anchor title =>
    apply permitted_inlineTokens
    exact ⟨(headingTag_known level typed.1).1, by simp [fragmentAttributes]⟩
  | _ => simp [Branch.title]

/-- The elements around children, and what they may carry. -/
def elementTags : List String := ["div", "p", "blockquote", "ol", "ul", "li", "em", "strong", "a"]

def elementAttributes : List String := ["class", "href"]

theorem element_cases {frame : Branch} {hasChildren : Bool} {name : String}
    {attrs : List (String × String)} (around : frame.element hasChildren = some (name, attrs)) :
    name ∈ elementTags ∧ ∀ attr ∈ attrs, attr.1 ∈ elementAttributes := by
  cases frame with
  | container cssClass | heading _ _ _ =>
    simp only [Branch.element, Option.ite_none_right_eq_some, Option.some.injEq,
      Prod.mk.injEq] at around
    obtain ⟨_, rfl, rfl⟩ := around
    simp [elementTags, elementAttributes]
  | list ordered =>
    simp only [Branch.element, Option.some.injEq, Prod.mk.injEq] at around
    obtain ⟨rfl, rfl⟩ := around
    cases ordered <;> simp [elementTags]
  | _ =>
    simp only [Branch.element, Option.some.injEq, Prod.mk.injEq] at around
    obtain ⟨rfl, rfl⟩ := around
    simp [elementTags, elementAttributes]

theorem element_known (frame : Branch) (hasChildren : Bool) (name : String)
    (attrs : List (String × String)) (around : frame.element hasChildren = some (name, attrs)) :
    IsElement name attrs ∧ name ≠ "hr" := by
  have tags : ∀ tag ∈ elementTags, tag ∈ fragmentTags ∧ tag ≠ "hr" := by decide
  have keys : ∀ key ∈ elementAttributes, key ∈ fragmentAttributes := by decide
  obtain ⟨named, keyed⟩ := element_cases around
  obtain ⟨known, solid⟩ := tags name named
  exact ⟨⟨known, fun attr member => keys attr.1 (keyed attr member)⟩, solid⟩

theorem element_unnumbered {frame : Branch} {hasChildren : Bool} {name : String}
    {attrs : List (String × String)} (around : frame.element hasChildren = some (name, attrs)) :
    ∀ attr ∈ attrs, attr.1 ≠ "data-katex-index" := by
  intro attr member numbered
  have known := (element_cases around).2 attr member
  rw [numbered] at known
  exact absurd known (by decide)

theorem permitted_within (element : Option (String × List (String × String)))
    (inner : List Token)
    (known : ∀ name attrs, element = some (name, attrs) → IsElement name attrs ∧ name ≠ "hr")
    (permitted : ∀ token ∈ inner, Permitted token) :
    ∀ token ∈ within element inner, Permitted token := by
  cases element with
  | none => exact permitted
  | some around =>
    obtain ⟨name, attrs⟩ := around
    have here := (known name attrs rfl).1
    intro token member
    simp only [within, List.cons_append, List.mem_cons, List.mem_append, List.not_mem_nil,
      or_false] at member
    rcases member with rfl | inside | rfl
    · exact here
    · exact permitted token inside
    · exact here.1

mutual

theorem Node.permitted (count : Nat) : (node : Node) → node.WellTyped →
    ∀ token ∈ node.tokens count, Permitted token
  | .leaf item _, _ => permitted_leaf item (count + 1)
  | .branch frame children _, typed => by
    intro token member
    rcases List.mem_append.mp member with inTitle | inBody
    · exact permitted_title frame typed.1 token inTitle
    · exact permitted_within _ _ (element_known frame _)
        (permittedAll count children typed.2) token inBody

theorem permittedAll (count : Nat) : (nodes : List Node) → AllWellTyped nodes →
    ∀ token ∈ tokensAll count nodes, Permitted token
  | [], _ => by simp [tokensAll]
  | node :: rest, typed => by
    intro token member
    rcases List.mem_append.mp member with first | later
    · exact node.permitted count typed.1 token first
    · exact permittedAll (count + node.formulas) rest typed.2 token later

end

theorem isWord_of_known {key : String} (known : key ∈ fragmentAttributes) : isWord key = true := by
  have keys : ∀ key ∈ fragmentAttributes, isWord key = true := by decide
  exact keys key known

theorem Permitted.writable {token : Token} (permitted : Permitted token)
    (dialect : Markup.Dialect)
    (ordinary : ∀ name ∈ fragmentTags, dialect.verbatim.contains name = false) :
    token.Writable dialect := by
  have tags : ∀ name ∈ fragmentTags, isWord name = true := by decide
  cases token with
  | opening name attrs =>
    exact ⟨tags name permitted.1, fun attr member => isWord_of_known (permitted.2 attr member),
      ordinary name permitted.1⟩
  | closing name => exact tags name permitted
  | text content => trivial
  | verbatim content => exact permitted.elim
  | comment => exact permitted.elim

theorem holds_of_known {name : String} {attrs : List (String × String)}
    (known : IsElement name attrs) (solid : name ≠ "hr") : standsAlone name attrs = false := by
  have tags : ∀ tag ∈ fragmentTags, tag ≠ "hr" → Markup.voidNames.contains tag = false := by decide
  rw [Markup.standsAlone_of_words name fun attr member => isWord_of_known (known.2 attr member)]
  exact tags name known.1 solid

theorem makes_inlineTokens {name : String} {attrs : List (String × String)} (content : String)
    (known : IsElement name attrs) (solid : name ≠ "hr") :
    Makes (inlineTokens name attrs content) [.element name attrs []] :=
  (makes_text content).element name attrs (holds_of_known known solid)

theorem makes_leaf (item : Leaf) (number : Nat) : ∃ forest, Makes (item.tokens number) forest := by
  cases item with
  | codeBlock language source =>
    have code : Makes (inlineTokens "code" [("class", languageClass language.display)]
        source.display) [.element "code" [("class", languageClass language.display)] []] :=
      makes_inlineTokens _ (by simp [IsElement, fragmentTags, fragmentAttributes]) (by decide)
    exact ⟨_, code.element "pre" [] (by decide)⟩
  | mathExpr source display =>
    refine ⟨_, makes_inlineTokens _ ?_ ?_⟩
    · cases display <;> simp [IsElement, fragmentTags, fragmentAttributes]
    · cases display <;> decide
  | diagram source =>
    exact ⟨_, makes_inlineTokens _ (by simp [IsElement, fragmentTags, fragmentAttributes])
      (by decide)⟩
  | thematicBreak => exact ⟨_, makes_alone "hr" [] (by decide)⟩
  | text content => exact ⟨_, makes_text _⟩
  | inlineCode content =>
    exact ⟨_, makes_inlineTokens _ (by simp [IsElement, fragmentTags]) (by decide)⟩

theorem makes_title (frame : Branch) (typed : frame.WellTyped) :
    ∃ forest, Makes frame.title forest := by
  cases frame with
  | heading level anchor title =>
    obtain ⟨known, solid⟩ := headingTag_known level typed.1
    exact ⟨_, makes_inlineTokens _ ⟨known, by simp [fragmentAttributes]⟩ solid⟩
  | _ => exact ⟨[], makes_nil⟩

theorem makes_within (element : Option (String × List (String × String))) (inner : List Token)
    (known : ∀ name attrs, element = some (name, attrs) → IsElement name attrs ∧ name ≠ "hr")
    (makes : ∃ forest, Makes inner forest) : ∃ forest, Makes (within element inner) forest := by
  obtain ⟨forest, makes⟩ := makes
  cases element with
  | none => exact ⟨forest, makes⟩
  | some around =>
    obtain ⟨name, attrs⟩ := around
    obtain ⟨here, solid⟩ := known name attrs rfl
    exact ⟨_, makes.element name attrs (holds_of_known here solid)⟩

mutual

/-- What is opened in a tree is closed in it, and nothing else is. -/
theorem Node.makes (count : Nat) : (node : Node) → node.WellTyped →
    ∃ forest, Makes (node.tokens count) forest
  | .leaf item _, _ => makes_leaf item (count + 1)
  | .branch frame children _, typed => by
    obtain ⟨title, first⟩ := makes_title frame typed.1
    obtain ⟨body, second⟩ := makes_within _ _ (element_known frame (!children.isEmpty))
      (makesAll count children typed.2)
    exact ⟨title ++ body, first.append second⟩

theorem makesAll (count : Nat) : (nodes : List Node) → AllWellTyped nodes →
    ∃ forest, Makes (tokensAll count nodes) forest
  | [], _ => ⟨[], makes_nil⟩
  | node :: rest, typed => by
    obtain ⟨here, first⟩ := node.makes count typed.1
    obtain ⟨others, second⟩ := makesAll (count + node.formulas) rest typed.2
    exact ⟨here ++ others, first.append second⟩

end

/-- Something that is read off tokens and that every node has at most one of: it stands in a leaf, in
a title or in the tag of an element, and in no closing tag. -/
structure ReadOff {α : Type} (read : Token → Option α) (own : Node → Option α) : Prop where
  closing (name : String) : read (.closing name) = none
  leaf (item : Leaf) (data : Value) (number : Nat) :
    (item.tokens number).filterMap read = (own (.leaf item data)).toList
  branch (frame : Branch) (children : List Node) (data : Value) :
    frame.title.filterMap read ++ ((frame.element (!children.isEmpty)).bind fun around =>
      read (.opening around.1 around.2)).toList = (own (.branch frame children data)).toList

section
variable {α : Type} {read : Token → Option α} {own : Node → Option α}

theorem ReadOff.within (readOff : ReadOff read own)
    (element : Option (String × List (String × String))) (inner : List Token) :
    (within element inner).filterMap read =
      (element.bind fun around => read (.opening around.1 around.2)).toList ++
        inner.filterMap read := by
  cases element with
  | none => rfl
  | some around =>
    have closed := readOff.closing around.1
    cases found : read (.opening around.1 around.2) <;> simp [Tree.within, found, closed]

mutual

theorem ReadOff.node (readOff : ReadOff read own) (count : Nat) : (node : Node) →
    (node.tokens count).filterMap read = node.preorder.filterMap own
  | .leaf item data => by
    rw [Node.tokens, readOff.leaf item data, Node.preorder]
    cases found : own (.leaf item data) <;> simp [found]
  | .branch frame children data => by
    rw [Node.tokens, List.filterMap_append, readOff.within, readOff.nodes count children,
      ← List.append_assoc, readOff.branch frame children data, Node.preorder]
    cases found : own (.branch frame children data) <;> simp [found]

theorem ReadOff.nodes (readOff : ReadOff read own) (count : Nat) : (nodes : List Node) →
    (tokensAll count nodes).filterMap read = (preorderAll nodes).filterMap own
  | [] => rfl
  | node :: rest => by
    rw [tokensAll, List.filterMap_append, readOff.node count node, readOff.nodes _ rest,
      preorderAll, List.filterMap_append]

end

end

end Folio.Tree
