import Folio.Proofs.Links
import Folio.Proofs.Render.Fragment
import Folio.Tree.Preorder

/-! Where the links of a fragment lead. Wherever a link stands in a tree, the target that a reader
finds for it in the fragment is the one of the tree, or the empty fragment if that one is dangerous.
-/
namespace Folio.Markup

def Token.href? : Token → Option String
  | .opening _ attrs => attrs.lookup "href"
  | _ => none

def hrefsOf (found : List Token) : List String := found.filterMap Token.href?

/-- The targets that a reader finds, entities decoded, in order. -/
def hrefs (html : String) : List String :=
  hrefsOf (((tokens .plain html).getD []).map Token.decoded)

theorem hrefsOf_prependText (content : String) (found : List Token) :
    hrefsOf (Token.prependText content found) = hrefsOf found := by
  unfold Token.prependText
  split
  · rfl
  · split <;> rfl

theorem hrefsOf_merged (found : List Token) : hrefsOf (merged found) = hrefsOf found := by
  induction found with
  | nil => rfl
  | cons token rest ih =>
    cases token with
    | text content =>
      rw [merged_text, hrefsOf_prependText, ih]
      rfl
    | opening _ _ | closing _ | verbatim _ | comment =>
      simp only [hrefsOf, merged, List.filterMap_cons] at ih ⊢
      rw [ih]

theorem hrefsOf_inline {name : String} {attrs : List (String × String)} (content : String)
    (unlinked : attrs.lookup "href" = none) : hrefsOf (inlineTokens name attrs content) = [] := by
  simp [inlineTokens, hrefsOf, Token.href?, unlinked]

end Folio.Markup

namespace Folio.Tree

open Markup (hrefsOf hrefsOf_inline)

def Node.link? : Node → Option String
  | .branch (.link url) _ _ => some url.display
  | _ => none

def Node.linksMet (tree : Node) : List String := tree.preorder.filterMap Node.link?

theorem lookup_href_element (hasChildren : Bool) (frame : Branch) (children : List Node)
    (data : Value) :
    ((frame.element hasChildren).bind fun around => around.2.lookup "href") =
      (Node.branch frame children data).link?.map Links.target := by
  cases frame with
  | container cssClass =>
    by_cases classed : cssClass.truthy = true <;> simp [Branch.element, Node.link?, classed]
  | heading level anchor title => cases hasChildren <;> rfl
  | _ => rfl

theorem readOff_href : ReadOff Markup.Token.href? fun node => node.link?.map Links.target where
  closing name := rfl
  leaf item data number := by cases item <;> rfl
  branch frame children data := by
    have untitled : frame.title.filterMap Markup.Token.href? = [] := by
      cases frame with
      | heading level anchor title => exact hrefsOf_inline _ rfl
      | _ => rfl
    rw [untitled, List.nil_append, ← lookup_href_element (!children.isEmpty)]
    rfl

theorem Node.hrefsOf_tokens (count : Nat) (node : Node) :
    hrefsOf (node.tokens count) = node.linksMet.map Links.target := by
  rw [Node.linksMet, List.map_filterMap]
  exact readOff_href.node count node

end Folio.Tree

namespace Folio.Render

open Links (Disguise dangerousSchemes isDangerous preprocessed skeleton)
open Markup (hrefs)
open Text.Entity (encoded)
open Folio.Tree (Node)

theorem hrefs_of_result {setting : Setting} {tree : Node} (typed : tree.WellTyped) {state : State}
    {html : String} (rendered : (fragment setting (.node tree) state).result = .ok html) :
    hrefs html = tree.linksMet.map Links.target := by
  obtain ⟨found, cut, decoded⟩ := Option.map_eq_some_iff.mp (tokens_of_result typed rendered)
  rw [hrefs, cut, Option.getD_some, decoded, Markup.hrefsOf_merged, tree.hrefsOf_tokens]

theorem fragment_link (setting : Setting) (url : String) (data : Value) (state : State) :
    (fragment setting (.node (.branch (.link (.str url)) [] data)) state).result =
      .ok ("<a href=\"" ++ encoded (Links.target url) ++ "\"></a>") := by
  have typed : (Node.branch (.link (.str url)) [] data).WellTyped := ⟨trivial, trivial⟩
  have clear : (course setting state
      (Node.branch (.link (.str url)) [] data).events).fault? = none := by
    simp [Node.events, Tree.eventsAll, Tree.Branch.element, course, fault?]
  have tokens : (Node.branch (.link (.str url)) [] data).tokens state.mathCount =
      [.opening "a" [("href", Links.target url)], .closing "a"] := rfl
  rw [fragment_result setting _ typed state, Course.ending, clear, tokens]
  simp [Markup.writtenAll, Markup.Token.written, Markup.between, Markup.closingTag,
    ← String.toList_inj]

/-- A target is dangerous if one of the schemes that run script is left of it without controls,
white space and the case of ASCII letters, so none of these can hide or make one. What a fragment
writes for a link is the target itself where it is harmless and the empty fragment otherwise, and no
reader that cuts, skips and lower-cases in its own way finds such a scheme in it. -/
theorem links_run_no_script :
    (∀ url : String, isDangerous url.toList = true ↔
      ∃ scheme ∈ dangerousSchemes, scheme.toList <+: skeleton url.toList) ∧
    (∀ left right : List Char, Disguise left right → isDangerous left = isDangerous right) ∧
    (∀ setting url data state,
      (fragment setting (.node (.branch (.link (.str url)) [] data)) state).result =
        .ok ("<a href=\"" ++ encoded (if isDangerous url.toList then "#" else url) ++ "\"></a>")) ∧
    ∀ (setting : Setting) (tree : Node) (state : State) (html : String), tree.WellTyped →
      (fragment setting (.node tree) state).result = .ok html →
        hrefs html = tree.linksMet.map (fun url => if isDangerous url.toList then "#" else url) ∧
        ∀ href ∈ hrefs html, ∀ scheme ∈ dangerousSchemes,
          ¬ scheme.toList <+: preprocessed href.toList := by
  refine ⟨fun url => Links.isDangerous_iff url.toList, ?_, fragment_link, ?_⟩
  · intro left right disguise
    exact disguise.isDangerous_eq
  · intro setting tree state html typed rendered
    have found := hrefs_of_result typed rendered
    refine ⟨found, ?_⟩
    intro href member scheme known
    rw [found] at member
    obtain ⟨url, -, rfl⟩ := List.mem_map.mp member
    exact Links.target_harmless url scheme known

/-- A disguised target in a heading's section, beside a harmless one. -/
def baitTree : Node :=
  .branch (.heading 1 (.str "top") (.str "Top")) [
    .branch (.link (.str "\x01Java\tScript:alert(1)")) [
      .leaf (.text (.str "x")) (.object [])] (.object []),
    .branch (.link (.str "/a?b=1&c=\"2\"")) [] (.object [])] (.object [])

def baitFragment : String :=
  "<h1 id=\"top\">Top</h1><div class=\"container-lvl2\"><a href=\"#\">x</a>" ++
    "<a href=\"/a?b=1&amp;c=&quot;2&quot;\"></a></div>"

theorem baitTree_wellTyped : baitTree.WellTyped := by
  simp [baitTree, Node.WellTyped, Tree.AllWellTyped, Tree.Branch.WellTyped, Tree.Leaf.WellTyped,
    Tree.IsText]

theorem baitTree_fragment :
    (fragment bareSetting (.node baitTree) .fresh).result = .ok baitFragment :=
  ok_of_toOption (by decide +kernel)

theorem disguised_scheme : Disguise ['J', 'S', '\t', 'c', '\u3000'] ['\x7F', 'j', 's', 'C'] :=
  .inserted rfl <| .letter rfl <| .letter rfl <| .dropped rfl <| .letter rfl <| .dropped rfl .done

theorem links_run_no_script_bait :
    isDangerous ['J', 'S', '\t', 'c', '\u3000'] = isDangerous ['\x7F', 'j', 's', 'C'] ∧
      baitTree.WellTyped ∧
      (fragment bareSetting (.node baitTree) .fresh).result = .ok baitFragment ∧
      hrefs baitFragment = ["#", "/a?b=1&c=\"2\""] := by
  refine ⟨links_run_no_script.2.1 _ _ disguised_scheme, baitTree_wellTyped, baitTree_fragment, ?_⟩
  have found := (links_run_no_script.2.2.2 bareSetting baitTree .fresh baitFragment
    baitTree_wellTyped baitTree_fragment).1
  exact found.trans (by decide +kernel)

end Folio.Render
