import RefSite.Comment
import RefSite.Proofs.LineEnd

namespace RefSite

open Text (Returned withReturns)

variable {s t u : Text}

namespace Xml

/-- The attributes with a carriage return more before each line feed of a value. -/
def Attributes.withReturns (attributes : Attributes) : Attributes :=
  attributes.map fun (name, value) => (name, Text.withReturns value)

theorem Attributes.lookup_withReturns (attributes : Attributes) (name : Text) :
    attributes.withReturns.lookup name = (attributes.lookup name).map Text.withReturns := by
  induction attributes with
  | nil => rfl
  | cons a attributes ih =>
    obtain ⟨key, value⟩ := a
    rw [withReturns, List.map_cons, List.lookup_cons, List.lookup_cons]
    split
    · rfl
    · exact ih

theorem Attributes.lookup_withReturns_eq_iff (h : '\n' ∉ u) (attributes : Attributes)
    (name : Text) :
    attributes.withReturns.lookup name = some u ↔ attributes.lookup name = some u := by
  rw [lookup_withReturns]
  cases attributes.lookup name with
  | none => exact Iff.rfl
  | some value => simp [(Returned.withReturns value).eq_iff h]

namespace Element

mutual

/-- The element with a carriage return more before each line feed in it and in its tail. -/
def withReturns : Element → Element
  | ⟨tag, attributes, text, children, tail⟩ =>
    ⟨tag, attributes.withReturns, Text.withReturns text, allWithReturns children,
      Text.withReturns tail⟩

def allWithReturns : List Element → List Element
  | [] => []
  | e :: es => e.withReturns :: allWithReturns es

end

theorem withReturns_tag (e : Element) : e.withReturns.tag = e.tag := by
  obtain ⟨tag, attributes, text, children, tail⟩ := e
  rw [withReturns]

theorem withReturns_tail (e : Element) : e.withReturns.tail = Text.withReturns e.tail := by
  obtain ⟨tag, attributes, text, children, tail⟩ := e
  rw [withReturns]

mutual

theorem returned_innerText : ∀ e : Element, Returned e.innerText e.withReturns.innerText
  | ⟨_, _, text, children, _⟩ => by
    rw [withReturns, innerText, innerText]
    exact (Returned.withReturns text).append (returned_innerTexts children)

theorem returned_innerTexts :
    ∀ es : List Element, Returned (innerTexts es) (innerTexts (allWithReturns es))
  | [] => by
    rw [allWithReturns]
    exact .refl _
  | e :: es => by
    rw [allWithReturns, innerTexts_cons, innerTexts_cons, withReturns_tail]
    exact ((returned_innerText e).append (.withReturns e.tail)).append (returned_innerTexts es)

end

end Element

end Xml

namespace Comment

open Xml (Element)
open Xml.Element (allWithReturns)

theorem returned_reference (attributes : Xml.Attributes) (h : Returned s t) :
    Returned (reference attributes s) (reference attributes.withReturns t) := by
  unfold reference
  simp only [Xml.Attributes.lookup_withReturns, h.trim.eq_nil_iff]
  cases attributes.lookup "langword".toList with
  | some word => exact Markdown.returned_codeSpan (.withReturns word)
  | none =>
    cases attributes.lookup "href".toList with
    | some href =>
      have hhref := Returned.withReturns href
      dsimp only [Option.map]
      split_ifs
      · exact Markdown.returned_link hhref hhref
      · exact Markdown.returned_link h.trim hhref
    | none =>
      cases attributes.lookup "cref".toList with
      | some cref =>
        dsimp only [Option.map]
        split_ifs
        · exact returned_memberLink (.withReturns cref)
        · have hid := Identifier.returned_parse? (.withReturns cref)
          generalize Identifier.parse? cref = a, Identifier.parse? cref.withReturns = b at hid ⊢
          cases hid with
          | some hid => exact Markdown.returned_link h.trim hid.target
          | none => exact h.trim
      | none => exact h.trim

theorem returned_itemText {term term' : Option Text} (hterm : Option.Rel Returned term term')
    (h : Returned s t) : Returned (itemText term s) (itemText term' t) := by
  have hterm := (Text.returned_getD hterm .nil).trim
  unfold itemText
  simp only [hterm.eq_nil_iff]
  split_ifs
  · exact h.trim
  · exact (((Returned.refl _).append hterm).append (.refl _)).append h.trim

mutual

theorem returned_content : ∀ e : Element, Returned (content e) (content e.withReturns)
  | ⟨_, _, text, children, _⟩ => by
    rw [Element.withReturns, content, content]
    exact (Markdown.returned_escapeTicks (.withReturns text)).append (returned_run children)

theorem returned_run : ∀ es : List Element, Returned (run es) (run (allWithReturns es))
  | [] => by
    rw [allWithReturns]
    exact .refl _
  | e :: es => by
    have htail := Markdown.returned_escapeTicks (.withReturns e.tail)
    rw [allWithReturns, run_cons, run_cons, Element.withReturns_tail]
    exact ((returned_inline e).append htail).append (returned_run es)

theorem returned_inline : ∀ e : Element, Returned (inline e) (inline e.withReturns)
  | ⟨tag, attributes, text, children, tail⟩ => by
    have hcontent := (Markdown.returned_escapeTicks (.withReturns text)).append
      (returned_run children)
    have htext := (Returned.withReturns text).append (Element.returned_innerTexts children)
    rw [Element.withReturns, inline, inline]
    cases Role.of tag with
    | reference => exact returned_reference attributes hcontent
    | parameterName =>
      dsimp only
      rw [Xml.Attributes.lookup_withReturns]
      cases attributes.lookup "name".toList with
      | some name => exact Markdown.returned_codeSpan (.withReturns name)
      | none => exact .refl _
    | code => exact Markdown.returned_codeSpan htext
    | codeBlock => exact Markdown.returned_codeBlock htext
    | paragraph => exact ((Returned.refl _).append hcontent).append (.refl _)
    | lineBreak => exact .refl _
    | strong => exact Markdown.returned_emphasize _ hcontent
    | emphasis => exact Markdown.returned_emphasize _ hcontent
    | list =>
      dsimp only
      simp only [Xml.Attributes.lookup_withReturns_eq_iff (show '\n' ∉ "number".toList by decide)]
      exact (Returned.refl _).append (returned_items _ 1 children)
    | plain => exact hcontent

theorem returned_items (numbered : Bool) :
    ∀ (n : Nat) (es : List Element),
      Returned (items numbered n es) (items numbered n (allWithReturns es))
  | _, [] => by
    rw [allWithReturns]
    exact .refl _
  | n, ⟨tag, attributes, text, children, tail⟩ :: es => by
    rw [allWithReturns, Element.withReturns, items, items]
    split_ifs
    · have hitem := (Markdown.returned_escapeTicks (.withReturns text)).append
        (returned_run children)
      have hdescription := Text.returned_getD (returned_contentOf "description" children) hitem
      have htext := returned_itemText (returned_contentOf "term" children) hdescription
      exact (((Returned.refl _).append htext).append (.refl _)).append
        (returned_items numbered (n + 1) es)
    · exact returned_items numbered n es

theorem returned_contentOf (tag : Text) :
    ∀ es : List Element,
      Option.Rel Returned (contentOf tag es) (contentOf tag (allWithReturns es))
  | [] => by
    rw [allWithReturns, contentOf]
    exact .none
  | e :: es => by
    rw [allWithReturns, contentOf, contentOf, Element.withReturns_tag]
    split_ifs
    · exact .some (returned_content e)
    · exact returned_contentOf tag es

end

/-- A comment comes out the same from a file with line ends of two characters. -/
theorem lines_withReturns (e : Element) :
    lines e.withReturns = lines e ∧ oneLine e.withReturns = oneLine e := by
  have hlines : lines e.withReturns = lines e :=
    (Markdown.normalLines_eq_of_returned (returned_content e)).symm
  refine ⟨hlines, ?_⟩
  rw [oneLine, hlines, oneLine]

end Comment

end RefSite
