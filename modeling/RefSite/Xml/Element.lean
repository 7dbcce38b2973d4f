import RefSite.Text.Basic

namespace RefSite.Xml

abbrev Attributes := List (Text × Text)

/-- The text is what stands before the first child, and the tail what stands behind the element. -/
structure Element where
  tag : Text
  attributes : Attributes := []
  text : Text := []
  children : List Element := []
  tail : Text := []
  deriving Repr, Inhabited

namespace Element

def attribute? (e : Element) (name : Text) : Option Text := e.attributes.lookup name

def child? (e : Element) (tag : Text) : Option Element := e.children.find? (·.tag = tag)

def childrenTagged (e : Element) (tag : Text) : List Element := e.children.filter (·.tag = tag)

mutual

/-- All text within the element, its own tail left out. -/
def innerText : Element → Text
  | ⟨_, _, text, children, _⟩ => text ++ innerTexts children

/-- The text of a run of elements, tails included. -/
def innerTexts : List Element → Text
  | [] => []
  | e :: es => e.innerText ++ e.tail ++ innerTexts es

end

theorem innerText_eq (e : Element) : e.innerText = e.text ++ innerTexts e.children := by
  obtain ⟨tag, attributes, text, children, tail⟩ := e
  rw [innerText]

theorem innerTexts_cons (e : Element) (es : List Element) :
    innerTexts (e :: es) = e.innerText ++ e.tail ++ innerTexts es := by
  rw [innerTexts]

end Element

end RefSite.Xml
