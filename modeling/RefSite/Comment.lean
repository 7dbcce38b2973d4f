import RefSite.CrossReference
import RefSite.Xml.Element

namespace RefSite.Comment

open Xml (Element)

inductive Role
  | reference
  | parameterName
  | code
  | codeBlock
  | paragraph
  | lineBreak
  | strong
  | emphasis
  | list
  | plain
  deriving DecidableEq, Repr

def Role.of (tag : Text) : Role :=
  if tag = "see" ∨ tag = "seealso" then .reference
  else if tag = "paramref" ∨ tag = "typeparamref" then .parameterName
  else if tag = "c" then .code
  else if tag = "code" then .codeBlock
  else if tag = "para" then .paragraph
  else if tag = "br" then .lineBreak
  else if tag = "b" ∨ tag = "strong" then .strong
  else if tag = "i" ∨ tag = "em" then .emphasis
  else if tag = "list" then .list
  else .plain

/-- A reference to a keyword, an address or a member, whichever comes first, with the content of
the element as its label. -/
def reference (attributes : Xml.Attributes) (content : Text) : Text :=
  let label := Text.trim content
  match attributes.lookup "langword".toList, attributes.lookup "href".toList,
    attributes.lookup "cref".toList with
  | some word, _, _ => Markdown.codeSpan word
  | none, some href, _ => Markdown.link (if label = [] then href else label) href
  | none, none, some cref =>
    if label = [] then memberLink cref
    else match Identifier.parse? cref with
      | some id => Markdown.link label id.target
      | none => label
  | none, none, none => label

/-- The marker before the item with a number, counted from one. -/
def itemMarker (numbered : Bool) (n : Nat) : Text :=
  if numbered then Nat.toDigits 10 n ++ ". " else "- "

/-- A term that is not blank stands before the description. -/
def itemText (term : Option Text) (description : Text) : Text :=
  let term := Text.trim (term.getD [])
  if term = [] then Text.trim description
  else "**" ++ term ++ "**: " ++ Text.trim description

mutual

/-- The content of an element, whatever its own role. -/
def content : Element → Text
  | ⟨_, _, text, children, _⟩ => Markdown.escapeTicks text ++ run children

/-- A run of elements, each with the text behind it. -/
def run : List Element → Text
  | [] => []
  | e :: es => inline e ++ Markdown.escapeTicks e.tail ++ run es

def inline : Element → Text
  | ⟨tag, attributes, text, children, _⟩ =>
    match Role.of tag with
    | .reference => reference attributes (Markdown.escapeTicks text ++ run children)
    | .parameterName => Markdown.codeSpan ((attributes.lookup "name".toList).getD [])
    | .code => Markdown.codeSpan (text ++ Element.innerTexts children)
    | .codeBlock => Markdown.codeBlock (text ++ Element.innerTexts children)
    | .paragraph => "\n" ++ (Markdown.escapeTicks text ++ run children) ++ "\n"
    | .lineBreak => "\n"
    | .strong => Markdown.emphasize "**" (Markdown.escapeTicks text ++ run children)
    | .emphasis => Markdown.emphasize "*" (Markdown.escapeTicks text ++ run children)
    | .list =>
      "\n" ++ items (attributes.lookup "type".toList = some "number".toList) 1 children
    | .plain => Markdown.escapeTicks text ++ run children

/-- The items of a list, numbered from `n` on; other elements are left out. -/
def items (numbered : Bool) (n : Nat) : List Element → Text
  | [] => []
  | ⟨tag, _, text, children, _⟩ :: es =>
    if tag = "item" then
      itemMarker numbered n ++
        itemText (contentOf "term" children)
          ((contentOf "description" children).getD (Markdown.escapeTicks text ++ run children)) ++
        "\n" ++ items numbered (n + 1) es
    else items numbered n es

def contentOf (tag : Text) : List Element → Option Text
  | [] => none
  | e :: es => if e.tag = tag then some (content e) else contentOf tag es

end

theorem content_eq (e : Element) : content e = Markdown.escapeTicks e.text ++ run e.children := by
  obtain ⟨tag, attributes, text, children, tail⟩ := e
  rw [content]

theorem run_cons (e : Element) (es : List Element) :
    run (e :: es) = inline e ++ Markdown.escapeTicks e.tail ++ run es := by
  rw [run]

def lines (e : Element) : List Text := Markdown.normalLines (content e)

/-- The comment in one line, as table cells need it. -/
def oneLine (e : Element) : Text := Text.join " " ((lines e).filter (· ≠ []))

end RefSite.Comment
