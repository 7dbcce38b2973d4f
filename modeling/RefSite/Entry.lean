import RefSite.Comment
import RefSite.Text.Lowercase
import RefSite.Wording

namespace RefSite

open Xml (Element)

/-- A described parameter, by its name, or an exception, by a reference. -/
structure Described where
  name : Text
  text : Text
  deriving DecidableEq, Repr

structure Entry where
  id : Identifier
  summary : List Text
  params : List Described
  typeParams : List Described
  exceptions : List Described
  returns : List Text
  value : List Text
  remarks : List Text
  examples : List Text
  deriving DecidableEq, Repr

namespace Entry

def section? (e : Element) (tag : Text) : List Text :=
  match e.child? tag with
  | some child => Comment.lines child
  | none => []

/-- What the children with a tag describe, each under the name that an attribute gives it. -/
def described (e : Element) (tag key : Text) : List Described :=
  (e.childrenTagged tag).map fun child =>
    { name := (child.attribute? key).getD [], text := Comment.oneLine child }

/-- The documentation of a member; an element without a usable identifier documents none. -/
def ofElement? (e : Element) : Option Entry := do
  let id ← e.attribute? "name" >>= Identifier.parse?
  some {
    id
    summary := section? e "summary"
    params := described e "param" "name"
    typeParams := described e "typeparam" "name"
    exceptions := described e "exception" "cref"
    returns := section? e "returns"
    value := section? e "value"
    remarks := section? e "remarks"
    examples := section? e "example" }

def kind (e : Entry) : Kind := e.id.kind

def owningType (e : Entry) : Text := e.id.owningType

def name (e : Entry) : Text := NameForm.display e.id.name

/-- A type with `namespace` in its name stands for the namespace that it is in. -/
def isNamespaceMarker (e : Entry) : Bool :=
  e.kind = .type && Text.contains "namespace" (Text.lower e.name)

/-- The parameters by their described names or, if none is described, by their types. -/
def paramList (e : Entry) : Text :=
  if e.params = [] then e.id.params.getD [] else Text.join ", " (e.params.map (·.name))

/-- The heading of the fragment; what can be called has its parameters in it. -/
def caption (e : Entry) : Text :=
  match e.kind with
  | .constructor | .method => e.name ++ "(" ++ e.paramList ++ ")"
  | _ => e.name

def block (ls : List Text) : List Text := if ls = [] then [] else ls ++ [[]]

def titled (title : Text) (ls : List Text) : List Text :=
  if ls = [] then [] else ["#### " ++ title, []] ++ block ls

/-- A name with a colon is a reference to a member. -/
def rowName (name : Text) : Text :=
  if ':' ∈ name then memberLink name else Markdown.codeSpan name

def row (d : Described) : Text :=
  Markdown.tableRow (Markdown.escapeBars (rowName d.name)) (Markdown.escapeBars d.text)

def table (title left right : Text) (rows : List Described) : List Text :=
  if rows = [] then []
  else
    ["#### " ++ title, [], Markdown.tableRow left right, "|---|---|"] ++ rows.map row ++ [[]]

def fragment (w : Wording) (e : Entry) : List Text :=
  ["### " ++ Markdown.escapeHtml e.caption, []] ++
    block e.summary ++
    table (w .parameters) (w .name) (w .description) e.params ++
    table (w .typeParameters) (w .name) (w .description) e.typeParams ++
    titled (w .returns) e.returns ++
    titled (w .value) e.value ++
    table (w .exceptions) (w .exception) (w .description) e.exceptions ++
    titled (w .remarks) e.remarks ++
    titled (w .examples) e.examples

end Entry

end RefSite
