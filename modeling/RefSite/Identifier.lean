import RefSite.Text.Blank

namespace RefSite

inductive Kind
  | type
  | constructor
  | method
  | property
  | constant
  deriving DecidableEq, Repr

/-- The kind that an identifier names; other schemes have none. A method is a constructor when its
last segment is `#ctor`. -/
def Kind.of? : Text → Option Kind
  | 'T' :: ':' :: _ => some .type
  | 'M' :: ':' :: rest =>
    if Text.afterLast '.' (Text.before '(' rest) = "#ctor" then some .constructor else some .method
  | 'P' :: ':' :: _ => some .property
  | 'F' :: ':' :: _ => some .constant
  | _ => none

/-- What is read of a text such as `M:Acme.Widget.Resize(System.Int32)`. -/
structure Identifier where
  kind : Kind
  path : List Text
  params : Option Text
  deriving DecidableEq, Repr

namespace Identifier

def dotted (segments : List Text) : Text := Text.join "." segments

/-- The text in the parentheses; it reaches to the last closing one, or to the end without any. -/
def params? (body : Text) : Option Text :=
  (Text.after? '(' body).map fun rest => (Text.beforeLast? ')' rest).getD rest

/-- White space around the path and the parameters does not count. Each segment of the path has to
be non-empty, and only a type can do with a single one. -/
def parse? (text : Text) : Option Identifier := do
  let kind ← Kind.of? text
  let body := Text.trim (text.drop 2)
  let path := Text.split '.' (Text.before '(' body)
  if [] ∈ path then none
  else if kind ≠ .type ∧ path.length < 2 then none
  else some { kind, path, params := params? body }

/-- The path of the type that the member belongs to; a type belongs to itself. -/
def owner (id : Identifier) : List Text :=
  match id.kind with
  | .type => id.path
  | _ => id.path.dropLast

def owningType (id : Identifier) : Text := dotted id.owner

def segment (id : Identifier) : Text := id.path.getLastD []

def typeName (id : Identifier) : Text := id.owner.getLastD []

/-- A constructor goes by the name of its type. -/
def name (id : Identifier) : Text :=
  match id.kind with
  | .type | .constructor => id.typeName
  | _ => id.segment

def label (id : Identifier) : Text :=
  match id.kind with
  | .type | .constructor => id.typeName
  | _ => dotted [id.typeName, id.segment]

end Identifier

end RefSite
