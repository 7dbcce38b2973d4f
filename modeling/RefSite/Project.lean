import RefSite.InputError
import RefSite.Package
import RefSite.Path
import RefSite.Text.Blank
import RefSite.Xml.Reader

namespace RefSite.Project

open Xml (Element)

/-- A property of the first group that has it; a blank one is absent. -/
def property? (groups : List Element) (name : Text) : Option Text := do
  let e ← groups.findSome? (·.child? name)
  let value := Text.trim e.innerText
  if value = [] then none else some value

def isSegment (id : Text) : Bool := '/' ∉ id && '\\' ∉ id && id ≠ ['.'] && id ≠ ['.', '.']

def isWebAddress (address : Text) : Bool :=
  "http://".toList.isPrefixOf address || "https://".toList.isPrefixOf address

def required (groups : List Element) (name : Text) : Except Invalid Text :=
  match property? groups name with
  | some value => .ok value
  | none => .error (.empty name)

def address? (groups : List Element) (name : Text) : Except Invalid (Option Text) :=
  match property? groups name with
  | some value => if isWebAddress value then .ok (some value) else .error (.notWebAddress name)
  | none => .ok none

def ofGroups (groups : List Element) : Except Invalid Package := do
  let title ← required groups "title"
  let id ← required groups "id"
  if !isSegment id then throw (.idNotSegment id)
  let iconUrl ← address? groups "iconUrl"
  let nugetUrl ← address? groups "nugetUrl"
  let devopsUrl ← address? groups "devopsUrl"
  let repositoryUrl ← address? groups "RepositoryUrl"
  let releaseBadgeUrl ← address? groups "releaseBadgeUrl"
  return {
    title, id
    description := (property? groups "description").getD []
    summary := (property? groups "summary").getD []
    iconUrl, nugetUrl, devopsUrl, repositoryUrl, releaseBadgeUrl }

def read (t : Text) : Except InputError Package :=
  match Xml.read t with
  | .error error => .error (.projectMalformed error)
  | .ok root =>
    match ofGroups (root.childrenTagged "PropertyGroup") with
    | .ok p => .ok p
    | .error reason => .error (.invalid reason)

def pathFor (exportPath : Text) : Text := Path.withExtension exportPath "csproj"

def load {m : Type → Type} [Monad m] [FileStore m] (path : Text) :
    m (Except InputError Package) := do
  if ← FileStore.has path then
    match ← FileStore.read path with
    | .ok content => pure (read content)
    | .error fault => pure (.error (.unreadable path fault))
  else pure (.error (.notFound path))

end RefSite.Project
