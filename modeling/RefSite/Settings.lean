import RefSite.InputError
import RefSite.Path
import RefSite.Site
import RefSite.Toml.Reader

namespace RefSite.Settings

open Toml (Value Fields)

/-- The values of a record, by the keys that it knows. An array gives them in the order of the keys
and what it holds beyond them is not looked at; a table may have other keys too, if their values
can be read; a date-time has none of the keys. -/
def record? (keys : List Text) : Value → Option Fields
  | .table _ fields =>
    if Value.fieldsReadable (fields.filter (!keys.contains ·.1)) then some fields else none
  | .list items => some (keys.zip items)
  | .tables items => some (keys.zip items)
  | .dateTime _ => some []
  | _ => none

def text? (fields : Fields) (key default : Text) : Option Text :=
  match fields.lookup key with
  | none => some default
  | some (.text t) => some t
  | some _ => none

/-- The record under a key; nothing stands for an empty one. -/
def section? (fields : Fields) (key : Text) (keys : List Text) : Option Fields :=
  match fields.lookup key with
  | none => some []
  | some v => record? keys v

def wording? (fields : Fields) : Option Wording :=
  if Phrase.all.all fun p => (text? fields p.key p.spanish).isSome then
    some fun p => (text? fields p.key p.spanish).getD []
  else none

def ofFields? (document : Fields) : Option SiteOptions := do
  let parts ← record? ["output".toList, "labels".toList] (.table .header document)
  let output ← section? parts "output" ["destination".toList, "code_language".toList]
  let destination ← text? output "destination" "docs"
  let codeLanguage ← text? output "code_language" "C#"
  let labels ← section? parts "labels" (Phrase.all.map Phrase.key)
  let wording ← wording? labels
  some { destination, style := { codeLanguage, wording } }

def read (t : Text) : Except InputError SiteOptions :=
  match Toml.read? t >>= ofFields? with
  | some options => .ok options
  | none => .error .settingsMalformed

/-- The destination has to be a relative path that does not climb, and neither it nor the language
may be blank. -/
def check (options : SiteOptions) : Except Invalid Unit :=
  if Text.trim options.destination = [] then .error (.empty "output.destination")
  else if Text.trim options.style.codeLanguage = [] then .error (.empty "output.code_language")
  else if .parent ∈ Path.components options.destination ∨ Path.isAbsolute options.destination then
    .error .destinationOutside
  else .ok ()

def fileName : Text := "apimd.toml"

section

variable {m : Type → Type} [Monad m] [FileStore m]

def firstIn? : List Text → m (Option Text)
  | [] => pure none
  | folder :: folders => do
    let candidate := Path.join folder fileName
    if ← FileStore.has candidate then pure (some candidate) else firstIn? folders

/-- The settings file nearest to a folder, in it or around it; no folder means the working folder. -/
def discover? (folder : Text) : m (Option Text) := do
  let start ← if folder = [] then FileStore.workingFolder else pure folder
  firstIn? (Path.ancestors start)

def readFile (path : Text) : m (Except InputError SiteOptions) := do
  match ← FileStore.read path with
  | .ok content => pure (read content)
  | .error fault => pure (.error (.unreadable path fault))

def find (file : Option Text) (folder : Text) : m (Except InputError SiteOptions) := do
  match file with
  | some path =>
    if ← FileStore.has path then readFile path else pure (.error (.notFound path))
  | none =>
    match ← discover? folder with
    | some path => readFile path
    | none => pure (.ok {})

/-- Sets a destination that the command line gives, and checks the result. -/
def settle (destination : Option Text) (options : SiteOptions) : Except InputError SiteOptions :=
  let options := { options with destination := destination.getD options.destination }
  match check options with
  | .ok () => .ok options
  | .error reason => .error (.invalid reason)

def load (file : Option Text) (folder : Text) (destination : Option Text) :
    m (Except InputError SiteOptions) := do
  let found ← find file folder
  pure (found >>= settle destination)

end

end RefSite.Settings
