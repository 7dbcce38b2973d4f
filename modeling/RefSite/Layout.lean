import RefSite.FileStore
import RefSite.Site

namespace RefSite

structure PlannedFile where
  folder : Text
  path : Text
  content : Text
  deriving DecidableEq, Repr

structure WriteError where
  path : Text
  fault : FileFault
  deriving DecidableEq, Repr

def WriteError.message (e : WriteError) : Text := e.path ++ ": " ++ e.fault.message

namespace Layout

/-- The folder of a package below the folder that the export is in. -/
def base (inputFolder destination packageId : Text) : Text :=
  Path.join (Path.join inputFolder destination) packageId

def folderOf (base : Text) (p : Page) : Text := if p.id = [] then base else Path.join base p.id

def plannedPage (base : Text) (p : Page) : PlannedFile where
  folder := folderOf base p
  path := Path.join (folderOf base p) "index.md"
  content := p.body

def plannedManifest (base : Text) (s : Site) : PlannedFile where
  folder := base
  path := Path.join base "menu.json"
  content := s.manifest

def plan (base : Text) (s : Site) : List PlannedFile :=
  s.pages.map (plannedPage base) ++ [plannedManifest base s]

section

variable {m : Type → Type} [Monad m] [FileStore m]

def atPath (path : Text) : Except FileFault Unit → Except WriteError Unit
  | .ok () => .ok ()
  | .error fault => .error { path, fault }

def write (f : PlannedFile) : m (Except WriteError Unit) := do
  match ← FileStore.makeFolders f.folder with
  | .error fault => pure (.error ⟨f.folder, fault⟩)
  | .ok () => pure <| atPath f.path <| ← FileStore.write f.path f.content

/-- Writes files in order, up to the first one that fails. -/
def writeAll : List PlannedFile → m (Except WriteError Unit)
  | [] => pure (.ok ())
  | f :: files => do
    match ← write f with
    | .ok () => writeAll files
    | .error e => pure (.error e)

end

end Layout

end RefSite
