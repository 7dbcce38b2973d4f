import RefSite.FileStore

namespace RefSite

/-- The names that lead to a place, the last one first. -/
abbrev Location := List Text

inductive FileNode
  | folder
  | file (content : ByteArray)

instance : DecidableEq FileNode
  | .folder, .folder => isTrue rfl
  | .folder, .file _ => isFalse nofun
  | .file _, .folder => isFalse nofun
  | .file a, .file b =>
    decidable_of_iff (a.data = b.data)
      ⟨fun h => congrArg FileNode.file (ByteArray.ext h), fun h => by cases h; rfl⟩

structure FileTree where
  workingFolder : Location := []
  nodes : List (Location × FileNode) := []

namespace FileTree

def node? (t : FileTree) : Location → Option FileNode
  | [] => some .folder
  | here => t.nodes.lookup here

def put (t : FileTree) (here : Location) (node : FileNode) : FileTree :=
  if t.nodes.any (·.1 = here) then
    { t with nodes := t.nodes.map fun entry => if entry.1 = here then (here, node) else entry }
  else { t with nodes := t.nodes ++ [(here, node)] }

def step (here : Location) (name : Text) : Location :=
  if name = ['.'] then here else if name = ['.', '.'] then here.tail else name :: here

/-- The most bytes that a name may have. -/
def nameLimit : Nat := 255

/-- The most bytes that a path may have. -/
def pathLimit : Nat := 4095

/-- Goes along names; each step starts from a folder that is there. -/
def walk (t : FileTree) (here : Location) : List Text → Except FileFault Location
  | [] => .ok here
  | name :: names =>
    match t.node? here with
    | none => .error .notFound
    | some (.file _) => .error .notFolder
    | some .folder =>
      if Text.byteSize name ≤ nameLimit then walk t (step here name) names
      else .error .nameTooLong

/-- The names along a path; a slash at its end asks for a folder, as a dot does. -/
def names (p : Text) : List Text :=
  (Text.split '/' p).filter (· ≠ []) ++ if p.getLast? = some '/' then [['.']] else []

def locate (t : FileTree) (p : Text) : Except FileFault Location :=
  if '\x00' ∈ p then .error .nulInPath
  else if p = [] then .error .notFound
  else if pathLimit < Text.byteSize p then .error .nameTooLong
  else walk t (if Path.isAbsolute p then [] else t.workingFolder) (names p)

def find (t : FileTree) (p : Text) : Except FileFault FileNode := do
  let here ← t.locate p
  match t.node? here with
  | some node => .ok node
  | none => .error .notFound

def has (t : FileTree) (p : Text) : Bool := (t.find p).isOk

def isFolder (t : FileTree) (p : Text) : Bool :=
  match t.find p with
  | .ok .folder => true
  | _ => false

def read (t : FileTree) (p : Text) : Except FileFault Text := do
  match ← t.find p with
  | .folder => .error .isFolder
  | .file content =>
    match String.fromUTF8? content with
    | some s => .ok s.toList
    | none => .error .notUtf8

def write (t : FileTree) (p content : Text) : Except FileFault FileTree := do
  let here ← t.locate p
  match t.node? here with
  | some .folder => .error .isFolder
  | _ => .ok (t.put here (.file (String.ofList content).toUTF8))

/-- Makes one folder; slashes at the end of its path do not count. -/
def makeFolder (t : FileTree) (p : Text) : Except FileFault FileTree := do
  let here ← t.locate (if p.all (· = '/') then p else (p.reverse.dropWhile (· = '/')).reverse)
  match t.node? here with
  | some _ => .error .alreadyExists
  | none => .ok (t.put here .folder)

def absolutePath (here : Location) : Text := "/" ++ Text.join "/" here.reverse

/-- The outcome of an operation, and the tree that it leaves: a failing one leaves the tree alone. -/
def update (change : FileTree → Except FileFault FileTree) : StateM FileTree (Except FileFault Unit) :=
  fun t =>
    match change t with
    | .ok t' => (.ok (), t')
    | .error fault => (.error fault, t)

instance : FileStore (StateM FileTree) where
  workingFolder := fun t => (absolutePath t.workingFolder, t)
  has p := fun t => (t.has p, t)
  isFolder p := fun t => (t.isFolder p, t)
  read p := fun t => (t.read p, t)
  makeFolder p := update (·.makeFolder p)
  write p content := update (·.write p content)

end FileTree

end RefSite
