import RefSite.Path

namespace RefSite

inductive FileFault
  | notFound
  | alreadyExists
  | notFolder
  | isFolder
  | nameTooLong
  | nulInPath
  | notUtf8
  | other (message : Text)
  deriving DecidableEq, Repr

def FileFault.message : FileFault → Text
  | .notFound => "No such file or directory (os error 2)"
  | .alreadyExists => "File exists (os error 17)"
  | .notFolder => "Not a directory (os error 20)"
  | .isFolder => "Is a directory (os error 21)"
  | .nameTooLong => "File name too long (os error 36)"
  | .nulInPath => "file name contained an unexpected NUL byte"
  | .notUtf8 => "stream did not contain valid UTF-8"
  | .other message => message

class FileStore (m : Type → Type) where
  workingFolder : m Text
  has : Text → m Bool
  isFolder : Text → m Bool
  read : Text → m (Except FileFault Text)
  makeFolder : Text → m (Except FileFault Unit)
  /-- Writes a file in place of the one that is there, if any. -/
  write : Text → Text → m (Except FileFault Unit)

namespace FileStore

variable {m : Type → Type} [Monad m] [FileStore m]

/-- It is no fault that a folder could not be made which is there already. -/
def settle (folder : Text) : Except FileFault Unit → m (Except FileFault Unit)
  | .ok () => pure (.ok ())
  | .error fault => do
    if ← isFolder folder then pure (.ok ()) else pure (.error fault)

/-- Makes the first of some folders, where each lies in the next one. What is missing is made from
the outside in. -/
def makeAlong : List Text → m (Except FileFault Unit)
  | [] => pure (.ok ())
  | [] :: _ => pure (.ok ())
  | folder :: outer => do
    match ← makeFolder folder with
    | .error .notFound =>
      match ← makeAlong outer with
      | .ok () => settle folder (← makeFolder folder)
      | .error fault => pure (.error fault)
    | outcome => settle folder outcome

def makeFolders (folder : Text) : m (Except FileFault Unit) := makeAlong (Path.ancestors folder)

end FileStore

end RefSite
