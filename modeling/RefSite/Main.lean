import RefSite.CommandLine.Run

namespace RefSite

def faultOf : IO.Error → FileFault
  | .noFileOrDirectory .. => .notFound
  | .alreadyExists .. => .alreadyExists
  | .inappropriateType _ code _ => if code = 21 then .isFolder else .notFolder
  | .invalidArgument _ 36 _ => .nameTooLong
  | .invalidArgument _ 22 _ => .nulInPath
  | error => .other (toString error).toList

def attempt {α : Type} (action : IO α) : IO (Except FileFault α) := do
  try return .ok (← action)
  catch error => return .error (faultOf error)

/-- Whether a path can be opened; a dot behind it asks for a folder. -/
def opens (path : Text) : IO Bool := do
  return (← attempt (IO.FS.Handle.mk (String.ofList path) .read)).isOk

instance : FileStore IO where
  workingFolder := return (← IO.currentDir).toString.toList
  has := opens
  isFolder path := opens (path ++ "/.")
  read path := do
    match ← attempt (IO.FS.readBinFile (String.ofList path)) with
    | .error fault => return .error fault
    | .ok content =>
      match String.fromUTF8? content with
      | some s => return .ok s.toList
      | none => return .error .notUtf8
  makeFolder path := attempt (IO.FS.createDir (String.ofList path))
  write path content := attempt (IO.FS.writeFile (String.ofList path) (String.ofList content))

end RefSite

def main (arguments : List String) : IO Unit := do
  let lines ← RefSite.CommandLine.respond (arguments.map String.toList)
  for line in lines do
    IO.println (String.ofList line)
