import RefSite.FileStore
import RefSite.Text.Quoted
import RefSite.Xml.Fault

namespace RefSite

inductive Invalid
  | empty (field : Text)
  | destinationOutside
  | idNotSegment (id : Text)
  | notWebAddress (field : Text)
  deriving DecidableEq, Repr

def Invalid.message : Invalid → Text
  | .empty field => field ++ " cannot be empty"
  | .destinationOutside =>
    "output.destination must be a relative path inside the input directory"
  | .idNotSegment id => "id must be a single path segment, got " ++ Text.quoted id
  | .notWebAddress field => field ++ " must start with http:// or https://"

inductive InputError
  | notFound (path : Text)
  | unreadable (path : Text) (fault : FileFault)
  /-- The settings are no TOML document, or a value in them has the wrong type. -/
  | settingsMalformed
  | projectMalformed (error : Xml.Error)
  | invalid (reason : Invalid)
  deriving DecidableEq, Repr

def InputError.message : InputError → Text
  | .notFound path => "Configuration file not found: " ++ path
  | .unreadable path fault => "I/O error reading " ++ path ++ ": " ++ fault.message
  | .settingsMalformed => "TOML parse error"
  | .projectMalformed error => "Project descriptor error: " ++ error.message
  | .invalid reason => "Configuration error: " ++ reason.message

end RefSite
