import RefSite.Entry
import RefSite.Xml.Reader

namespace RefSite

open Xml (Element)

structure Export where
  members : List Element
  deriving Repr

namespace Export

inductive Error
  | xml (error : Xml.Error)
  | noMembers
  deriving DecidableEq, Repr

def Error.message : Error → Text
  | .xml error => error.message
  | .noMembers => "document has no <members> element"

def ofRoot (root : Element) : Except Error Export :=
  match root.child? "members" with
  | some members => .ok { members := members.childrenTagged "member" }
  | none => .error .noMembers

def read (t : Text) : Except Error Export :=
  match Xml.read t with
  | .ok root => ofRoot root
  | .error error => .error (.xml error)

def entries (x : Export) : List Entry := x.members.filterMap Entry.ofElement?

end Export

end RefSite
