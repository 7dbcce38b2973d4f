import RefSite.Route

namespace RefSite

structure Link where
  title : Text
  path : Text
  deriving DecidableEq, Repr

structure Menu where
  title : Text
  path : Text
  pages : List Link
  deriving DecidableEq, Repr

structure Navigation where
  base : Text
  links : List Link := []
  deriving DecidableEq, Repr

/-- By path and then by title, both in the order of their bytes. -/
def Link.le (a b : Link) : Bool :=
  if a.path = b.path then Text.le a.title b.title else Text.le a.path b.path

/-- Keeps the first of neighbours with one path. The first argument is the path before. -/
def Link.distinctAfter (path : Text) : List Link → List Link
  | [] => []
  | l :: ls => if l.path = path then distinctAfter path ls else l :: distinctAfter l.path ls

def Link.distinct : List Link → List Link
  | [] => []
  | l :: ls => l :: distinctAfter l.path ls

namespace Navigation

def forPackage (destination packageId : Text) : Navigation :=
  { base := Route.base destination packageId }

def add (n : Navigation) (l : Link) : Navigation := { n with links := n.links ++ [l] }

def addRoot (n : Navigation) (title : Text) : Navigation := n.add { title, path := n.base }

def addPage (n : Navigation) (id : Text) : Navigation :=
  n.add { title := Route.title id, path := Route.page n.base id }

def merge (n other : Navigation) : Navigation := { n with links := n.links ++ other.links }

def toMenu (n : Navigation) (title : Text) : Menu :=
  { title, path := n.base, pages := Link.distinct (n.links.mergeSort Link.le) }

end Navigation

end RefSite
