import RefSite.Entry

namespace RefSite

structure Family where
  owningType : Text
  entries : List Entry
  deriving DecidableEq, Repr

namespace Family

/-- The entry that the family's page is about: the first type that marks no namespace. -/
def page? (f : Family) : Option Entry :=
  f.entries.find? fun e => e.kind = .type && !e.isNamespaceMarker

def ofKind (f : Family) (k : Kind) : List Entry := f.entries.filter (·.kind = k)

/-- Adds an entry to the family of its type, which is made if there is none. -/
def add (e : Entry) : List Family → List Family
  | [] => [{ owningType := e.owningType, entries := [e] }]
  | f :: fs =>
    if f.owningType = e.owningType then { f with entries := f.entries ++ [e] } :: fs
    else f :: add e fs

/-- Families in the order of their first entries, each with its entries in order. -/
def gather (entries : List Entry) : List Family := entries.foldl (fun fs e => add e fs) []

end Family

end RefSite
