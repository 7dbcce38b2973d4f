import RefSite.Export
import RefSite.Manifest
import RefSite.Page

namespace RefSite

structure SiteOptions where
  destination : Text := "docs"
  style : Style := {}

structure Site where
  package : Page
  namespaces : List Page
  types : List Page
  menu : Menu
  deriving DecidableEq, Repr

namespace Site

def pages (s : Site) : List Page := s.package :: (s.namespaces ++ s.types)

def namespacePages (style : Style) (entries : List Entry) : List Page :=
  (entries.filter Entry.isNamespaceMarker).map (Page.ofNamespace style)

def typePages (style : Style) (entries : List Entry) : List Page :=
  (Family.gather entries).filterMap (Page.ofFamily? style)

/-- The links of a site, the root before all others. Each type page registers with an accumulator
of its own. -/
def navigation (options : SiteOptions) (p : Package) (namespaces types : List Page) :
    Navigation :=
  let empty := Navigation.forPackage options.destination p.id
  let root := empty.addRoot (options.style.wording .description)
  let withNamespaces := namespaces.foldl (fun n page => n.addPage page.id) root
  types.foldl (fun n page => n.merge (empty.addPage page.id)) withNamespaces

def generate (options : SiteOptions) (p : Package) (x : Export) : Site :=
  let entries := x.entries
  let namespaces := namespacePages options.style entries
  let types := typePages options.style entries
  { package := Page.ofPackage options.style p
    namespaces
    types
    menu := (navigation options p namespaces types).toMenu p.title }

def manifest (s : Site) : Text := Manifest.render s.menu

end Site

end RefSite
