import RefSite.NameForm
import RefSite.Text.Lowercase

namespace RefSite.Route

def trimSlashes (t : Text) : Text :=
  ((t.dropWhile (· = '/')).reverse.dropWhile (· = '/')).reverse

/-- The route of a package below a destination folder; slashes around the folder do not count. -/
def base (destination packageId : Text) : Text :=
  match trimSlashes destination with
  | [] => "/" ++ packageId ++ "/"
  | folder => "/" ++ folder ++ "/" ++ packageId ++ "/"

def page (base id : Text) : Text := base ++ id ++ "/"

/-- The id of the namespace that a marker stands for: its type without a last segment `namespace`,
in lower case. -/
def namespaceId (owningType : Text) : Text :=
  Text.lower <|
    match Text.beforeLast? '.' owningType with
    | some outer =>
      if (Text.afterLast '.' owningType).map Char.toLower = "namespace" then outer else owningType
    | none => owningType

/-- The title of a page in the menu, from the last segment of its id. -/
def title (id : Text) : Text := NameForm.displayOfEscaped (Text.afterLast '.' id)

end RefSite.Route
