import RefSite.Identifier
import RefSite.Markdown
import RefSite.NameForm

namespace RefSite

/-- The folder of a type's page, and the last part of its route. -/
def Identifier.pageId (id : Identifier) : Text := NameForm.escaped id.owningType

/-- Pages stand side by side, each in a folder of its own. -/
def Identifier.target (id : Identifier) : Text := "../" ++ id.pageId ++ "/"

/-- A link to a member by its name; what is no identifier becomes a code span. -/
def memberLink (cref : Text) : Text :=
  match Identifier.parse? cref with
  | some id => Markdown.link (Markdown.escapeHtml (NameForm.display id.label)) id.target
  | none => Markdown.codeSpan ((Text.after? ':' cref).getD cref)

end RefSite
