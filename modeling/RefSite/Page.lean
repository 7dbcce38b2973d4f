import RefSite.Family
import RefSite.Package
import RefSite.Route

namespace RefSite

/-- A page with the folder it is kept in; the page of the package has none of its own. -/
structure Page where
  id : Text
  title : Text
  body : Text
  deriving DecidableEq, Repr

structure Style where
  codeLanguage : Text := "C#"
  wording : Wording := Phrase.spanish

namespace Page

def sectionText (title content placeholder : Text) : Text :=
  let content := Text.trimEnd content
  "## " ++ title ++ "\n\n" ++ (if content = [] then placeholder else content) ++ "\n\n"

def fragments (w : Wording) (entries : List Entry) : Text :=
  Text.unlines (entries.flatMap (Entry.fragment w))

def kindSection (style : Style) (f : Family) (k : Kind) (title placeholder : Phrase) : Text :=
  sectionText (style.wording title) (fragments style.wording (f.ofKind k))
    (style.wording placeholder)

def signatureBlock (style : Style) (name : Text) : Text :=
  "# " ++ Markdown.escapeHtml name ++
    "\n\n<CodeBlock slots = 'heading, code' repeat = '1' languages = '" ++ style.codeLanguage ++
    "' />\n\n#### " ++ style.wording .signature ++ "\n```\n" ++ name ++ "\n```\n\n"

def ofType (style : Style) (f : Family) (type : Entry) : Page where
  id := type.id.pageId
  title := type.name
  body :=
    Markdown.frontMatter (Markdown.escapeHtml type.name)
        (Markdown.escapeHtml (NameForm.display type.owningType)) ++
      signatureBlock style type.name ++
      sectionText (style.wording .description) (Text.unlines type.summary) [] ++
      kindSection style f .constructor .constructors .noConstructors ++
      kindSection style f .method .functions .noFunctions ++
      kindSection style f .property .properties .noProperties ++
      kindSection style f .constant .constants .noConstants

/-- A family without a type to show has no page. -/
def ofFamily? (style : Style) (f : Family) : Option Page := f.page?.map (ofType style f)

def ofNamespace (style : Style) (marker : Entry) : Page :=
  let id := Route.namespaceId marker.owningType
  let title := Text.afterLast '.' id
  { id
    title
    body :=
      Markdown.frontMatter (Markdown.escapeHtml title) (Markdown.escapeHtml id) ++
        "# " ++ style.wording .namespaceDescription ++ "\n\n" ++
        Text.unlines marker.summary ++ "\n" }

def nugetLogo : Text := "https://logos.trifenix.io/nuget.24x24.png"

def githubLogo : Text := "https://logos.trifenix.io/github.24x24.png"

/-- A row for a place where the package can be had, if the package names one. -/
def sourceRow (alt logo label : Text) (url : Option Text) : Option Text :=
  url.map fun url =>
    "|![" ++ alt ++ "](" ++ logo ++ ") | " ++ Markdown.link label url ++ "|\n"

def sourceTable (w : Wording) (p : Package) : Text :=
  let rows :=
    [sourceRow "nuget" nugetLogo (w .nugetPackage) p.nugetUrl,
     sourceRow "nuget" nugetLogo (w .devopsPackage) p.devopsUrl,
     sourceRow "github" githubLogo (w .sourceCode) p.repositoryUrl].reduceOption
  if rows = [] then []
  else Markdown.tableRow (w .sourceKind) (w .source) ++ "\n|---|---|\n" ++ rows.flatten

/-- A badge without an address is left out. -/
def badge (p : Package) : Text :=
  match p.releaseBadgeUrl with
  | some url => if Text.trim url = [] then [] else "\n![release badge](" ++ url ++ ")\n"
  | none => []

def ofPackage (style : Style) (p : Package) : Page :=
  let title := Markdown.escapeHtml p.title
  let icon : Text :=
    match p.iconUrl with
    | some icon => "![icon_package](" ++ icon ++ ")"
    | none => []
  { id := []
    title := p.title
    body :=
      Markdown.frontMatter ("package " ++ title) p.description ++
        "# " ++ icon ++ title ++ "\n\n" ++ Text.trim p.description ++
        "\n\n## " ++ style.wording .description ++ "\n\n### " ++ title ++ "\n\n" ++
        Markdown.trimEachLine p.summary ++ "\n\n" ++ sourceTable style.wording p ++ badge p }

end Page

end RefSite
