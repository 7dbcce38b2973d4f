import RefSite.Text.Blank

namespace RefSite.Markdown

def escapeHtml (t : Text) : Text :=
  t.flatMap fun c =>
    if c = '&' then "&amp;" else if c = '<' then "&lt;" else if c = '>' then "&gt;" else [c]

/-- A backtick of plain text must not open a code span. -/
def escapeTicks (t : Text) : Text := Text.replace '\x60' "\\`" t

/-- Code with backticks of its own stands between two backticks and a space on each side. -/
def codeSpan (code : Text) : Text :=
  let code := Text.trim code
  if code = [] then []
  else if '\x60' ∈ code then "`` " ++ code ++ " ``"
  else "`" ++ code ++ "`"

def link (label target : Text) : Text := "[" ++ label ++ "](" ++ target ++ ")"

def emphasize (mark content : Text) : Text :=
  let content := Text.trim content
  if content = [] then [] else mark ++ content ++ mark

def indentation (line : Text) : Nat := Text.byteSize (line.takeWhile Text.isBlank)

/-- Removes the indentation that all lines with text share, with blank lines at both ends and white
space behind each line. Indentation is counted in bytes. -/
def dedent (code : Text) : Text :=
  let ls := Text.dropOuterEmpty ((Text.lines code).map Text.trimEnd)
  let indent := ((ls.filter (· ≠ [])).map indentation).min?.getD 0
  Text.unlines (ls.map fun l => (Text.dropBytes? indent l).getD [])

def codeBlock (code : Text) : Text := "\n```csharp\n" ++ dedent code ++ "\n```\n"

def isFence (trimmed : Text) : Bool := "```".toList.isPrefixOf trimmed

/-- Trims lines; within a code block only their ends. -/
def trimLines (inBlock : Bool) : List Text → List Text
  | [] => []
  | l :: ls =>
    let trimmed := Text.trim l
    if isFence trimmed then trimmed :: trimLines (!inBlock) ls
    else (if inBlock then Text.trimEnd l else trimmed) :: trimLines inBlock ls

def normalLines (t : Text) : List Text := Text.dropOuterEmpty (trimLines false (Text.lines t))

def trimEachLine (t : Text) : Text := Text.unlines ((Text.lines t).map Text.trim)

/-- A bar in a table cell must not end it. -/
def escapeBars (t : Text) : Text := Text.replace '|' "\\|" t

def tableRow (left right : Text) : Text := "| " ++ left ++ " | " ++ right ++ " |"

def frontMatter (title description : Text) : Text :=
  "---\ntitle : " ++ title ++ "\ndescription: " ++ description ++ "\n---\n\n\n"

end RefSite.Markdown
