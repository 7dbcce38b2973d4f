import RefSite.Text.Basic
import RefSite.Text.Visible

namespace RefSite.Text

/-- A code point in braces, in hexadecimal. -/
def codeEscape (c : Char) : Text :=
  "\\u\x7b" ++ Nat.toDigits 16 c.toNat ++ "\x7d"

def quotedChar (c : Char) : Text :=
  if c = '\x00' then "\\0"
  else if c = '\t' then "\\t"
  else if c = '\r' then "\\r"
  else if c = '\n' then "\\n"
  else if c = '\\' || c = '\x22' then ['\\', c]
  else if isVisible c then [c]
  else codeEscape c

def quoted (t : Text) : Text := "\x22" ++ t.flatMap quotedChar ++ "\x22"

end RefSite.Text
