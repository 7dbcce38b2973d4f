import RefSite.Menu
import RefSite.Text.Split

namespace RefSite.Manifest

def escape (c : Char) : Text :=
  if c = '\x22' then "\\\x22"
  else if c = '\\' then "\\\\"
  else if c = '\n' then "\\n"
  else if c = '\r' then "\\r"
  else if c = '\t' then "\\t"
  else if c = '\x08' then "\\b"
  else if c = '\x0c' then "\\f"
  else if c.toNat < 16 then "\\u000" ++ Nat.toDigits 16 c.toNat
  else if c.toNat < 32 then "\\u00" ++ Nat.toDigits 16 c.toNat
  else [c]

def string (t : Text) : Text := "\x22" ++ t.flatMap escape ++ "\x22"

def field (indent : Nat) (key value : Text) : Text :=
  List.replicate indent ' ' ++ string key ++ ": " ++ value

def link (l : Link) : Text :=
  "    \x7b\n" ++ field 6 "title" (string l.title) ++ ",\n" ++
    field 6 "path" (string l.path) ++ "\n    \x7d"

def links : List Link → Text
  | [] => "[]"
  | ls => "[\n" ++ Text.join ",\n" (ls.map link) ++ "\n  ]"

def render (m : Menu) : Text :=
  "\x7b\n" ++ field 2 "title" (string m.title) ++ ",\n" ++
    field 2 "path" (string m.path) ++ ",\n" ++ field 2 "pages" (links m.pages) ++ "\n\x7d"

end RefSite.Manifest
