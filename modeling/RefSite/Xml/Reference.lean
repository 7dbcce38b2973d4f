import RefSite.Text.Numeral

namespace RefSite.Xml

def namedCharacter? (name : Text) : Option Char :=
  if name = "lt" then some '<'
  else if name = "gt" then some '>'
  else if name = "amp" then some '&'
  else if name = "apos" then some '\x27'
  else if name = "quot" then some '\x22'
  else none

/-- A numeral in running text may carry a plus sign. -/
def dropPlus : Text → Text
  | '+' :: digits => digits
  | digits => digits

def numberedCharacter? : Text → Option Char
  | '#' :: 'x' :: digits => Text.numeral? 16 (dropPlus digits) >>= Text.character?
  | '#' :: 'X' :: digits => Text.numeral? 16 (dropPlus digits) >>= Text.character?
  | '#' :: digits => Text.numeral? 10 (dropPlus digits) >>= Text.character?
  | _ => none

/-- What `&name;` stands for in running text; an unknown reference stands for itself. -/
def decodeReference (name : Text) : Text :=
  match namedCharacter? name <|> numberedCharacter? name with
  | some c => [c]
  | none => "&" ++ name ++ ";"

/-- What a reference stands for in an attribute value: no sign, no zero, a small `x` only. -/
def valueCharacter? (name : Text) : Option Char :=
  match name with
  | '#' :: 'x' :: digits => code 16 digits
  | '#' :: digits => code 10 digits
  | _ => namedCharacter? name
where
  code (base : Nat) (digits : Text) : Option Char := do
    let n ← Text.numeral? base digits
    if n = 0 then none else Text.character? n

/-- Decodes the references of an attribute value, if each of them is valid. -/
def decodeValue? (value : Text) : Option Text := go none value
where
  /-- The first argument is the name read so far of an open reference, backwards. -/
  go : Option Text → Text → Option Text
    | none, [] => some []
    | some _, [] => none
    | none, c :: t => if c = '&' then go (some []) t else (go none t).map (c :: ·)
    | some name, c :: t =>
      if c = ';' then do
        let decoded ← valueCharacter? name.reverse
        (go none t).map (decoded :: ·)
      else if c = '&' then none
      else go (some (c :: name)) t

/-- An attribute value with a reference that is not valid stays as it is written. -/
def decodeValue (value : Text) : Text := (decodeValue? value).getD value

end RefSite.Xml
