import RefSite.Text.Numeral

namespace RefSite.Toml.DateTime

/-- Takes a number of a fixed width off the front of a text, if it is in a range. -/
def number? (width least most : Nat) (t : Text) : Option (Nat × Text) := do
  let n ← if width ≤ t.length then Text.numeral? 10 (t.take width) else none
  if least ≤ n ∧ n ≤ most then some (n, t.drop width) else none

def mark? (mark : Char) : Text → Option Text
  | [] => none
  | c :: t => if c = mark then some t else none

def isLeapYear (year : Nat) : Bool :=
  year % 4 = 0 && (year % 100 ≠ 0 || year % 400 = 0)

def daysInMonth (year month : Nat) : Nat :=
  if month = 2 then (if isLeapYear year then 29 else 28)
  else if month ∈ [4, 6, 9, 11] then 30
  else 31

/-- Each reader gives what stands behind what it has read. -/
def date? (t : Text) : Option Text := do
  let (year, t) ← number? 4 0 9999 t
  let t ← mark? '-' t
  let (month, t) ← number? 2 1 12 t
  let t ← mark? '-' t
  let (_, t) ← number? 2 1 (daysInMonth year month) t
  some t

def fraction? : Text → Option Text
  | '.' :: t =>
    if (t.takeWhile Char.isDigit).isEmpty then none else some (t.dropWhile Char.isDigit)
  | t => some t

/-- Seconds may be missing, and a leap second is the sixtieth. -/
def seconds? : Text → Option Text
  | ':' :: t => do
    let (_, t) ← number? 2 0 60 t
    fraction? t
  | t => some t

def time? (t : Text) : Option Text := do
  let (_, t) ← number? 2 0 23 t
  let t ← mark? ':' t
  let (_, t) ← number? 2 0 59 t
  seconds? t

def isOffset (t : Text) : Bool :=
  match t with
  | [] => true
  | c :: t =>
    if c = 'Z' ∨ c = 'z' then t.isEmpty
    else if c = '+' ∨ c = '-' then
      (do let (_, t) ← number? 2 0 23 t
          let t ← mark? ':' t
          let (_, t) ← number? 2 0 59 t
          some t) = some []
    else false

def isDateTime (t : Text) : Bool :=
  match date? t with
  | some [] => true
  | some (c :: rest) =>
    (c = 'T' || c = 't' || c = ' ') && ((time? rest).map isOffset).getD false
  | none => time? t = some []

end RefSite.Toml.DateTime
