import RefSite.Text.Split
import RefSite.Toml.DateTime
import RefSite.Toml.Value

namespace RefSite.Toml.Scalar

/-- A run of digits; single underscores may part it into groups. -/
def digits? (base : Nat) (t : Text) : Option Text :=
  let groups := Text.split '_' t
  if groups.all fun g => g ≠ [] && g.all fun c => (Text.digit? base c).isSome then
    some groups.flatten
  else none

/-- Digits that begin with zero only as the number zero. -/
def wholeDigits? (t : Text) : Option Text :=
  match t with
  | '0' :: _ :: _ => none
  | _ => digits? 10 t

def sign : Text → Bool × Text
  | '+' :: t => (false, t)
  | '-' :: t => (true, t)
  | t => (false, t)

def signed (negative : Bool) (n : Nat) : Int := if negative then -n else n

def natural? (base : Nat) (t : Text) : Option Nat := digits? base t >>= Text.numeral? base

def integer? : Text → Option Int
  | '0' :: 'x' :: t => (natural? 16 t).map Int.ofNat
  | '0' :: 'o' :: t => (natural? 8 t).map Int.ofNat
  | '0' :: 'b' :: t => (natural? 2 t).map Int.ofNat
  | t => do
    let (negative, t) := sign t
    let n ← wholeDigits? t >>= Text.numeral? 10
    some (signed negative n)

def exponent? : Text → Option Int
  | [] => some 0
  | c :: t =>
    if c = 'e' ∨ c = 'E' then do
      let (negative, t) := sign t
      let n ← natural? 10 t
      some (signed negative n)
    else none

def fraction? : Text → Option Text
  | [] => some []
  | '.' :: t => digits? 10 t
  | _ => none

def isExponentMark (c : Char) : Bool := c = 'e' || c = 'E'

/-- A number with a fraction or an exponent, or one of the special ones. -/
def decimal? (t : Text) : Option Decimal :=
  let (negative, t) := sign t
  if t = "inf" then some (.infinite negative)
  else if t = "nan" then some .notNumber
  else do
    let mantissa := t.takeWhile (!isExponentMark ·)
    let whole ← wholeDigits? (Text.before '.' mantissa)
    let fraction ← fraction? (mantissa.dropWhile (· ≠ '.'))
    let exponent ← exponent? (t.dropWhile (!isExponentMark ·))
    let n ← Text.numeral? 10 (whole ++ fraction)
    some (.finite (signed negative n) (exponent - fraction.length))

def boolean? (t : Text) : Option Bool :=
  if t = "true" then some true else if t = "false" then some false else none

def value? (t : Text) : Option Value :=
  (boolean? t).map .boolean <|> (integer? t).map .integer <|> (decimal? t).map .decimal <|>
    if DateTime.isDateTime t then some (.dateTime t) else none

end RefSite.Toml.Scalar
