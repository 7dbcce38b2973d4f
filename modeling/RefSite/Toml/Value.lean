import RefSite.Text.Basic

namespace RefSite.Toml

/-- A decimal number; a finite one is a coefficient with a power of ten. -/
inductive Decimal
  | finite (coefficient : Int) (exponent : Int)
  | infinite (negative : Bool)
  | notNumber
  deriving DecidableEq, Repr

/-- How a table came about, which decides what may be added to it later on. -/
inductive Form
  /-- Written in braces. -/
  | inline
  /-- Opened by a header of its own; the document itself counts as such a table. -/
  | header
  /-- Passed on the way by the header of another table. -/
  | implied
  /-- Made or passed on the way by a dotted key. -/
  | dotted
  deriving DecidableEq, Repr

inductive Value
  | text (t : Text)
  | integer (n : Int)
  | decimal (d : Decimal)
  | boolean (b : Bool)
  | dateTime (written : Text)
  | list (items : List Value)
  /-- An array whose tables stand under headers in double brackets. -/
  | tables (items : List Value)
  | table (form : Form) (fields : List (Text × Value))
  deriving Repr, Inhabited

abbrev Fields := List (Text × Value)

namespace Decimal

/-- Half a unit above the largest number of 64-bit floating point. -/
def bound : Nat := (1 <<< 54 - 1) <<< 970

/-- Whether a finite number stays finite when it is rounded to 64-bit floating point. -/
def fits : Decimal → Bool
  | .finite coefficient (.ofNat e) =>
    coefficient = 0 || (e ≤ 308 && coefficient.natAbs * Nat.pow 10 e < bound)
  | .finite coefficient (.negSucc e) =>
    (Nat.toDigits 10 coefficient.natAbs).length ≤ e ||
      coefficient.natAbs < bound * Nat.pow 10 (e + 1)
  | _ => true

end Decimal

namespace Value

mutual

/-- Whether all numbers in a value are in the range that can be read: integers of 128 bits, with a
sign or without, and decimals that fit 64-bit floating point. -/
def isReadable : Value → Bool
  | .integer n => -2 ^ 127 ≤ n && n < 2 ^ 128
  | .decimal d => d.fits
  | .list items => allReadable items
  | .tables items => allReadable items
  | .table _ fields => fieldsReadable fields
  | _ => true

def allReadable : List Value → Bool
  | [] => true
  | v :: vs => v.isReadable && allReadable vs

def fieldsReadable : List (Text × Value) → Bool
  | [] => true
  | (_, v) :: fields => v.isReadable && fieldsReadable fields

end

end Value

end RefSite.Toml
