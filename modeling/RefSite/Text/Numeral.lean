import RefSite.Text.Basic

namespace RefSite.Text

/-- The value of a digit; letters of either case count on from ten. -/
def digit? (base : Nat) (c : Char) : Option Nat :=
  let value? :=
    if '0' ≤ c ∧ c ≤ '9' then some (c.toNat - '0'.toNat)
    else if 'a' ≤ c ∧ c ≤ 'z' then some (c.toNat - 'a'.toNat + 10)
    else if 'A' ≤ c ∧ c ≤ 'Z' then some (c.toNat - 'A'.toNat + 10)
    else none
  value?.filter (· < base)

/-- The number that a non-empty run of digits denotes. -/
def numeral? (base : Nat) : Text → Option Nat
  | [] => none
  | digits => digits.foldlM (fun n c => (digit? base c).map (base * n + ·)) 0

/-- The character with a code point; surrogates and numbers out of range have none. -/
def character? (n : Nat) : Option Char := if n.isValidChar then some (Char.ofNat n) else none

end RefSite.Text
