import RefSite.Text.Basic

namespace RefSite.CommandLine

/-- A word with marks on the characters that have been matched. -/
abbrev Marked := List (Char × Bool)

/-- Marks the first free `c` among the places from `least` to `most`, where the word begins at
place `i`. -/
def mark? (c : Char) (least most : Nat) : Nat → Marked → Option Marked
  | _, [] => none
  | i, (d, matched) :: word =>
    if least ≤ i ∧ i ≤ most ∧ d = c ∧ matched = false then some ((d, true) :: word)
    else (mark? c least most (i + 1) word).map ((d, matched) :: ·)

/-- The characters of a word that have a partner within `reach`, and the other word with its marks.
The word goes on at place `i`. -/
def matchWord (reach : Nat) : Nat → Text → Marked → Text × Marked
  | _, [], other => ([], other)
  | i, c :: word, other =>
    match mark? c (i - reach) (i + reach) 0 other with
    | some other =>
      let (found, other) := matchWord reach (i + 1) word other
      (c :: found, other)
    | none => matchWord reach (i + 1) word other

/-- The Jaro similarity. -/
def similarity (a b : Text) : Float :=
  let reach := max a.length b.length / 2 - 1
  let (inA, marked) := matchWord reach 0 a (b.map (·, false))
  let inB := (marked.filter (·.2)).map (·.1)
  let swaps := ((inA.zip inB).filter fun (c, d) => c ≠ d).length / 2
  let m := inA.length.toFloat
  if inA = [] then 0
  else (m / a.length.toFloat + m / b.length.toFloat + (inA.length - swaps).toFloat / m) / 3

/-- The best of some words for one that may be mistyped, if any comes near; of equal ones the last. -/
def nearest? (word : Text) (words : List Text) : Option Text :=
  (words.foldl better none).map (·.2)
where
  better (best : Option (Float × Text)) (candidate : Text) : Option (Float × Text) :=
    let score := similarity word candidate
    match best with
    | some (top, _) => if score ≥ top then some (score, candidate) else best
    | none => if score > 0.7 then some (score, candidate) else none

end RefSite.CommandLine
