import RefSite.Text.Split

namespace RefSite.Path

inductive Component
  | root
  | current
  | parent
  | name (n : Text)
  deriving DecidableEq, Repr

def isAbsolute (p : Text) : Bool := p.head? = some '/'

/-- The components of a path; empty pieces and dots do not count, but a dot does where a relative
path begins with it. -/
def components (p : Text) : List Component :=
  let pieces := Text.split '/' p
  let start : List Component :=
    if isAbsolute p then [.root] else if pieces.head? = some ['.'] then [.current] else []
  start ++ (pieces.filter fun n => n ≠ [] && n ≠ ['.']).map fun n =>
    if n = ['.', '.'] then .parent else .name n

/-- An absolute second path stands for itself. -/
def join (p q : Text) : Text :=
  if isAbsolute q then q
  else if p = [] ∨ p.getLast? = some '/' then p ++ q
  else p ++ "/" ++ q

/-- Drops slashes and lone dots from the end of a path, here the start of the reversed one. The
first component stays. -/
def dropPadding : Text → Text
  | [] => []
  | c :: r =>
    if c = '/' ∧ r ≠ [] then dropPadding r
    else if c = '.' ∧ r.head? = some '/' then dropPadding r
    else c :: r

theorem dropPadding_length (r : Text) : (dropPadding r).length ≤ r.length := by
  induction r with
  | nil => exact Nat.le_refl _
  | cons c r ih =>
    unfold dropPadding
    split
    · exact Nat.le_succ_of_le ih
    · split
      · exact Nat.le_succ_of_le ih
      · exact Nat.le_refl _

/-- The path without its last component, if it has one besides the root. -/
def parent? (p : Text) : Option Text :=
  match dropPadding p.reverse with
  | [] => none
  | c :: r =>
    if c = '/' then none else some (dropPadding ((c :: r).dropWhile (· ≠ '/'))).reverse

theorem parent?_length {p q : Text} (h : parent? p = some q) : q.length < p.length := by
  unfold parent? at h
  split at h
  · cases h
  · rename_i c r hr
    split at h
    · cases h
    · rename_i hc
      cases h
      have h₁ := dropPadding_length p.reverse
      have h₂ := dropPadding_length ((c :: r).dropWhile (· ≠ '/'))
      have h₃ : ((c :: r).dropWhile (· ≠ '/')).length ≤ r.length := by
        rw [List.dropWhile_cons_of_pos (by simpa using hc)]
        exact (List.dropWhile_suffix _).length_le
      rw [hr] at h₁
      simp only [List.length_cons, List.length_reverse] at *
      omega

/-- A path and all paths that dropping its last component leads to. -/
def ancestors (p : Text) : List Text :=
  match h : parent? p with
  | none => [p]
  | some q =>
    have := parent?_length h
    p :: ancestors q
termination_by p.length

/-- The last component, if it is a name, with the path before it. -/
def fileName? (p : Text) : Option (Text × Text) :=
  let r := dropPadding p.reverse
  let name := (r.takeWhile (· ≠ '/')).reverse
  if name = [] ∨ name = ['.'] ∨ name = ['.', '.'] then none
  else some ((r.dropWhile (· ≠ '/')).reverse, name)

/-- A name without what stands behind its last dot; a dot at the start does not count. -/
def stem (name : Text) : Text :=
  match Text.beforeLast? '.' name with
  | none | some [] => name
  | some s => s

/-- The extension is taken off the end before the new one is put on. Of a name such as `..x` that
leaves two dots, which name no file and get no extension; a path without a file name keeps its
text. -/
def withExtension (p extension : Text) : Text :=
  match fileName? p with
  | some (folder, name) =>
    if stem name = ['.'] ∧ p = folder ++ name then folder ++ ".."
    else folder ++ stem name ++ "." ++ extension
  | none => p

end RefSite.Path
