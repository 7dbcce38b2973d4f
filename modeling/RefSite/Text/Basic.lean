namespace RefSite

abbrev Text := List Char

instance : Coe String Text := ⟨String.toList⟩

namespace Text

/-- What stands before the first `sep`, or the whole text. -/
def before (sep : Char) (t : Text) : Text := t.takeWhile (· ≠ sep)

/-- What stands behind the first `sep`, if there is one. -/
def after? (sep : Char) (t : Text) : Option Text :=
  match t.dropWhile (· ≠ sep) with
  | [] => none
  | _ :: rest => some rest

theorem after?_eq_none_iff {sep : Char} {t : Text} : after? sep t = none ↔ sep ∉ t := by
  induction t with
  | nil => simp [after?]
  | cons c t ih =>
    by_cases hc : c = sep
    · simp [after?, hc]
    · simp only [after?, List.dropWhile_cons, ne_eq, hc, not_false_eq_true, decide_true, if_true,
        List.mem_cons, Ne.symm hc, false_or]
      exact ih

theorem before_append_after {sep : Char} {t rest : Text} (h : after? sep t = some rest) :
    before sep t ++ sep :: rest = t := by
  induction t with
  | nil => cases h
  | cons c t ih =>
    by_cases hc : c = sep
    · simp_all [after?, before]
    · have ht : after? sep t = some rest := by simpa [after?, hc] using h
      simpa [before, hc] using ih ht

/-- What stands before the last `sep`, if there is one. -/
def beforeLast? (sep : Char) (t : Text) : Option Text :=
  (after? sep t.reverse).map List.reverse

/-- What stands behind the last `sep`, or the whole text. -/
def afterLast (sep : Char) (t : Text) : Text := (before sep t.reverse).reverse

/-- Cuts at the first occurrence of `mark`, which goes with neither part. -/
def cut? (mark : Text) : Text → Option (Text × Text)
  | [] => if mark = [] then some ([], []) else none
  | c :: t =>
    if mark.isPrefixOf (c :: t) then some ([], (c :: t).drop mark.length)
    else (cut? mark t).map fun (head, rest) => (c :: head, rest)

theorem cut?_length {mark t head rest : Text} (nonempty : 0 < mark.length)
    (h : cut? mark t = some (head, rest)) : rest.length < t.length := by
  induction t generalizing head with
  | nil => simp_all [cut?]
  | cons c t ih =>
    rw [cut?] at h
    split at h
    · obtain ⟨-, rfl⟩ := by simpa using h
      simp only [List.length_drop, List.length_cons]
      omega
    · obtain ⟨⟨head', rest'⟩, ht, he⟩ := Option.map_eq_some_iff.mp h
      obtain ⟨-, rfl⟩ := by simpa using he
      exact Nat.lt_succ_of_lt (ih ht)

def replace (old : Char) (new : Text) (t : Text) : Text :=
  t.flatMap fun c => if c = old then new else [c]

def contains (part : Text) : Text → Bool
  | [] => part.isEmpty
  | c :: t => part.isPrefixOf (c :: t) || contains part t

theorem contains_iff {part t : Text} : contains part t = true ↔ part <:+: t := by
  induction t with
  | nil => rw [contains, List.isEmpty_iff, List.infix_nil]
  | cons c t ih =>
    rw [contains, Bool.or_eq_true, List.isPrefixOf_iff_prefix, ih, List.infix_cons_iff]

def byteSize (t : Text) : Nat := t.foldr (·.utf8Size + ·) 0

/-- The text from a byte offset on, if a character begins there or the text ends there. -/
def dropBytes? : Nat → Text → Option Text
  | 0, t => some t
  | _ + 1, [] => none
  | n + 1, c :: t => if c.utf8Size ≤ n + 1 then dropBytes? (n + 1 - c.utf8Size) t else none

def utf8 (t : Text) : List UInt8 := t.flatMap String.utf8EncodeChar

def le (a b : Text) : Bool := decide (utf8 a ≤ utf8 b)

end Text

end RefSite
