import RefSite.Text.Basic

namespace RefSite.Text

/-- The pieces between occurrences of `sep`; there is always at least one. -/
def split (sep : Char) : Text → List Text
  | [] => [[]]
  | c :: t =>
    if c = sep then [] :: split sep t
    else match split sep t with
      | [] => [[c]]
      | piece :: pieces => (c :: piece) :: pieces

def join (sep : Text) (pieces : List Text) : Text := List.intercalate sep pieces

theorem split_ne_nil (sep : Char) (t : Text) : split sep t ≠ [] := by
  cases t with
  | nil => simp [split]
  | cons c t =>
    rw [split]
    split
    · simp
    · split <;> simp

theorem join_cons (sep piece : Text) {pieces : List Text} (h : pieces ≠ []) :
    join sep (piece :: pieces) = piece ++ sep ++ join sep pieces := by
  cases pieces with
  | nil => exact absurd rfl h
  | cons p ps => simp [join, List.intercalate]

theorem join_split (sep : Char) (t : Text) : join [sep] (split sep t) = t := by
  induction t with
  | nil => rfl
  | cons c t ih =>
    rw [split]
    split
    · subst sep
      rw [join_cons _ _ (split_ne_nil c t), ih]
      rfl
    · rename_i hc
      split
      · rename_i hs
        exact absurd hs (split_ne_nil sep t)
      · rename_i piece pieces hs
        rw [hs] at ih
        rw [← ih]
        cases pieces with
        | nil => simp [join, List.intercalate]
        | cons p ps => simp [join_cons]

theorem notMem_of_mem_split {sep : Char} {t piece : Text} (h : piece ∈ split sep t) :
    sep ∉ piece := by
  induction t generalizing piece with
  | nil => simp_all [split]
  | cons c t ih =>
    rw [split] at h
    split at h
    · rcases List.mem_cons.mp h with rfl | h
      · simp
      · exact ih h
    · rename_i hc
      split at h
      · rename_i hs
        exact absurd hs (split_ne_nil sep t)
      · rename_i first pieces hs
        rcases List.mem_cons.mp h with rfl | h
        · simp [Ne.symm hc, ih (hs ▸ List.mem_cons_self)]
        · exact ih (hs ▸ List.mem_cons_of_mem _ h)

theorem split_of_notMem {sep : Char} {t : Text} (h : sep ∉ t) : split sep t = [t] := by
  induction t with
  | nil => rfl
  | cons c t ih =>
    obtain ⟨hc, ht⟩ : sep ≠ c ∧ sep ∉ t := by simpa using h
    simp [split, Ne.symm hc, ih ht]

theorem split_append (sep : Char) {piece : Text} (h : sep ∉ piece) (t : Text) :
    split sep (piece ++ sep :: t) = piece :: split sep t := by
  induction piece with
  | nil => simp [split]
  | cons c piece ih =>
    obtain ⟨hc, hp⟩ : sep ≠ c ∧ sep ∉ piece := by simpa using h
    simp [split, Ne.symm hc, ih hp]

/-- A separator inside of a piece would cut it in two. -/
theorem split_join {sep : Char} {pieces : List Text} (nonempty : pieces ≠ [])
    (h : ∀ p ∈ pieces, sep ∉ p) : split sep (join [sep] pieces) = pieces := by
  induction pieces with
  | nil => exact absurd rfl nonempty
  | cons p ps ih =>
    cases ps with
    | nil => simpa [join, List.intercalate] using split_of_notMem (h p (by simp))
    | cons q qs =>
      rw [join_cons _ _ (by simp), List.append_assoc, List.singleton_append,
        split_append sep (h p (by simp)), ih (by simp) fun x hx => h x (by simp [hx])]

end RefSite.Text
