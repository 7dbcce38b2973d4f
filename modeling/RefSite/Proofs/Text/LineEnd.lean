import Mathlib.Data.List.Forall2
import RefSite.Proofs.Text.Blank
import RefSite.Proofs.Text.Split

namespace RefSite.Text

variable {p : Char → Bool} {sep : Char} {s t s' t' u : Text} {ps qs : List Text}

/-- The second text is the first with a carriage return more before some of its line feeds. -/
inductive Returned : Text → Text → Prop
  | nil : Returned [] []
  | char (c : Char) {s t : Text} : Returned s t → Returned (c :: s) (c :: t)
  | lineEnd {s t : Text} : Returned s t → Returned ('\n' :: s) ('\r' :: '\n' :: t)

/-- The text with a carriage return more before each line feed. -/
def withReturns (t : Text) : Text := replace '\n' "\r\n" t

theorem not_lineEnd (hsep : isBlank sep = false) : sep ≠ '\n' ∧ sep ≠ '\r' := by
  constructor <;> rintro rfl <;> exact absurd hsep (by decide)

namespace Returned

theorem refl (t : Text) : Returned t t := by
  induction t with
  | nil => exact .nil
  | cons c t ih => exact .char c ih

theorem append (h : Returned s t) (h' : Returned s' t') : Returned (s ++ s') (t ++ t') := by
  induction h with
  | nil => exact h'
  | char c _ ih => exact .char c ih
  | lineEnd _ ih => exact .lineEnd ih

theorem withReturns (t : Text) : Returned t (Text.withReturns t) := by
  induction t with
  | nil => exact .nil
  | cons c t ih =>
    rw [Text.withReturns, replace, List.flatMap_cons]
    split_ifs with hc
    · subst hc
      exact .lineEnd ih
    · exact .char c ih

theorem mem_iff {c : Char} (hc : c ≠ '\r') (h : Returned s t) : c ∈ s ↔ c ∈ t := by
  induction h with
  | nil => exact Iff.rfl
  | char d _ ih => simp [ih]
  | lineEnd _ ih => simp [ih, hc]

theorem eq_of_not_mem (h : Returned s t) (hs : '\n' ∉ s) : s = t := by
  induction h with
  | nil => rfl
  | char c _ ih => rw [ih (List.not_mem_of_not_mem_cons hs)]
  | lineEnd _ _ => exact absurd List.mem_cons_self hs

/-- A text without line feeds is told from others as before. -/
theorem eq_iff (h : Returned s t) (hu : '\n' ∉ u) : s = u ↔ t = u := by
  have hne : '\n' ≠ '\r' := by decide
  constructor
  · rintro rfl
    exact (h.eq_of_not_mem hu).symm
  · rintro rfl
    exact h.eq_of_not_mem (mt (h.mem_iff hne).mp hu)

theorem eq_nil_iff (h : Returned s t) : s = [] ↔ t = [] := h.eq_iff List.not_mem_nil

theorem takeWhile (hfeed : p '\n' = true) (hreturn : p '\r' = true) (h : Returned s t) :
    Returned (s.takeWhile p) (t.takeWhile p) := by
  induction h with
  | nil => exact .nil
  | char c _ ih =>
    simp only [List.takeWhile_cons]
    split
    · exact .char c ih
    · exact .nil
  | lineEnd _ ih =>
    simpa [List.takeWhile_cons, hfeed, hreturn] using ih.lineEnd

theorem dropWhile (hfeed : p '\n' = true) (hreturn : p '\r' = true) (h : Returned s t) :
    Returned (s.dropWhile p) (t.dropWhile p) := by
  induction h with
  | nil => exact .nil
  | char c h ih =>
    simp only [List.dropWhile_cons]
    split
    · exact ih
    · exact .char c h
  | lineEnd _ ih => simpa [List.dropWhile_cons, hfeed, hreturn] using ih

theorem trimStart (h : Returned s t) : Returned (trimStart s) (trimStart t) :=
  h.dropWhile (by decide) (by decide)

theorem blank_iff (h : Returned s t) : Blank s ↔ Blank t := by
  rw [← trimStart_eq_nil_iff, h.trimStart.eq_nil_iff, trimStart_eq_nil_iff]

theorem trimEnd_append (h : Returned s t) (h' : Returned s' t')
    (hs : Returned (trimEnd s) (trimEnd t)) (hs' : Returned (trimEnd s') (trimEnd t')) :
    Returned (trimEnd (s ++ s')) (trimEnd (t ++ t')) := by
  by_cases hblank : Blank s'
  · rwa [trimEnd_append_of_blank hblank, trimEnd_append_of_blank (h'.blank_iff.mp hblank)]
  · rw [trimEnd_append_of_not_blank hblank,
      trimEnd_append_of_not_blank (mt h'.blank_iff.mpr hblank)]
    exact h.append hs'

theorem trimEnd (h : Returned s t) : Returned (trimEnd s) (trimEnd t) := by
  induction h with
  | nil => exact .nil
  | char c h ih => exact trimEnd_append (.refl [c]) h (.refl _) ih
  | lineEnd h ih => exact trimEnd_append (.lineEnd .nil) h .nil ih

theorem trim (h : Returned s t) : Returned (trim s) (trim t) := h.trimStart.trimEnd

theorem before (hsep : isBlank sep = false) (h : Returned s t) :
    Returned (before sep s) (before sep t) := by
  obtain ⟨hfeed, hreturn⟩ := not_lineEnd hsep
  exact h.takeWhile (by simpa using hfeed.symm) (by simpa using hreturn.symm)

theorem after? (hsep : isBlank sep = false) (h : Returned s t) :
    Option.Rel Returned (after? sep s) (after? sep t) := by
  obtain ⟨hfeed, hreturn⟩ := not_lineEnd hsep
  induction h with
  | nil => exact .none
  | char c h ih =>
    rw [after?_cons, after?_cons]
    split_ifs
    · exact .some h
    · exact ih
  | lineEnd _ ih => simpa [after?_cons, hfeed.symm, hreturn.symm] using ih

theorem split_append (h : Returned s t) (hs : sep ∉ s) (ht : sep ∉ t)
    (h' : List.Forall₂ Returned (split sep s') (split sep t')) :
    List.Forall₂ Returned (split sep (s ++ s')) (split sep (t ++ t')) := by
  obtain ⟨p, ps, hp⟩ := List.exists_cons_of_ne_nil (split_ne_nil sep s')
  obtain ⟨q, qs, hq⟩ := List.exists_cons_of_ne_nil (split_ne_nil sep t')
  rw [hp, hq] at h'
  obtain ⟨hfirst, hrest⟩ := List.forall₂_cons.mp h'
  rw [split_append_piece hs hp, split_append_piece ht hq]
  exact .cons (h.append hfirst) hrest

/-- Cutting at what is not white space cuts both texts at the same places. -/
theorem split (hsep : isBlank sep = false) (h : Returned s t) :
    List.Forall₂ Returned (split sep s) (split sep t) := by
  obtain ⟨hfeed, hreturn⟩ := not_lineEnd hsep
  induction h with
  | nil => exact .cons .nil .nil
  | char c h ih =>
    by_cases hc : c = sep
    · subst hc
      simpa [Text.split] using And.intro Returned.nil ih
    · have hnot : sep ∉ [c] := by simpa using Ne.symm hc
      exact split_append (.refl [c]) hnot hnot ih
  | lineEnd h ih =>
    have hnot : sep ∉ ['\n'] := by simpa using hfeed
    have hnot' : sep ∉ ['\r', '\n'] := by simp [hfeed, hreturn]
    exact split_append (.lineEnd .nil) hnot hnot' ih

theorem join (h : List.Forall₂ Returned ps qs) (sep : Text) :
    Returned (join sep ps) (join sep qs) := by
  induction h with
  | nil => exact .nil
  | @cons p q ps qs hp hps ih =>
    cases hps with
    | nil => simpa [Text.join] using hp
    | cons hr hrs =>
      rw [join_cons _ _ (List.cons_ne_nil _ _), join_cons _ _ (List.cons_ne_nil _ _)]
      exact (hp.append (.refl sep)).append ih

/-- The carriage return is at the end of its line. -/
theorem map_trimEnd_lines (h : Returned s t) :
    (lines s).map Text.trimEnd = (lines t).map Text.trimEnd := by
  induction h with
  | nil => rfl
  | @char c s t h ih =>
    by_cases hc : c = '\n'
    · simpa [lines, Text.split, hc] using ih
    · obtain ⟨p, ps, hs⟩ := List.exists_cons_of_ne_nil (split_ne_nil '\n' s)
      obtain ⟨q, qs, ht⟩ := List.exists_cons_of_ne_nil (split_ne_nil '\n' t)
      simp only [lines, hs, ht, List.map_cons, List.cons.injEq] at ih
      have hline : Text.trimEnd (c :: p) = Text.trimEnd (c :: q) := by
        rw [← List.singleton_append, ← trimEnd_append_trimEnd, ih.1, trimEnd_append_trimEnd,
          List.singleton_append]
      simp [lines, Text.split, hc, hs, ht, ih.2, hline]
  | lineEnd _ ih =>
    have hblank : Text.trimEnd [] = Text.trimEnd ['\r'] := by decide
    simpa [lines, Text.split] using And.intro hblank ih

/-- What writes a text line by line keeps its line ends. -/
theorem map {f : Text → Text} (hnil : f [] = [])
    (hends : ∀ c, c = '\n' ∨ c = '\r' → ∀ u v, f (u ++ c :: v) = f u ++ c :: f v)
    (h : Returned s t) : Returned (f s) (f t) := by
  -- the line that a line end closes goes along in front
  suffices hbehind : ∀ u, Returned (f (u ++ s)) (f (u ++ t)) from hbehind []
  induction h with
  | nil => exact fun u => .refl _
  | char c _ ih =>
    intro u
    simpa using ih (u ++ [c])
  | @lineEnd s t _ ih =>
    intro u
    have hpair : f ('\n' :: t) = '\n' :: f t := by
      simpa [hnil] using hends '\n' (.inl rfl) [] t
    rw [hends '\n' (.inl rfl), hends '\r' (.inr rfl), hpair]
    exact (refl (f u)).append (ih []).lineEnd

end Returned

theorem returned_getD {a b : Option Text} (h : Option.Rel Returned a b) (hdefault : Returned s t) :
    Returned (a.getD s) (b.getD t) := by
  cases h with
  | some h => exact h
  | none => exact hdefault

theorem forall₂_getLastD {R : Text → Text → Prop} (h : List.Forall₂ R ps qs) (hlast : R s t) :
    R (ps.getLastD s) (qs.getLastD t) := by
  induction h generalizing s t with
  | nil => exact hlast
  | cons hp _ ih =>
    rw [List.getLastD_cons, List.getLastD_cons]
    exact ih hp

theorem returned_afterLast (hsep : isBlank sep = false) (h : Returned s t) :
    Returned (afterLast sep s) (afterLast sep t) := by
  have hlast (u : Text) : (split sep u).getLastD [] = afterLast sep u := by
    rw [split_eq_concat, List.getLastD_concat]
  rw [← hlast, ← hlast]
  exact forall₂_getLastD (h.split hsep) .nil

/-- No piece of one text is empty where the other's is not. -/
theorem nil_mem_iff_of_returned (h : List.Forall₂ Returned ps qs) : [] ∈ ps ↔ [] ∈ qs := by
  induction h with
  | nil => exact Iff.rfl
  | cons hp _ ih => rw [List.mem_cons, List.mem_cons, eq_comm, hp.eq_nil_iff, eq_comm, ih]

end RefSite.Text
