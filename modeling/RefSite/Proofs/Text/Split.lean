import Mathlib.Data.List.Infix
import Mathlib.Data.List.TakeWhile
import RefSite.Text.Split

namespace RefSite.Text

variable {sep : Char} {s t v w p : Text} {ps : List Text}

theorem split_append_sep (sep : Char) (s t : Text) :
    split sep (s ++ sep :: t) = split sep s ++ split sep t := by
  induction s with
  | nil => simp [split]
  | cons c s ih =>
    by_cases hc : c = sep
    · simp [split, hc, ih]
    · obtain ⟨p, ps, hs⟩ := List.exists_cons_of_ne_nil (split_ne_nil sep s)
      simp [split, hc, ih, hs]

/-- A text without separators goes to the first piece of what follows it. -/
theorem split_append_piece (hw : sep ∉ w) (ht : split sep t = p :: ps) :
    split sep (w ++ t) = (w ++ p) :: ps := by
  induction w with
  | nil => exact ht
  | cons c w ih =>
    obtain ⟨hc, hw⟩ : sep ≠ c ∧ sep ∉ w := by simpa using hw
    rw [List.cons_append, split, if_neg (Ne.symm hc), ih hw]
    rfl

theorem prefix_join (sep p : Text) (ps : List Text) : p <+: join sep (p :: ps) := by
  cases ps with
  | nil => simp [join, List.intercalate]
  | cons q qs =>
    rw [join_cons _ _ (List.cons_ne_nil q qs), List.append_assoc]
    exact List.prefix_append _ _

theorem suffix_join (sep : Text) (h : ps.getLast? = some p) : p <:+ join sep ps := by
  induction ps with
  | nil => cases h
  | cons q qs ih =>
    cases qs with
    | nil =>
      obtain rfl := Option.some.inj h
      simp [join, List.intercalate]
    | cons r rs =>
      rw [join_cons _ _ (List.cons_ne_nil r rs)]
      rw [List.getLast?_cons_cons] at h
      exact (ih h).trans (List.suffix_append _ _)

theorem infix_join (h : p ∈ ps) (sep : Text) : p <:+: join sep ps := by
  induction ps with
  | nil => cases h
  | cons q qs ih =>
    rcases List.mem_cons.mp h with rfl | h
    · exact (prefix_join sep p qs).isInfix
    · rw [join_cons _ _ (List.ne_nil_of_mem h)]
      exact (ih h).trans (List.suffix_append _ _).isInfix

theorem infix_of_mem_split (h : p ∈ split sep t) : p <:+: t := by
  have := infix_join h [sep]
  rwa [join_split] at this

theorem exists_of_mem_join {c : Char} {sep : Text} (h : c ∈ join sep ps) :
    c ∈ sep ∨ ∃ n ∈ ps, c ∈ n := by
  induction ps with
  | nil => cases h
  | cons n ns ih =>
    by_cases hns : ns = []
    · subst hns
      exact .inr ⟨n, List.mem_cons_self, by simpa [join, List.intercalate] using h⟩
    · rw [join_cons _ _ hns, List.mem_append, List.mem_append] at h
      rcases h with (h | h) | h
      · exact .inr ⟨n, List.mem_cons_self, h⟩
      · exact .inl h
      · rcases ih h with h | ⟨m, hm, hcm⟩
        · exact .inl h
        · exact .inr ⟨m, List.mem_cons_of_mem n hm, hcm⟩

theorem exists_mem_split {c : Char} (hc : c ≠ sep) (h : c ∈ t) :
    ∃ n ∈ split sep t, c ∈ n := by
  rw [← join_split sep t] at h
  exact (exists_of_mem_join h).resolve_left (by simpa using hc)

theorem ne_of_not_mem (h : sep ∉ s) : ∀ c ∈ s, decide (c ≠ sep) = true := by
  intro c hc
  simpa using fun he : c = sep => h (he ▸ hc)

theorem before_of_not_mem (h : sep ∉ t) : before sep t = t :=
  List.takeWhile_eq_self_iff.mpr (ne_of_not_mem h)

theorem before_append (h : sep ∉ s) (t : Text) : before sep (s ++ sep :: t) = s := by
  rw [before, List.takeWhile_append_of_pos (ne_of_not_mem h),
    List.takeWhile_cons_of_neg (by simp), List.append_nil]

theorem after?_cons (sep c : Char) (t : Text) :
    after? sep (c :: t) = if c = sep then some t else after? sep t := by
  by_cases hc : c = sep <;> simp [after?, hc]

theorem after?_append (h : sep ∉ s) (t : Text) : after? sep (s ++ sep :: t) = some t := by
  rw [after?, List.dropWhile_append_of_pos (ne_of_not_mem h),
    List.dropWhile_cons_of_neg (by simp)]

theorem beforeLast?_append (s : Text) (h : sep ∉ t) : beforeLast? sep (s ++ sep :: t) = some s := by
  rw [beforeLast?, List.reverse_append, List.reverse_cons, List.append_assoc, List.singleton_append,
    after?_append (by simpa using h), Option.map_some, List.reverse_reverse]

theorem beforeLast?_of_not_mem (h : sep ∉ t) : beforeLast? sep t = none := by
  rw [beforeLast?, after?_eq_none_iff.mpr (by simpa using h), Option.map_none]

theorem afterLast_of_not_mem (h : sep ∉ t) : afterLast sep t = t := by
  rw [afterLast, before_of_not_mem (by simpa using h), List.reverse_reverse]

theorem afterLast_append (s : Text) (h : sep ∉ t) : afterLast sep (s ++ sep :: t) = t := by
  rw [afterLast, List.reverse_append, List.reverse_cons, List.append_assoc, List.singleton_append,
    before_append (by simpa using h), List.reverse_reverse]

theorem split_eq_cons (sep : Char) (t : Text) :
    split sep t = before sep t :: (split sep t).tail := by
  by_cases h : sep ∈ t
  · obtain ⟨u, v, rfl, hu⟩ := List.eq_append_cons_of_mem h
    rw [split_append sep hu, before_append hu]
    rfl
  · rw [split_of_notMem h, before_of_not_mem h]
    rfl

theorem exists_append_last (h : sep ∈ t) : ∃ u v, t = u ++ sep :: v ∧ sep ∉ v := by
  obtain ⟨v, u, hrev, hv⟩ := List.eq_append_cons_of_mem (List.mem_reverse.mpr h)
  refine ⟨u.reverse, v.reverse, ?_, by simpa using hv⟩
  rw [← List.reverse_reverse t, hrev]
  simp

/-- The last piece of one text and the first piece of the next are one piece. -/
theorem split_append_text (sep : Char) (s t : Text) :
    split sep (s ++ t) =
      (split sep s).dropLast ++ (afterLast sep s ++ before sep t) :: (split sep t).tail := by
  have hcons := split_eq_cons sep t
  by_cases h : sep ∈ s
  · obtain ⟨u, v, rfl, hv⟩ := exists_append_last h
    rw [List.append_assoc, List.cons_append, split_append_sep, split_append_piece hv hcons,
      split_append_sep, split_of_notMem hv, afterLast_append u hv, List.dropLast_concat]
  · rw [split_of_notMem h, afterLast_of_not_mem h, split_append_piece h hcons]
    rfl

theorem split_eq_concat (sep : Char) (t : Text) :
    split sep t = (split sep t).dropLast ++ [afterLast sep t] := by
  have := split_append_text sep t []
  simpa [split, before] using this

theorem not_mem_afterLast (sep : Char) (t : Text) : sep ∉ afterLast sep t := by
  intro h
  simpa using List.mem_takeWhile_imp (List.mem_reverse.mp h)

theorem mem_of_mem_afterLast {c : Char} (h : c ∈ afterLast sep t) : c ∈ t :=
  List.mem_reverse.mp ((List.takeWhile_sublist _).subset (List.mem_reverse.mp h))

/-- The dotted segments of the text are not empty. -/
def Dotted (t : Text) : Prop := [] ∉ split '.' t

theorem Dotted.ne_nil (h : Dotted t) : t ≠ [] := by
  rintro rfl
  exact h List.mem_cons_self

/-- No two dots follow each other. -/
theorem Dotted.not_infix (h : Dotted t) : ¬ ['.', '.'] <:+: t := by
  rintro ⟨a, b, rfl⟩
  refine h ?_
  rw [show a ++ ['.', '.'] ++ b = a ++ '.' :: ([] ++ '.' :: b) by simp, split_append_sep,
    split_append_sep]
  simp [split]

theorem Dotted.of_append (h : Dotted (s ++ '.' :: t)) : Dotted s ∧ Dotted t := by
  unfold Dotted at h
  rw [split_append_sep, List.mem_append, not_or] at h
  exact h

/-- Texts that have their dots at the same places, with something or with nothing between them. -/
inductive SameDots : Text → Text → Prop
  | nil : SameDots [] []
  | dot {s t : Text} : SameDots s t → SameDots ('.' :: s) ('.' :: t)
  | piece {v w s t : Text} :
    v ≠ [] → w ≠ [] → '.' ∉ v → '.' ∉ w → SameDots s t → SameDots (v ++ s) (w ++ t)

theorem SameDots.map_isEmpty (h : SameDots s t) :
    (split '.' s).map List.isEmpty = (split '.' t).map List.isEmpty := by
  induction h with
  | nil => rfl
  | dot _ ih => simp [split, ih]
  | @piece v w s t hv hw hdv hdw _ ih =>
    obtain ⟨p, ps, hs⟩ := List.exists_cons_of_ne_nil (split_ne_nil '.' s)
    obtain ⟨q, qs, ht⟩ := List.exists_cons_of_ne_nil (split_ne_nil '.' t)
    rw [hs, ht] at ih
    have hvp : (v ++ p).isEmpty = false := by simp [List.isEmpty_eq_false_iff, hv]
    have hwq : (w ++ q).isEmpty = false := by simp [List.isEmpty_eq_false_iff, hw]
    rw [split_append_piece hdv hs, split_append_piece hdw ht, List.map_cons, List.map_cons, hvp,
      hwq]
    exact congrArg _ (List.cons.inj ih).2

theorem SameDots.dotted (h : SameDots s t) (ht : Dotted t) : Dotted s := by
  have hmem : ∀ ps : List Text, [] ∈ ps ↔ true ∈ ps.map List.isEmpty := by simp
  unfold Dotted at *
  rwa [hmem, h.map_isEmpty, ← hmem]

theorem SameDots.ne_nil (h : SameDots s t) (ht : t ≠ []) : s ≠ [] := by
  cases h with
  | nil => exact absurd rfl ht
  | dot _ => exact List.cons_ne_nil _ _
  | piece hv _ _ _ _ => exact List.append_ne_nil_of_left_ne_nil hv _

theorem SameDots.not_mem (h : SameDots s t) (ht : '.' ∉ t) : '.' ∉ s := by
  induction h with
  | nil => exact ht
  | dot _ _ => simp at ht
  | piece _ _ hv _ _ ih =>
    rw [List.mem_append, not_or] at ht ⊢
    exact ⟨hv, ih ht.2⟩

end RefSite.Text
