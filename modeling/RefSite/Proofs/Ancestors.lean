import RefSite.Proofs.Path

namespace RefSite.Path

variable {p q a : Text}

theorem segments_dropPadding (r : Text) :
    segments (dropPadding r).reverse = segments r.reverse := by
  induction r with
  | nil => rfl
  | cons c r ih =>
    unfold dropPadding
    split
    · rename_i hc
      rw [ih, hc.1, List.reverse_cons, segments_append_slash, segments_nil, List.append_nil]
    split
    · rename_i hc
      obtain ⟨r, rfl⟩ := List.head?_eq_some_iff.mp hc.2
      have hdot : segments ['.'] = [] := by decide
      have hlast : ('.' :: '/' :: r).reverse = r.reverse ++ '/' :: ['.'] := by simp
      rw [ih, hc.1, hlast, segments_append_slash, hdot, List.reverse_cons, segments_append_slash,
        segments_nil]
    · rfl

theorem isAbsolute_dropPadding (r : Text) :
    isAbsolute (dropPadding r).reverse = isAbsolute r.reverse := by
  induction r with
  | nil => rfl
  | cons c r ih =>
    have hmore : r ≠ [] → isAbsolute (c :: r).reverse = isAbsolute r.reverse := by
      intro hr
      rw [List.reverse_cons, isAbsolute_append (by simpa using hr)]
    unfold dropPadding
    split
    · rename_i hc
      rw [ih, hmore hc.2]
    split
    · rename_i hc
      rw [ih, hmore]
      rintro rfl
      cases hc.2
    · rfl

theorem dropPadding_ne_nil {r : Text} (h : r ≠ []) : dropPadding r ≠ [] := by
  induction r with
  | nil => exact absurd rfl h
  | cons c r ih =>
    unfold dropPadding
    split
    · rename_i hc
      exact ih hc.2
    split
    · rename_i hc
      apply ih
      rintro rfl
      cases hc.2
    · exact List.cons_ne_nil c r

/-- What padding leaves ends in a segment, if it is more than a root or a dot. -/
theorem of_dropPadding {r s : Text} {c : Char} (h : dropPadding r = c :: s) :
    (c = '/' → s = []) ∧ (c = '.' → s.head? ≠ some '/') := by
  induction r with
  | nil => cases h
  | cons d r ih =>
    unfold dropPadding at h
    split at h
    · exact ih h
    split at h
    · exact ih h
    · rename_i hslash hdot
      obtain ⟨rfl, rfl⟩ := List.cons.inj h
      constructor
      · intro hd
        by_contra hr
        exact hslash ⟨hd, hr⟩
      · exact fun hd hr => hdot ⟨hd, hr⟩

/-- A single piece is a segment, unless it is a dot. -/
theorem segments_of_not_mem {n : Text} (hslash : '/' ∉ n) (nonempty : n ≠ []) :
    segments n = if n = ['.'] then [] else [n] := by
  split
  · rename_i hn
    rw [hn]
    decide
  · rename_i hn
    simp [segments, Text.split_of_notMem hslash, nonempty, hn]

/-- A text is all one piece, or a piece ends at its first slash. -/
theorem exists_piece (r : Text) : ∃ w, '/' ∉ w ∧
    (r = w ∧ r.dropWhile (· ≠ '/') = [] ∨
      ∃ s, r = w ++ '/' :: s ∧ r.dropWhile (· ≠ '/') = '/' :: s) := by
  induction r with
  | nil => exact ⟨[], by simp, .inl ⟨rfl, rfl⟩⟩
  | cons c r ih =>
    by_cases hc : c = '/'
    · subst hc
      exact ⟨[], by simp, .inr ⟨r, rfl, List.dropWhile_cons_of_neg (by simp)⟩⟩
    · obtain ⟨w, hw, hr⟩ := ih
      have hdrop : (c :: r).dropWhile (· ≠ '/') = r.dropWhile (· ≠ '/') :=
        List.dropWhile_cons_of_pos (by simpa using hc)
      refine ⟨c :: w, by simpa [Ne.symm hc] using hw, ?_⟩
      rw [hdrop]
      rcases hr with ⟨rfl, hnil⟩ | ⟨s, rfl, hs⟩
      · exact .inl ⟨rfl, hnil⟩
      · exact .inr ⟨s, rfl, hs⟩

/-- The parent lacks the last segment, and starts where the path starts. -/
theorem of_parent? (h : parent? p = some q) :
    segments q = (segments p).dropLast ∧ isAbsolute q = isAbsolute p := by
  unfold parent? at h
  split at h
  · cases h
  rename_i c r hr
  split at h
  · cases h
  rename_i hc
  obtain rfl := Option.some.inj h
  have hsegments := segments_dropPadding p.reverse
  have habsolute := isAbsolute_dropPadding p.reverse
  rw [List.reverse_reverse, hr] at hsegments habsolute
  rw [segments_dropPadding, isAbsolute_dropPadding, ← hsegments, ← habsolute]
  obtain ⟨w, hw, ⟨heq, hdrop⟩ | ⟨s, heq, hdrop⟩⟩ := exists_piece (c :: r)
  · -- the path is a single piece, so the parent is empty
    have hpiece : '/' ∉ (c :: r).reverse := by rwa [heq, List.mem_reverse]
    rw [hdrop, isAbsolute_of_not_mem hpiece, segments_of_not_mem hpiece (by simp)]
    refine ⟨?_, rfl⟩
    split <;> rfl
  · have hwne : w ≠ [] := by
      rintro rfl
      exact hc (List.cons.inj heq).1
    have hdot : w.reverse ≠ ['.'] := by
      intro hdot
      obtain rfl : w = ['.'] := by simpa using congrArg List.reverse hdot
      obtain ⟨rfl, rfl⟩ := List.cons.inj heq
      exact (of_dropPadding hr).2 rfl rfl
    have hlast : segments w.reverse = [w.reverse] := by
      rw [segments_of_not_mem (by simpa using hw) (by simpa using hwne), if_neg hdot]
    have hpath : (w ++ '/' :: s).reverse = s.reverse ++ '/' :: w.reverse := by simp
    rw [hdrop, heq, hpath, List.reverse_cons, segments_append_slash, segments_append_slash, hlast]
    refine ⟨by simp, ?_⟩
    by_cases hs : s.reverse = []
    · rw [hs]
      rfl
    · rw [isAbsolute_append hs, isAbsolute_append hs]

theorem of_parent?_eq_none (h : parent? p = none) :
    segments p = [] ∧ (p = [] ∨ isAbsolute p = true) := by
  unfold parent? at h
  split at h
  · rename_i hr
    have hp : p = [] := by
      by_contra hp
      exact dropPadding_ne_nil (by simpa using hp) hr
    rw [hp]
    exact ⟨rfl, .inl rfl⟩
  rename_i c r hr
  split at h
  · rename_i hc
    have hroot : dropPadding p.reverse = ['/'] := by
      rw [hr, hc, (of_dropPadding hr).1 hc]
    have hsegments := segments_dropPadding p.reverse
    have habsolute := isAbsolute_dropPadding p.reverse
    rw [List.reverse_reverse, hroot] at hsegments habsolute
    exact ⟨hsegments.symm, .inr habsolute.symm⟩
  · cases h

theorem dropPadding_suffix (r : Text) : dropPadding r <:+ r := by
  induction r with
  | nil => exact List.suffix_rfl
  | cons c r ih =>
    unfold dropPadding
    split
    · exact ih.trans (List.suffix_cons c r)
    split
    · exact ih.trans (List.suffix_cons c r)
    · exact List.suffix_rfl

/-- The text of the parent is the front of the path's. -/
theorem front_of_parent? (h : parent? p = some q) : q <+: p := by
  unfold parent? at h
  split at h
  · cases h
  rename_i c r hr
  split at h
  · cases h
  obtain rfl := Option.some.inj h
  apply List.reverse_suffix.mp
  rw [List.reverse_reverse]
  apply (dropPadding_suffix _).trans
  apply (List.dropWhile_suffix _).trans
  rw [← hr]
  exact dropPadding_suffix _

theorem ancestors_of_none (h : parent? p = none) : ancestors p = [p] := by
  rw [ancestors]
  split
  · rfl
  · rename_i hq
    rw [h] at hq
    cases hq

theorem ancestors_of_some (h : parent? p = some q) : ancestors p = p :: ancestors q := by
  rw [ancestors]
  split
  · rename_i hq
    rw [h] at hq
    cases hq
  · rename_i hq
    rw [h] at hq
    rw [Option.some.inj hq]

/-- What dropping components leads to has fewer of the segments, from the front. -/
theorem of_mem_ancestors (h : a ∈ ancestors p) :
    segments a <+: segments p ∧ isAbsolute a = isAbsolute p := by
  induction p using ancestors.induct with
  | case1 p hp =>
    rw [ancestors_of_none hp, List.mem_singleton] at h
    rw [h]
    exact ⟨List.prefix_rfl, rfl⟩
  | case2 p q hq _ ih =>
    obtain ⟨hsegments, habsolute⟩ := of_parent? hq
    rw [ancestors_of_some hq] at h
    rcases List.mem_cons.mp h with rfl | h
    · exact ⟨List.prefix_rfl, rfl⟩
    · obtain ⟨hfront, habs⟩ := ih h
      exact ⟨hfront.trans (hsegments ▸ List.dropLast_prefix _), habs.trans habsolute⟩

/-- What dropping components leads to does not climb if the path does not. -/
theorem stays_of_mem_ancestors (stays : .parent ∉ components p) (h : a ∈ ancestors p) :
    .parent ∉ components a := by
  rw [parent_mem_components_iff] at stays ⊢
  exact fun hmem => stays ((of_mem_ancestors h).1.subset hmem)

theorem pairwise_ancestors (p : Text) :
    (ancestors p).Pairwise fun a b => segments b <+: segments a := by
  induction p using ancestors.induct with
  | case1 p hp =>
    rw [ancestors_of_none hp]
    exact List.pairwise_singleton _ _
  | case2 p q hq _ ih =>
    rw [ancestors_of_some hq]
    refine List.pairwise_cons.mpr ⟨?_, ih⟩
    intro a ha
    exact (of_mem_ancestors ha).1.trans ((of_parent? hq).1 ▸ List.dropLast_prefix _)

theorem front_of_mem_ancestors (h : a ∈ ancestors p) : a <+: p := by
  induction p using ancestors.induct with
  | case1 p hp =>
    rw [ancestors_of_none hp, List.mem_singleton] at h
    rw [h]
  | case2 p q hq _ ih =>
    rw [ancestors_of_some hq] at h
    rcases List.mem_cons.mp h with rfl | h
    · exact List.prefix_rfl
    · exact (ih h).trans (front_of_parent? hq)

/-- Dropping components leads to each front of the segments. -/
theorem exists_mem_ancestors {ns : List Text} (h : ns <+: segments p) :
    ∃ a ∈ ancestors p, segments a = ns := by
  induction p using ancestors.induct with
  | case1 p hp =>
    rw [(of_parent?_eq_none hp).1, List.prefix_nil] at h
    rw [ancestors_of_none hp, h]
    exact ⟨p, List.mem_cons_self, (of_parent?_eq_none hp).1⟩
  | case2 p q hq _ ih =>
    rw [ancestors_of_some hq]
    by_cases hall : ns = segments p
    · exact ⟨p, List.mem_cons_self, hall.symm⟩
    · have hinit : ns <+: segments q := by
        obtain ⟨rest, hrest⟩ := h
        have hne : rest ≠ [] := by
          rintro rfl
          exact hall (by simpa using hrest)
        rw [(of_parent? hq).1, ← hrest, List.dropLast_append_of_ne_nil hne]
        exact List.prefix_append _ _
      obtain ⟨a, ha, hns⟩ := ih hinit
      exact ⟨a, List.mem_cons_of_mem p ha, hns⟩

end RefSite.Path
