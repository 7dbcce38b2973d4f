import Mathlib.Data.List.DropRight
import Mathlib.Data.List.TakeWhile
import RefSite.Text.Blank

namespace RefSite.Text

variable {α : Type} {p : α → Bool} {a : α} {l : List α} {s t k m : Text}

theorem mem_dropWhile (h : a ∈ l) (ha : p a = false) : a ∈ l.dropWhile p := by
  rw [← List.takeWhile_append_dropWhile (p := p) (l := l), List.mem_append] at h
  refine h.resolve_left fun hl => ?_
  rw [List.mem_takeWhile_imp hl] at ha
  cases ha

theorem mem_rdropWhile (h : a ∈ l) (ha : p a = false) : a ∈ l.rdropWhile p :=
  List.mem_reverse.mpr (mem_dropWhile (List.mem_reverse.mpr h) ha)

/-- What is cut off at both ends stands at neither of them. -/
theorem eq_false_of_head?_trimmed (h : ((l.dropWhile p).rdropWhile p).head? = some a) :
    p a = false := by
  obtain ⟨rest, hrest⟩ := List.head?_eq_some_iff.mp h
  obtain ⟨behind, hbehind⟩ := List.rdropWhile_prefix p (l := l.dropWhile p)
  have hcons : l.dropWhile p = a :: (rest ++ behind) := by
    rw [← hbehind, hrest, List.cons_append]
  simpa [hcons] using List.head?_dropWhile_not p l

theorem eq_false_of_getLast?_trimmed (h : (l.rdropWhile p).getLast? = some a) : p a = false := by
  have hne : l.rdropWhile p ≠ [] := List.ne_nil_of_mem (List.mem_of_getLast? h)
  rw [List.getLast?_eq_some_getLast hne] at h
  simpa [Option.some.inj h] using List.rdropWhile_last_not p l hne

/-- The text shows nothing. -/
def Blank (t : Text) : Prop := ∀ c ∈ t, isBlank c = true

instance : DecidablePred Blank := fun t => List.decidableBAll (fun c => isBlank c = true) t

theorem blank_append : Blank (s ++ t) ↔ Blank s ∧ Blank t := List.forall_mem_append

theorem trimEnd_eq (t : Text) : trimEnd t = t.rdropWhile isBlank := rfl

theorem trimStart_eq_nil_iff : trimStart t = [] ↔ Blank t := List.dropWhile_eq_nil_iff

theorem trimEnd_eq_nil_iff : trimEnd t = [] ↔ Blank t := List.rdropWhile_eq_nil_iff

theorem trimStart_append_of_blank (h : Blank s) : trimStart (s ++ t) = trimStart t :=
  List.dropWhile_append_of_pos h

theorem trimStart_append_of_not_blank (h : ¬ Blank s) : trimStart (s ++ t) = trimStart s ++ t := by
  rw [← trimStart_eq_nil_iff, trimStart] at h
  rw [trimStart, List.dropWhile_append, if_neg (by simpa using h)]
  rfl

theorem trimEnd_append_of_blank (h : Blank t) : trimEnd (s ++ t) = trimEnd s := by
  have hrev : ∀ c ∈ t.reverse, isBlank c = true := fun c hc => h c (List.mem_reverse.mp hc)
  rw [trimEnd, List.reverse_append, List.dropWhile_append_of_pos hrev]
  rfl

theorem trimEnd_append_of_not_blank (h : ¬ Blank t) : trimEnd (s ++ t) = s ++ trimEnd t := by
  rw [← trimEnd_eq_nil_iff, trimEnd, List.reverse_eq_nil_iff] at h
  rw [trimEnd, List.reverse_append, List.dropWhile_append, if_neg (by simpa using h),
    List.reverse_append, List.reverse_reverse]
  rfl

theorem exists_trimStart (t : Text) : ∃ w, Blank w ∧ w ++ trimStart t = t :=
  ⟨t.takeWhile isBlank, fun _ => List.mem_takeWhile_imp, List.takeWhile_append_dropWhile⟩

theorem exists_trimEnd (t : Text) : ∃ w, Blank w ∧ trimEnd t ++ w = t :=
  ⟨t.rtakeWhile isBlank, fun _ => List.mem_rtakeWhile_imp, List.rdropWhile_append_rtakeWhile⟩

theorem trim_isInfix (t : Text) : trim t <:+: t :=
  (List.rdropWhile_prefix _ _).isInfix.trans (List.dropWhile_suffix _).isInfix

theorem trim_subset (t : Text) : trim t ⊆ t := (trim_isInfix t).subset

theorem trim_eq_nil_iff : trim t = [] ↔ Blank t := by
  obtain ⟨w, hw, ht⟩ := exists_trimStart t
  rw [trim, trimEnd_eq_nil_iff]
  constructor
  · intro h
    rw [← ht]
    exact blank_append.mpr ⟨hw, h⟩
  · intro h
    rw [← ht] at h
    exact (blank_append.mp h).2

theorem isBlank_of_trim_eq_cons {c : Char} (h : trim t = c :: s) : isBlank c = false :=
  eq_false_of_head?_trimmed (List.head?_eq_some_iff.mpr ⟨s, h⟩)

theorem trim_append_left (h : Blank s) : trim (s ++ t) = trim t := by
  rw [trim, trimStart_append_of_blank h, trim]

theorem trim_append_right (h : Blank t) : trim (s ++ t) = trim s := by
  by_cases hs : Blank s
  · rw [trim_eq_nil_iff.mpr hs, trim_eq_nil_iff, blank_append]
    exact ⟨hs, h⟩
  · rw [trim, trimStart_append_of_not_blank hs, trimEnd_append_of_blank h, trim]

theorem trim_trimEnd (t : Text) : trim (trimEnd t) = trim t := by
  obtain ⟨w, hw, ht⟩ := exists_trimEnd t
  rw [← trim_append_right hw, ht]

theorem trim_trimStart (t : Text) : trim (trimStart t) = trim t := by
  obtain ⟨w, hw, ht⟩ := exists_trimStart t
  rw [← trim_append_left hw, ht]

theorem trim_trim (t : Text) : trim (trim t) = trim t :=
  (trim_trimEnd (trimStart t)).trans (trim_trimStart t)

theorem trimEnd_trimEnd (t : Text) : trimEnd (trimEnd t) = trimEnd t := by
  rw [trimEnd_eq, trimEnd_eq, List.rdropWhile_idempotent]

theorem trimEnd_append_trimEnd (s t : Text) : trimEnd (s ++ trimEnd t) = trimEnd (s ++ t) := by
  obtain ⟨w, hw, ht⟩ := exists_trimEnd t
  conv_rhs => rw [← ht, ← List.append_assoc, trimEnd_append_of_blank hw]

/-- Trimming at the end does not reach back into a part that ends with something to show. -/
theorem prefix_trimEnd (h : s <+: t) (hs : trimEnd s = s) : s <+: trimEnd t := by
  obtain ⟨r, rfl⟩ := h
  by_cases hr : Blank r
  · have hself : trimEnd (s ++ r) = s := (trimEnd_append_of_blank hr).trans hs
    exact ⟨[], (List.append_nil s).trans hself.symm⟩
  · rw [trimEnd_append_of_not_blank hr]
    exact List.prefix_append _ _

theorem trimEnd_of_suffix (h : s <:+ t) (hs : trimEnd s = s) (hne : s ≠ []) : trimEnd t = t := by
  obtain ⟨r, rfl⟩ := h
  have hshown : ¬ Blank s := fun hb => hne (hs.symm.trans (trimEnd_eq_nil_iff.mpr hb))
  rw [trimEnd_append_of_not_blank hshown, hs]

/-- A text that shows something at either end is left as it is. -/
theorem trim_of_ends (hfirst : ∀ c ∈ t.head?, isBlank c = false)
    (hlast : ∀ c ∈ t.getLast?, isBlank c = false) : trim t = t := by
  have hstart : trimStart t = t := by
    cases t with
    | nil => rfl
    | cons c t => exact List.dropWhile_cons_of_neg (by simp [hfirst c rfl])
  rw [trim, hstart, trimEnd_eq, List.rdropWhile_eq_self_iff]
  intro hne
  rw [hlast _ (List.getLast?_eq_some_getLast hne)]
  exact Bool.false_ne_true

theorem mem_of_mem_dropOuterEmpty {ls : List Text} (h : t ∈ dropOuterEmpty ls) : t ∈ ls :=
  (List.dropWhile_sublist _).subset ((List.rdropWhile_prefix _ _).subset h)

theorem forall_mem_dropOuterEmpty {q : Text → Prop} (h : q []) {ls : List Text} :
    (∀ l ∈ dropOuterEmpty ls, q l) ↔ ∀ l ∈ ls, q l := by
  constructor
  · intro hq l hl
    by_cases he : l = []
    · exact he ▸ h
    · have hshown : l.isEmpty = false := by simpa using he
      exact hq l (mem_rdropWhile (mem_dropWhile hl hshown) hshown)
  · intro hq l hl
    exact hq l (mem_of_mem_dropOuterEmpty hl)

theorem flatten_dropOuterEmpty (ls : List Text) : (dropOuterEmpty ls).flatten = ls.flatten := by
  have hempty {ls : List Text} (h : ∀ l ∈ ls, l.isEmpty = true) : ls.flatten = [] := by
    simpa using h
  have hstart : (ls.dropWhile List.isEmpty).flatten = ls.flatten := by
    conv_rhs => rw [← List.takeWhile_append_dropWhile (p := List.isEmpty) (l := ls),
      List.flatten_append, hempty fun _ => List.mem_takeWhile_imp, List.nil_append]
  rw [← hstart]
  conv_rhs => rw [← List.rdropWhile_append_rtakeWhile (p := List.isEmpty)
      (l := ls.dropWhile List.isEmpty), List.flatten_append,
      hempty fun _ => List.mem_rtakeWhile_imp, List.append_nil]
  rfl

theorem ne_nil_of_head?_dropOuterEmpty {ls : List Text} (h : (dropOuterEmpty ls).head? = some t) :
    t ≠ [] := by
  simpa using eq_false_of_head?_trimmed h

theorem ne_nil_of_getLast?_dropOuterEmpty {ls : List Text}
    (h : (dropOuterEmpty ls).getLast? = some t) : t ≠ [] := by
  simpa using eq_false_of_getLast?_trimmed h

theorem dropOuterEmpty_of_ends {ls : List Text} (hfirst : ∀ l ∈ ls.head?, l ≠ [])
    (hlast : ∀ l ∈ ls.getLast?, l ≠ []) : dropOuterEmpty ls = ls := by
  have hstart : ls.dropWhile List.isEmpty = ls := by
    cases ls with
    | nil => rfl
    | cons l ls => exact List.dropWhile_cons_of_neg (by simpa using hfirst l rfl)
  have hend : ls.rdropWhile List.isEmpty = ls := by
    rw [List.rdropWhile_eq_self_iff]
    intro hne
    simpa using hlast _ (List.getLast?_eq_some_getLast hne)
  rw [dropOuterEmpty, hstart]
  exact hend

/-- Lines between two that are not empty are all kept. -/
theorem dropOuterEmpty_append (hk : k ≠ []) (hm : m ≠ []) (ls ms ns : List Text) :
    dropOuterEmpty (ls ++ k :: (ms ++ m :: ns)) =
      ls.dropWhile List.isEmpty ++ k :: (ms ++ m :: ns.rdropWhile List.isEmpty) := by
  have hdrop : ∀ (l : Text) (xs ys : List Text), l ≠ [] →
      (xs ++ l :: ys).dropWhile List.isEmpty = xs.dropWhile List.isEmpty ++ l :: ys := by
    intro l xs ys hl
    rw [List.dropWhile_append, List.dropWhile_cons_of_neg (by simpa using hl)]
    split_ifs with hxs
    · rw [List.isEmpty_iff.mp hxs, List.nil_append]
    · rfl
  rw [dropOuterEmpty, hdrop k ls _ hk, ← List.cons_append, ← List.append_assoc,
    List.reverse_append, List.reverse_cons, List.append_assoc, List.singleton_append,
    hdrop m _ _ hm, List.reverse_append, List.reverse_cons, List.reverse_reverse,
    List.append_assoc, List.append_assoc, List.singleton_append]
  rfl

end RefSite.Text
