import Mathlib.Algebra.Ring.Parity
import RefSite.Proofs.Fence

namespace RefSite.Markdown

open Text (Blank)

variable {b : Bool} {t l : Text} {ls : List Text}

/-- What becomes of a line below others: it is trimmed, but for a line within a block that is still
open, which is trimmed only at its end. -/
def trimBelow (above : List Text) (line : Text) : Text :=
  if Odd (fences above) ∧ ¬ IsFence line then Text.trimEnd line else Text.trim line

/-- The lines from the first with text to the last, each trimmed where it stands. -/
def Trims (ls out : List Text) : Prop :=
  ∃ above kept below, ls = above ++ kept ++ below ∧ (∀ l ∈ above ++ below, Blank l) ∧
    (∀ l ∈ kept.head?, ¬ Blank l) ∧ (∀ l ∈ kept.getLast?, ¬ Blank l) ∧
      ∀ i, out[i]? = kept[i]?.map (trimBelow (above ++ kept.take i))

theorem trim_trimLine (b : Bool) (l : Text) : Text.trim (trimLine b l) = Text.trim l := by
  rw [trimLine]
  split_ifs
  · exact Text.trim_trim l
  · exact Text.trim_trimEnd l
  · exact Text.trim_trim l

theorem isFence_trimLine_iff : IsFence (trimLine b l) ↔ IsFence l := by
  rw [IsFence, trim_trimLine, IsFence]

theorem trimLine_trimLine (b : Bool) (l : Text) : trimLine b (trimLine b l) = trimLine b l := by
  by_cases hfence : IsFence l
  · rw [trimLine, if_pos (isFence_trimLine_iff.mpr hfence), trim_trimLine, trimLine, if_pos hfence]
  · rw [trimLine, if_neg (isFence_trimLine_iff.not.mpr hfence), trim_trimLine, trimLine,
      if_neg hfence]
    split_ifs
    · exact Text.trimEnd_trimEnd l
    · rfl

theorem trimLines_trimLines (b : Bool) (ls : List Text) :
    trimLines b (trimLines b ls) = trimLines b ls := by
  induction ls generalizing b with
  | nil => rfl
  | cons l ls ih =>
    have hturn : turn b (trimLine b l) = turn b l := by simp only [turn, isFence_trimLine_iff]
    rw [trimLines_cons, trimLines_cons, hturn, trimLine_trimLine, ih]

/-- Each line is trimmed by whether a block is open behind the lines above it. -/
theorem getElem?_trimLines (b : Bool) (ls : List Text) (i : Nat) :
    (trimLines b ls)[i]? = ls[i]?.map (trimLine ((ls.take i).foldl turn b)) := by
  induction ls generalizing b i with
  | nil => rfl
  | cons l ls ih =>
    rw [trimLines_cons]
    cases i with
    | zero => rfl
    | succ i => simpa using ih (turn b l) i

theorem trimLine_eq_trimBelow (above : List Text) (l : Text) :
    trimLine (above.foldl turn false) l = trimBelow above l := by
  have hopen : above.foldl turn false = true ↔ Odd (fences above) := by
    rw [← Nat.not_even_iff_odd, ← foldl_turn_eq_iff false, Bool.not_eq_false]
  unfold trimLine trimBelow
  by_cases hfence : IsFence l <;> simp [hfence, hopen]

theorem dropWhile_trimLines (b : Bool) (ls : List Text) :
    (trimLines b ls).dropWhile List.isEmpty = trimLines b (ls.dropWhile fun l => Blank l) := by
  induction ls generalizing b with
  | nil => rfl
  | cons l ls ih =>
    have hempty : (trimLine b l).isEmpty = true ↔ Blank l := by
      rw [List.isEmpty_iff, trimLine_eq_nil_iff]
    rw [trimLines_cons]
    by_cases h : Blank l
    · rw [List.dropWhile_cons_of_pos (hempty.mpr h), List.dropWhile_cons_of_pos (by simpa using h),
        ih, turn, if_neg (not_isFence_of_blank h)]
    · rw [List.dropWhile_cons_of_neg (hempty.not.mpr h),
        List.dropWhile_cons_of_neg (by simpa using h), trimLines_cons]

theorem rdropWhile_trimLines (b : Bool) (ls : List Text) :
    (trimLines b ls).rdropWhile List.isEmpty = trimLines b (ls.rdropWhile fun l => Blank l) := by
  induction ls using List.reverseRecOn with
  | nil => rfl
  | append_singleton ls l ih =>
    have hlast : trimLines (ls.foldl turn b) [l] = [trimLine (ls.foldl turn b) l] := by
      rw [trimLines_cons]
      rfl
    have hempty : (trimLine (ls.foldl turn b) l).isEmpty = true ↔ Blank l := by
      rw [List.isEmpty_iff, trimLine_eq_nil_iff]
    rw [trimLines_append, hlast]
    by_cases h : Blank l
    · rw [List.rdropWhile_concat_pos _ _ _ (hempty.mpr h),
        List.rdropWhile_concat_pos _ _ _ (by simpa using h), ih]
    · rw [List.rdropWhile_concat_neg _ _ _ (hempty.not.mpr h),
        List.rdropWhile_concat_neg _ _ _ (by simpa using h), trimLines_append, hlast]

/-- Blank lines may be cut off before the others are trimmed. -/
theorem normalLines_eq (t : Text) : normalLines t = trimLines false (textLines t) := by
  rw [textLines, ← rdropWhile_trimLines, ← dropWhile_trimLines]
  rfl

theorem trimLine_subset (b : Bool) (l : Text) : trimLine b l ⊆ l := by
  rw [trimLine]
  split_ifs
  · exact Text.trim_subset l
  · exact (List.rdropWhile_prefix _ l).subset
  · exact Text.trim_subset l

theorem exists_of_mem_trimLines {b : Bool} {ls : List Text} (h : l ∈ trimLines b ls) :
    ∃ k ∈ ls, l ⊆ k := by
  induction ls generalizing b with
  | nil => cases h
  | cons k ls ih =>
    rw [trimLines_cons] at h
    rcases List.mem_cons.mp h with rfl | h
    · exact ⟨k, List.mem_cons_self, trimLine_subset b k⟩
    · obtain ⟨k', hk', hsub⟩ := ih h
      exact ⟨k', List.mem_cons_of_mem k hk', hsub⟩

theorem break_not_mem_of_mem_normalLines (h : l ∈ normalLines t) : '\n' ∉ l := by
  obtain ⟨k, hk, hsub⟩ := exists_of_mem_trimLines (Text.mem_of_mem_dropOuterEmpty h)
  exact fun hbreak => Text.notMem_of_mem_split hk (hsub hbreak)

theorem normalLines_unlines (t : Text) :
    normalLines (Text.unlines (normalLines t)) = normalLines t := by
  by_cases h : normalLines t = []
  · rw [h]
    rfl
  · have hlines : Text.lines (Text.unlines (normalLines t)) = normalLines t :=
      Text.split_join h fun _ => break_not_mem_of_mem_normalLines
    have hself : trimLines false (normalLines t) = normalLines t := by
      rw [normalLines_eq, trimLines_trimLines]
    rw [normalLines, hlines, hself]
    exact Text.dropOuterEmpty_of_ends (fun _ => Text.ne_nil_of_head?_dropOuterEmpty)
      fun _ => Text.ne_nil_of_getLast?_dropOuterEmpty

theorem trims_normalLines (t : Text) : Trims (Text.lines t) (normalLines t) := by
  let blank : Text → Bool := fun l => Blank l
  have habove : ∀ l ∈ (Text.lines t).takeWhile blank, Blank l := by
    intro l hl
    simpa [blank] using List.mem_takeWhile_imp hl
  have hbelow : ∀ l ∈ ((Text.lines t).dropWhile blank).rtakeWhile blank, Blank l := by
    intro l hl
    simpa [blank] using List.mem_rtakeWhile_imp hl
  refine ⟨_, textLines t, _, ?_, List.forall_mem_append.mpr ⟨habove, hbelow⟩, ?_, ?_, ?_⟩
  · rw [List.append_assoc, textLines, List.rdropWhile_append_rtakeWhile,
      List.takeWhile_append_dropWhile]
  · intro l hl
    simpa using Text.eq_false_of_head?_trimmed hl
  · intro l hl
    simpa using Text.eq_false_of_getLast?_trimmed hl
  · intro i
    have hopen : ((Text.lines t).takeWhile blank ++ (textLines t).take i).foldl turn false =
        ((textLines t).take i).foldl turn false := by
      have hnone : ∀ l ∈ (Text.lines t).takeWhile blank, ¬ IsFence l :=
        fun l hl => not_isFence_of_blank (habove l hl)
      rw [List.foldl_append, foldl_turn_of_no_fence _ hnone]
    rw [normalLines_eq, getElem?_trimLines, ← hopen]
    congr 1
    funext l
    exact trimLine_eq_trimBelow _ l

/-- Normal lines stay as they are; the first and the last are not empty, and all lines between the
first with text and the last are there, each trimmed where it stands. -/
theorem normalLines_trims (t : Text) :
    normalLines (Text.unlines (normalLines t)) = normalLines t ∧
      (∀ l ∈ (normalLines t).head?, l ≠ []) ∧ (∀ l ∈ (normalLines t).getLast?, l ≠ []) ∧
        Trims (Text.lines t) (normalLines t) :=
  ⟨normalLines_unlines t, fun _ => Text.ne_nil_of_head?_dropOuterEmpty,
    fun _ => Text.ne_nil_of_getLast?_dropOuterEmpty, trims_normalLines t⟩

end RefSite.Markdown
