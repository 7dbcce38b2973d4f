import Mathlib.Algebra.Ring.Parity
import RefSite.Proofs.Fence
import RefSite.Proofs.Markdown
import RefSite.Proofs.Text.Run

namespace RefSite.Markdown

open Text (Blank RunsBefore RunsBehind runsBehind_append runsBehind_append_cons runsBehind_cons_end
  runsBehind_cons_run)

variable {p : Nat → Prop} {n : Nat} {c : Char} {s t w mark : Text} {ls : List Text}

/-- No backtick of the text can begin a code span. -/
def TicksEscaped (t : Text) : Prop := RunsBefore Odd '\\' '\x60' t

theorem ticksEscaped_iff : TicksEscaped t ↔ RunsBehind Odd '\\' '\x60' 0 t :=
  Text.runsBefore_iff (by decide)

instance : DecidablePred TicksEscaped := fun _ => decidable_of_iff' _ ticksEscaped_iff

theorem escapeTicks_append (s t : Text) : escapeTicks (s ++ t) = escapeTicks s ++ escapeTicks t :=
  List.flatMap_append

theorem escapeTicks_tick (t : Text) : escapeTicks ('\x60' :: t) = '\\' :: '\x60' :: escapeTicks t :=
  rfl

theorem escapeTicks_cons (h : c ≠ '\x60') (t : Text) :
    escapeTicks (c :: t) = c :: escapeTicks t := by
  rw [escapeTicks, Text.replace, List.flatMap_cons, if_neg h]
  rfl

theorem escapeTicks_eq_nil_iff : escapeTicks t = [] ↔ t = [] := by
  cases t with
  | nil => exact iff_of_true rfl rfl
  | cons c t =>
    refine iff_of_false ?_ (List.cons_ne_nil c t)
    by_cases h : c = '\x60'
    · rw [h, escapeTicks_tick]
      exact List.cons_ne_nil _ _
    · rw [escapeTicks_cons h]
      exact List.cons_ne_nil _ _

theorem escapeTicks_trimStart (t : Text) :
    Text.trimStart (escapeTicks t) = escapeTicks (Text.trimStart t) := by
  induction t with
  | nil => rfl
  | cons c t ih =>
    by_cases hc : c = '\x60'
    · subst hc
      rfl
    · rw [escapeTicks_cons hc]
      unfold Text.trimStart at *
      by_cases hblank : Text.isBlank c = true
      · rw [List.dropWhile_cons_of_pos hblank, List.dropWhile_cons_of_pos hblank, ih]
      · rw [List.dropWhile_cons_of_neg hblank, List.dropWhile_cons_of_neg hblank,
          escapeTicks_cons hc]

theorem escapeTicks_trimEnd (t : Text) :
    Text.trimEnd (escapeTicks t) = escapeTicks (Text.trimEnd t) := by
  simp only [Text.trimEnd_eq]
  induction t using List.reverseRecOn with
  | nil => rfl
  | append_singleton t c ih =>
    rw [escapeTicks_append]
    by_cases hc : c = '\x60'
    · subst hc
      have htick : ¬ Text.isBlank '\x60' = true := by decide
      rw [escapeTicks_tick, List.rdropWhile_concat_neg _ _ _ htick, escapeTicks_append,
        escapeTicks_tick]
      have := List.rdropWhile_concat_neg Text.isBlank (escapeTicks t ++ ['\\']) _ htick
      rwa [List.append_assoc] at this
    · rw [escapeTicks_cons hc]
      by_cases hblank : Text.isBlank c = true
      · exact (List.rdropWhile_concat_pos _ _ _ hblank).trans
          (ih.trans (congrArg escapeTicks (List.rdropWhile_concat_pos _ _ _ hblank).symm))
      · rw [List.rdropWhile_concat_neg _ _ _ hblank, escapeTicks_append, escapeTicks_cons hc]
        exact List.rdropWhile_concat_neg _ _ _ hblank

theorem escapeTicks_trim (t : Text) : Text.trim (escapeTicks t) = escapeTicks (Text.trim t) := by
  rw [Text.trim, escapeTicks_trimStart, escapeTicks_trimEnd, Text.trim]

theorem escapeTicks_emphasize (h : '\x60' ∉ mark) (t : Text) :
    emphasize mark (escapeTicks t) = escapeTicks (emphasize mark t) := by
  simp only [emphasize, escapeTicks_trim, escapeTicks_eq_nil_iff]
  split_ifs
  · rfl
  · rw [escapeTicks_append, escapeTicks_append, escapeTicks_of_not_mem h]

theorem runsBehind_escapeTicks (n : Nat) (t : Text) :
    RunsBehind Odd '\\' '\x60' n (escapeTicks t) ↔ RunsBehind Even '\\' '\x60' n t := by
  induction t generalizing n with
  | nil => exact Iff.rfl
  | cons c t ih =>
    by_cases hc : c = '\x60'
    · subst hc
      rw [escapeTicks_tick, runsBehind_cons_run, runsBehind_cons_end (by decide),
        runsBehind_cons_end (by decide), ih, Nat.odd_add_one, Nat.not_odd_iff_even]
    · rw [escapeTicks_cons hc, RunsBehind, RunsBehind, ih, ih]
      simp only [hc, false_imp_iff]

/-- One more backslash before each backtick escapes those that had an even number. -/
theorem ticksEscaped_escapeTicks_iff :
    TicksEscaped (escapeTicks t) ↔ RunsBefore Even '\\' '\x60' t := by
  rw [ticksEscaped_iff, runsBehind_escapeTicks, Text.runsBefore_iff (by decide)]

theorem runsBehind_blank_append (hw : Blank w) (t : Text) :
    RunsBehind p '\\' '\x60' 0 (w ++ t) ↔ RunsBehind p '\\' '\x60' 0 t := by
  by_cases h : w = []
  · rw [h, List.nil_append]
  · exact runsBehind_append h (fun hmem => absurd (hw _ hmem) (by decide))
      (fun hmem => absurd (hw _ hmem) (by decide)) 0 t

theorem runsBehind_append_blank (hw : Blank w) (t : Text) :
    RunsBehind p '\\' '\x60' 0 (t ++ w) ↔ RunsBehind p '\\' '\x60' 0 t := by
  cases w with
  | nil => rw [List.append_nil]
  | cons c w =>
    obtain ⟨hc, hw⟩ := List.forall_mem_cons.mp hw
    have hne : c ≠ '\\' ∧ c ≠ '\x60' := by
      constructor <;> rintro rfl <;> exact absurd hc (by decide)
    rw [runsBehind_append_cons hne.1 hne.2, and_iff_left]
    exact Text.runsBehind_of_not_mem (fun hmem => absurd (hw _ hmem) (by decide)) 0

theorem runsBehind_trimEnd (t : Text) :
    RunsBehind p '\\' '\x60' 0 (Text.trimEnd t) ↔ RunsBehind p '\\' '\x60' 0 t := by
  obtain ⟨w, hw, ht⟩ := Text.exists_trimEnd t
  conv_rhs => rw [← ht, runsBehind_append_blank hw]

theorem runsBehind_trim (t : Text) :
    RunsBehind p '\\' '\x60' 0 (Text.trim t) ↔ RunsBehind p '\\' '\x60' 0 t := by
  obtain ⟨w, hw, ht⟩ := Text.exists_trimStart t
  conv_rhs => rw [← ht, runsBehind_blank_append hw]
  exact runsBehind_trimEnd _

theorem runsBehind_trimLine (b : Bool) (l : Text) :
    RunsBehind p '\\' '\x60' 0 (trimLine b l) ↔ RunsBehind p '\\' '\x60' 0 l := by
  rw [trimLine]
  split_ifs
  · exact runsBehind_trim l
  · exact runsBehind_trimEnd l
  · exact runsBehind_trim l

theorem forall_mem_trimLines (b : Bool) (ls : List Text) :
    (∀ l ∈ trimLines b ls, RunsBehind p '\\' '\x60' 0 l) ↔
      ∀ l ∈ ls, RunsBehind p '\\' '\x60' 0 l := by
  induction ls generalizing b with
  | nil => exact Iff.rfl
  | cons l ls ih => rw [trimLines_cons, List.forall_mem_cons, List.forall_mem_cons, ih,
      runsBehind_trimLine]

theorem runsBehind_unlines (ls : List Text) :
    RunsBehind p '\\' '\x60' 0 (Text.unlines ls) ↔ ∀ l ∈ ls, RunsBehind p '\\' '\x60' 0 l := by
  induction ls with
  | nil => exact iff_of_true trivial (List.forall_mem_nil _)
  | cons l ls ih =>
    rw [List.forall_mem_cons, ← ih]
    cases ls with
    | nil => simp [Text.unlines, Text.join, RunsBehind]
    | cons k ls =>
      rw [Text.unlines, Text.join_cons _ _ (List.cons_ne_nil k ls), List.append_assoc]
      exact runsBehind_append_cons (by decide) (by decide) 0 l _

/-- A text has its backticks behind runs of backslashes just as its trimmed lines have them. -/
theorem forall_mem_normalLines (t : Text) :
    (∀ l ∈ normalLines t, RunsBefore p '\\' '\x60' l) ↔ RunsBefore p '\\' '\x60' t := by
  simp only [Text.runsBefore_iff (show '\x60' ≠ '\\' by decide)]
  rw [normalLines, Text.forall_mem_dropOuterEmpty trivial, forall_mem_trimLines,
    ← runsBehind_unlines]
  exact iff_of_eq (congrArg _ (Text.join_split '\n' t))

end RefSite.Markdown
