import Mathlib.Data.List.DropRight

namespace RefSite.Text

variable {α : Type} [DecidableEq α] {p : Nat → Prop} {a b c : α} {n : Nat} {s t u l : List α}

/-- How many times the list has `b` right at its end. -/
def runAtEnd (b : α) (l : List α) : Nat := (l.rtakeWhile (· = b)).length

/-- Before each `a` stands a run of `b`s, maybe of none, whose length has the property. -/
def RunsBefore (p : Nat → Prop) (b a : α) (l : List α) : Prop :=
  ∀ s t, l = s ++ a :: t → p (runAtEnd b s)

/-- The same for a list that stands behind a run of `n`. -/
def RunsBehind (p : Nat → Prop) (b a : α) : Nat → List α → Prop
  | _, [] => True
  | n, c :: l =>
    if c = b then RunsBehind p b a (n + 1) l else (c = a → p n) ∧ RunsBehind p b a 0 l

instance decidableRunsBehind [DecidablePred p] :
    ∀ (n : Nat) (l : List α), Decidable (RunsBehind p b a n l)
  | _, [] => .isTrue trivial
  | n, c :: l =>
    have := decidableRunsBehind (n + 1) l
    have := decidableRunsBehind 0 l
    inferInstanceAs (Decidable (if c = b then RunsBehind p b a (n + 1) l
      else (c = a → p n) ∧ RunsBehind p b a 0 l))

theorem runsBehind_cons_run (n : Nat) (l : List α) :
    RunsBehind p b a n (b :: l) ↔ RunsBehind p b a (n + 1) l := by
  rw [RunsBehind, if_pos rfl]

theorem runsBehind_cons_end (hab : a ≠ b) (n : Nat) (l : List α) :
    RunsBehind p b a n (a :: l) ↔ p n ∧ RunsBehind p b a 0 l := by
  rw [RunsBehind, if_neg hab, imp_iff_right rfl]

theorem runAtEnd_replicate (n : Nat) (b : α) : runAtEnd b (List.replicate n b) = n := by
  have hall : (List.replicate n b).rtakeWhile (· = b) = List.replicate n b :=
    List.rtakeWhile_eq_self_iff.mpr fun c hc => by simpa using List.eq_of_mem_replicate hc
  rw [runAtEnd, hall, List.length_replicate]

theorem runAtEnd_append_cons (h : c ≠ b) (s t : List α) :
    runAtEnd b (s ++ c :: t) = runAtEnd b t := by
  have hstop : List.takeWhile (fun d => decide (d = b)) (t.reverse ++ c :: s.reverse) =
      List.takeWhile (fun d => decide (d = b)) t.reverse := by
    induction t.reverse with
    | nil => exact List.takeWhile_cons_of_neg (by simpa using h)
    | cons d t ih => rw [List.cons_append, List.takeWhile_cons, List.takeWhile_cons, ih]
  rw [runAtEnd, runAtEnd, List.rtakeWhile, List.rtakeWhile, List.reverse_append, List.reverse_cons,
    List.append_assoc, List.singleton_append, hstop]

theorem runsBehind_iff (hab : a ≠ b) :
    RunsBehind p b a n l ↔
      ∀ s t, l = s ++ a :: t → p (runAtEnd b (List.replicate n b ++ s)) := by
  induction l generalizing n with
  | nil => exact iff_of_true trivial fun s t he => by simp at he
  | cons c l ih =>
    have hcons (s : List α) :
        List.replicate n b ++ c :: s = List.replicate n b ++ [c] ++ s := by simp
    rw [RunsBehind]
    split_ifs with hc
    · subst hc
      rw [ih, List.replicate_succ']
      constructor
      · rintro h (_ | ⟨d, s⟩) t he
        · exact absurd (List.cons.inj he).1.symm hab
        · obtain ⟨rfl, hl⟩ := List.cons.inj he
          exact hcons s ▸ h s t hl
      · intro h s t he
        exact hcons s ▸ h (c :: s) t (congrArg (c :: ·) he)
    · rw [ih]
      constructor
      · rintro ⟨hrun, h⟩ (_ | ⟨d, s⟩) t he
        · rw [List.append_nil, runAtEnd_replicate]
          exact hrun (List.cons.inj he).1
        · obtain ⟨rfl, hl⟩ := List.cons.inj he
          rw [runAtEnd_append_cons hc]
          exact h s t hl
      · intro h
        refine ⟨?_, ?_⟩
        · rintro rfl
          simpa [runAtEnd_replicate] using h [] l rfl
        · intro s t he
          have := h (c :: s) t (congrArg (c :: ·) he)
          rwa [runAtEnd_append_cons hc] at this

theorem runsBefore_iff (hab : a ≠ b) : RunsBefore p b a l ↔ RunsBehind p b a 0 l := by
  rw [runsBehind_iff hab]
  rfl

theorem runsBehind_append_cons (hb : c ≠ b) (ha : c ≠ a) (n : Nat) (s t : List α) :
    RunsBehind p b a n (s ++ c :: t) ↔ RunsBehind p b a n s ∧ RunsBehind p b a 0 t := by
  induction s generalizing n with
  | nil => simp [RunsBehind, hb, ha]
  | cons d s ih =>
    rw [List.cons_append, RunsBehind, RunsBehind]
    split_ifs
    · exact ih _
    · rw [ih, and_assoc]

/-- Whatever has neither of the two elements ends a run. -/
theorem runsBehind_append (hu : u ≠ []) (hb : b ∉ u) (ha : a ∉ u) (n : Nat) (t : List α) :
    RunsBehind p b a n (u ++ t) ↔ RunsBehind p b a 0 t := by
  induction u generalizing n with
  | nil => exact absurd rfl hu
  | cons c u ih =>
    obtain ⟨hbc, hbu⟩ : b ≠ c ∧ b ∉ u := by simpa using hb
    obtain ⟨hac, hau⟩ : a ≠ c ∧ a ∉ u := by simpa using ha
    have hcons := runsBehind_append_cons (p := p) (Ne.symm hbc) (Ne.symm hac) n [] (u ++ t)
    rw [List.cons_append, ← List.nil_append (c :: (u ++ t)), hcons]
    by_cases hu : u = []
    · subst hu
      exact and_iff_right trivial
    · exact (and_iff_right trivial).trans (ih hu hbu hau 0)

theorem runsBehind_of_not_mem (h : a ∉ l) (n : Nat) : RunsBehind p b a n l := by
  induction l generalizing n with
  | nil => trivial
  | cons c l ih =>
    obtain ⟨hc, hl⟩ : a ≠ c ∧ a ∉ l := by simpa using h
    rw [RunsBehind]
    split_ifs
    · exact ih hl _
    · exact ⟨fun he => absurd he.symm hc, ih hl 0⟩

end RefSite.Text
