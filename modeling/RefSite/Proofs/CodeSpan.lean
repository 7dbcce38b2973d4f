import Mathlib.Data.List.Infix
import RefSite.Markdown
import RefSite.Proofs.Text.Blank

namespace RefSite.Markdown

open Text (Blank)

variable {n k : Nat} {c : Char} {s t rest content span code : Text}

def ticks (n : Nat) : Text := List.replicate n '\x60'

/-- No run of backticks in the text has exactly this length. -/
def NoRun (n : Nat) (t : Text) : Prop :=
  ∀ s r, t = s ++ ticks n ++ r → s.getLast? = some '\x60' ∨ r.head? = some '\x60'

/-- Content between two runs of as many backticks, of which it has no run itself. -/
structure IsSpan (n : Nat) (content span : Text) : Prop where
  pos : 0 < n
  eq : span = ticks n ++ content ++ ticks n
  nonempty : content ≠ []
  opening : content.head? ≠ some '\x60'
  closing : content.getLast? ≠ some '\x60'
  noRun : NoRun n content

/-- The text without the spaces around it, if there is one on each side. -/
def unpad : Text → Text
  | ' ' :: t => if t.getLast? = some ' ' then t.dropLast else ' ' :: t
  | t => t

def Encloses (span code : Text) : Prop := ∃ n content, IsSpan n content span ∧ unpad content = code

/-- Reads up to the next run of exactly `n` backticks, with `k` of them read right before. -/
def readContent? (n : Nat) : Nat → Text → Option (Text × Text)
  | k, [] => if k = n then some ([], []) else none
  | k, c :: t =>
    if c = '\x60' then readContent? n (k + 1) t
    else if k = n then some ([], c :: t)
    else (readContent? n 0 t).map fun (content, rest) => (ticks k ++ c :: content, rest)

/-- Reads the code span that a text begins with, and returns its code and what is behind it. -/
def readSpan? (t : Text) : Option (Text × Text) :=
  let n := (t.takeWhile (· = '\x60')).length
  if n = 0 then none
  else (readContent? n 0 (t.dropWhile (· = '\x60'))).map fun (content, rest) =>
    (unpad content, rest)

theorem eq_of_mem_ticks (h : c ∈ ticks n) : c = '\x60' := List.eq_of_mem_replicate h

@[simp] theorem length_ticks (n : Nat) : (ticks n).length = n := List.length_replicate

theorem ticks_append_cons (k : Nat) (t : Text) : ticks k ++ '\x60' :: t = ticks (k + 1) ++ t := by
  rw [ticks, ticks, List.replicate_succ', List.append_assoc, List.singleton_append]

theorem head?_ticks_append (hn : 0 < n) (t : Text) : (ticks n ++ t).head? = some '\x60' := by
  obtain ⟨m, rfl⟩ := Nat.exists_eq_add_of_lt hn
  rw [Nat.zero_add, ticks, List.replicate_succ]
  rfl

theorem takeWhile_ticks_append (h : t.head? ≠ some '\x60') (n : Nat) :
    (ticks n ++ t).takeWhile (· = '\x60') = ticks n := by
  rw [List.takeWhile_append_of_pos fun c hc => by simpa using eq_of_mem_ticks hc]
  cases t with
  | nil => rw [List.takeWhile_nil, List.append_nil]
  | cons c t => rw [List.takeWhile_cons_of_neg (by simpa using h), List.append_nil]

theorem dropWhile_ticks_append (h : t.head? ≠ some '\x60') (n : Nat) :
    (ticks n ++ t).dropWhile (· = '\x60') = t := by
  rw [List.dropWhile_append_of_pos fun c hc => by simpa using eq_of_mem_ticks hc]
  cases t with
  | nil => rfl
  | cons c t => exact List.dropWhile_cons_of_neg (by simpa using h)

theorem exists_eq_ticks_append (t : Text) : ∃ n r, t = ticks n ++ r ∧ r.head? ≠ some '\x60' := by
  induction t with
  | nil => exact ⟨0, [], rfl, by simp⟩
  | cons c t ih =>
    by_cases hc : c = '\x60'
    · obtain ⟨n, r, rfl, hr⟩ := ih
      exact ⟨n + 1, r, by rw [hc, ticks, ticks, List.replicate_succ, List.cons_append], hr⟩
    · exact ⟨0, c :: t, rfl, by simpa using hc⟩

/-- The run that a text begins with is told from the text. -/
theorem ticks_append_inj {m : Nat} (hs : s.head? ≠ some '\x60') (ht : t.head? ≠ some '\x60')
    (h : ticks m ++ s = ticks n ++ t) : m = n ∧ s = t := by
  have htake := congrArg (List.takeWhile fun c => decide (c = '\x60')) h
  have hdrop := congrArg (List.dropWhile fun c => decide (c = '\x60')) h
  rw [takeWhile_ticks_append hs, takeWhile_ticks_append ht] at htake
  rw [dropWhile_ticks_append hs, dropWhile_ticks_append ht] at hdrop
  exact ⟨List.replicate_left_injective _ htake, hdrop⟩

theorem head?_append_cons_iff (hc : c ≠ '\x60') :
    (s ++ c :: t).head? = some '\x60' ↔ s.head? = some '\x60' := by
  cases s with
  | nil => simpa using hc
  | cons d s => exact Iff.rfl

theorem getLast?_append_cons_iff (hc : c ≠ '\x60') :
    (s ++ c :: t).getLast? = some '\x60' ↔ t.getLast? = some '\x60' := by
  rw [List.getLast?_append_cons]
  cases t with
  | nil => simpa using hc
  | cons d t => rw [List.getLast?_cons_cons]

theorem noRun_of_not_infix (h : ¬ ticks n <:+: t) : NoRun n t := fun s r he =>
  absurd ⟨s, r, he.symm⟩ h

theorem noRun_of_not_mem (hn : 0 < n) (h : '\x60' ∉ t) : NoRun n t := by
  refine noRun_of_not_infix fun hpart => h (hpart.subset ?_)
  exact List.mem_replicate.mpr ⟨hn.ne', rfl⟩

/-- A run does not reach over another character, so it stands wholly before it or behind it. -/
theorem run_before_or_behind {a b : Text} (hn : 0 < n) (hc : c ≠ '\x60')
    (h : s ++ c :: t = a ++ ticks n ++ b) :
    (∃ v, s = a ++ ticks n ++ v ∧ b = v ++ c :: t) ∨
      ∃ w, a = s ++ c :: w ∧ t = w ++ ticks n ++ b := by
  rw [List.append_assoc] at h
  obtain ⟨w, rfl, hw⟩ | ⟨w, rfl, hw⟩ := List.append_eq_append_iff.mp h
  · cases w with
    | nil =>
      have hhead := congrArg List.head? hw
      rw [List.nil_append, head?_ticks_append hn] at hhead
      exact absurd (Option.some.inj hhead) hc
    | cons d w =>
      obtain ⟨rfl, rfl⟩ := List.cons.inj hw
      exact .inr ⟨w, rfl, (List.append_assoc ..).symm⟩
  · obtain ⟨v, rfl, rfl⟩ | ⟨v, hticks, hv⟩ := List.append_eq_append_iff.mp hw
    · exact .inl ⟨v, (List.append_assoc ..).symm, rfl⟩
    · cases v with
      | nil => exact .inl ⟨[], by simp [hticks], hv.symm⟩
      | cons d v =>
        obtain ⟨rfl, -⟩ := List.cons.inj hv
        have hmem : c ∈ ticks n := hticks ▸ List.mem_append_right _ List.mem_cons_self
        exact absurd (eq_of_mem_ticks hmem) hc

theorem noRun_append_cons (hn : 0 < n) (hc : c ≠ '\x60') :
    NoRun n (s ++ c :: t) ↔ NoRun n s ∧ NoRun n t := by
  constructor
  · intro h
    refine ⟨?_, ?_⟩
    · rintro a b rfl
      exact (h a (b ++ c :: t) (by simp)).imp_right (head?_append_cons_iff hc).mp
    · rintro a b rfl
      exact (h (s ++ c :: a) b (by simp)).imp_left (getLast?_append_cons_iff hc).mp
  · rintro ⟨hs, ht⟩ a b he
    obtain ⟨v, hv, rfl⟩ | ⟨w, rfl, hw⟩ := run_before_or_behind hn hc he
    · exact (hs a v hv).imp_right (head?_append_cons_iff hc).mpr
    · exact (ht w b hw).imp_left (getLast?_append_cons_iff hc).mpr

theorem noRun_nil (hn : 0 < n) : NoRun n [] := noRun_of_not_mem hn List.not_mem_nil

theorem noRun_ticks (h : k ≠ n) : NoRun n (ticks k) := by
  intro a b he
  by_contra hends
  obtain ⟨ha, hb⟩ := not_or.mp hends
  have hticks : ∀ c ∈ a ++ ticks n ++ b, c = '\x60' := fun c hc => eq_of_mem_ticks (he ▸ hc)
  have hnone : a = [] := by
    by_contra hne
    have hlast := hticks (a.getLast hne) (by simp [List.getLast_mem])
    exact ha (by rw [List.getLast?_eq_some_getLast hne, hlast])
  have hnone' : b = [] := by
    cases b with
    | nil => rfl
    | cons d b => exact absurd (congrArg some (hticks d (by simp))) hb
  rw [hnone, hnone', List.nil_append, List.append_nil] at he
  exact h (List.replicate_left_injective _ he)

theorem not_noRun_ticks (h : t.head? ≠ some '\x60') (n : Nat) : ¬ NoRun n (ticks n ++ t) := by
  intro hrun
  rcases hrun [] t rfl with hlast | hhead
  · cases hlast
  · exact h hhead

/-- What is read ends at a run of the right length, and no such run is passed. -/
theorem of_readContent? (hn : 0 < n) (h : readContent? n k t = some (content, rest)) :
    ticks k ++ t = content ++ ticks n ++ rest ∧ rest.head? ≠ some '\x60' ∧
      content.getLast? ≠ some '\x60' ∧ NoRun n content := by
  induction t generalizing k content with
  | nil =>
    rw [readContent?] at h
    split_ifs at h with hk
    obtain ⟨rfl, rfl⟩ := Prod.mk.inj (Option.some.inj h)
    exact ⟨by simp [hk], by simp, by simp, noRun_nil hn⟩
  | cons c t ih =>
    rw [readContent?] at h
    split_ifs at h with hc hk
    · obtain ⟨he, hends⟩ := ih h
      exact ⟨by rw [hc, ticks_append_cons, he], hends⟩
    · obtain ⟨rfl, rfl⟩ := Prod.mk.inj (Option.some.inj h)
      exact ⟨by simp [hk], by simpa using hc, by simp, noRun_nil hn⟩
    · obtain ⟨⟨content', rest'⟩, hread, he⟩ := Option.map_eq_some_iff.mp h
      obtain ⟨rfl, rfl⟩ := Prod.mk.inj he
      obtain ⟨he, hrest, hlast, hrun⟩ := ih hread
      refine ⟨?_, hrest, ?_, (noRun_append_cons hn hc).mpr ⟨noRun_ticks hk, hrun⟩⟩
      · rw [show t = _ from he]
        simp
      · exact (getLast?_append_cons_iff hc).not.mpr hlast

theorem readContent?_ticks (k m : Nat) (t : Text) :
    readContent? n k (ticks m ++ t) = readContent? n (k + m) t := by
  induction m generalizing k with
  | zero => rfl
  | succ m ih =>
    rw [ticks, List.replicate_succ, List.cons_append, readContent?, if_pos rfl]
    rw [show List.replicate m '\x60' = ticks m from rfl, ih, Nat.add_assoc, Nat.add_comm 1 m]

theorem readContent?_append (hn : 0 < n) (hrest : rest.head? ≠ some '\x60')
    (hlast : (ticks k ++ s).getLast? ≠ some '\x60') (hrun : NoRun n (ticks k ++ s)) :
    readContent? n k (s ++ ticks n ++ rest) = some (ticks k ++ s, rest) := by
  induction s generalizing k with
  | nil =>
    have hk : k = 0 := by
      by_contra hk
      obtain ⟨m, rfl⟩ := Nat.exists_eq_succ_of_ne_zero hk
      exact hlast (by simp [ticks, List.replicate_succ'])
    subst hk
    rw [List.nil_append, readContent?_ticks, Nat.zero_add]
    cases rest with
    | nil => simp [readContent?, ticks]
    | cons c rest =>
      have hc : c ≠ '\x60' := by simpa using hrest
      rw [readContent?, if_neg hc, if_pos rfl]
      rfl
  | cons c s ih =>
    rw [List.cons_append, List.cons_append, readContent?]
    split_ifs with hc hk
    · subst hc
      rw [ticks_append_cons] at hlast hrun ⊢
      exact ih hlast hrun
    · subst hk
      exact absurd hrun (not_noRun_ticks (by simpa using hc) k)
    · have hlast := (getLast?_append_cons_iff hc).not.mp hlast
      rw [ih (k := 0) hlast ((noRun_append_cons hn hc).mp hrun).2]
      rfl

theorem IsSpan.head?_append_ne (h : IsSpan n content span) :
    (content ++ t).head? ≠ some '\x60' := by
  obtain ⟨c, s, rfl⟩ := List.exists_cons_of_ne_nil h.nonempty
  exact h.opening

theorem readSpan?_ticks_append (h : t.head? ≠ some '\x60') (n : Nat) :
    readSpan? (ticks n ++ t) = if n = 0 then none else
      (readContent? n 0 t).map fun (content, rest) => (unpad content, rest) := by
  rw [readSpan?, takeWhile_ticks_append h, dropWhile_ticks_append h, length_ticks]

theorem IsSpan.read (h : IsSpan n content span) (hrest : rest.head? ≠ some '\x60') :
    readSpan? (span ++ rest) = some (unpad content, rest) := by
  have hspan : span ++ rest = ticks n ++ (content ++ (ticks n ++ rest)) := by
    rw [h.eq]
    simp
  have hread := readContent?_append (k := 0) h.pos hrest h.closing h.noRun
  rw [List.append_assoc] at hread
  rw [hspan, readSpan?_ticks_append h.head?_append_ne, if_neg h.pos.ne', hread]
  rfl

/-- A span is read as some code just if it encloses the code. -/
theorem readSpan?_append_iff (hrest : rest.head? ≠ some '\x60') :
    readSpan? (span ++ rest) = some (code, rest) ↔ Encloses span code := by
  constructor
  · intro h
    obtain ⟨n, t, ht, hhead⟩ := exists_eq_ticks_append (span ++ rest)
    rw [ht, readSpan?_ticks_append hhead] at h
    split_ifs at h with hn
    have hpos : 0 < n := Nat.pos_of_ne_zero hn
    obtain ⟨⟨content, rest'⟩, hread, he⟩ := Option.map_eq_some_iff.mp h
    obtain ⟨hcode, rfl⟩ := Prod.mk.inj he
    obtain ⟨he, -, hlast, hrun⟩ := of_readContent? hpos hread
    obtain rfl : t = content ++ ticks n ++ rest' := he
    have hspan : span = ticks n ++ content ++ ticks n := by
      rw [← List.append_assoc, ← List.append_assoc] at ht
      exact List.append_cancel_right ht
    refine ⟨n, content, ⟨hpos, hspan, ?_, ?_, hlast, hrun⟩, hcode⟩
    · rintro rfl
      rw [List.nil_append, head?_ticks_append hpos] at hhead
      exact hhead rfl
    · cases content with
      | nil => simp
      | cons c s => exact hhead
  · rintro ⟨n, content, hspan, rfl⟩
    exact hspan.read hrest

theorem unpad_pad (t : Text) : unpad (' ' :: (t ++ [' '])) = t := by
  rw [unpad, List.getLast?_concat, if_pos rfl, List.dropLast_concat]

theorem unpad_trim (t : Text) : unpad (Text.trim t) = Text.trim t := by
  cases htrim : Text.trim t with
  | nil => rfl
  | cons c s =>
    have hc : Text.isBlank c = false := Text.isBlank_of_trim_eq_cons htrim
    rw [unpad]
    intro t he
    rw [(List.cons.inj he).1] at hc
    exact absurd hc (by decide)

theorem codeSpan_of_mem (h : '\x60' ∈ Text.trim code) :
    codeSpan code = ticks 2 ++ (' ' :: (Text.trim code ++ [' '])) ++ ticks 2 := by
  rw [codeSpan, if_neg (List.ne_nil_of_mem h), if_pos h]
  simp [ticks, List.replicate]

theorem codeSpan_of_not_mem (hcode : ¬ Blank code) (h : '\x60' ∉ Text.trim code) :
    codeSpan code = ticks 1 ++ Text.trim code ++ ticks 1 := by
  rw [codeSpan, if_neg (Text.trim_eq_nil_iff.not.mpr hcode), if_neg h]
  rfl

theorem noRun_pad (hn : 0 < n) : NoRun n (' ' :: (t ++ [' '])) ↔ NoRun n t := by
  have hspace : ' ' ≠ '\x60' := by decide
  rw [← List.nil_append (' ' :: _), noRun_append_cons hn hspace, noRun_append_cons hn hspace]
  simp [noRun_nil hn]

/-- Two backticks on each side are enough just for code without a run of two. -/
theorem encloses_codeSpan (hcode : ¬ Blank code) :
    Encloses (codeSpan code) (Text.trim code) ↔ NoRun 2 (Text.trim code) := by
  by_cases htick : '\x60' ∈ Text.trim code
  · rw [codeSpan_of_mem htick]
    constructor
    · rintro ⟨n, content, h, -⟩
      have he := h.eq
      rw [List.append_assoc, List.append_assoc] at he
      obtain ⟨rfl, hrest⟩ := ticks_append_inj (by simp) h.head?_append_ne he
      obtain rfl := List.append_cancel_right hrest
      exact (noRun_pad h.pos).mp h.noRun
    · intro h
      have hlast : (' ' :: (Text.trim code ++ [' '])).getLast? ≠ some '\x60' := by
        rw [← List.cons_append, List.getLast?_concat]
        decide
      exact ⟨2, _, ⟨by decide, rfl, by simp, by simp, hlast, (noRun_pad (by decide)).mpr h⟩,
        unpad_pad _⟩
  · rw [codeSpan_of_not_mem hcode htick]
    refine iff_of_true ?_ (noRun_of_not_mem (by decide) htick)
    have hne : Text.trim code ≠ [] := Text.trim_eq_nil_iff.not.mpr hcode
    refine ⟨1, _, ⟨by decide, rfl, hne, ?_, ?_, noRun_of_not_mem (by decide) htick⟩,
      unpad_trim code⟩
    · exact fun h => htick (List.mem_of_mem_head? h)
    · exact fun h => htick (List.mem_of_mem_getLast? h)

/-- Code that shows something is enclosed by its code span, and is read back from it whatever
follows, just if it has no run of exactly two backticks. -/
theorem codeSpan_enclosed_iff (hcode : ¬ Blank code) :
    (Encloses (codeSpan code) (Text.trim code) ↔ NoRun 2 (Text.trim code)) ∧
      ∀ rest, rest.head? ≠ some '\x60' →
        (readSpan? (codeSpan code ++ rest) = some (Text.trim code, rest) ↔
          NoRun 2 (Text.trim code)) :=
  ⟨encloses_codeSpan hcode, fun _ hrest =>
    (readSpan?_append_iff hrest).trans (encloses_codeSpan hcode)⟩

/-- Code with single backticks at its ends. -/
theorem exists_codeSpan_enclosed : ∃ code rest : Text, ¬ Blank code ∧
    codeSpan code = "`` `x` ``" ∧ Encloses (codeSpan code) "`x`" ∧
      readSpan? (codeSpan code ++ rest) = some ("`x`".toList, " is".toList) := by
  have hcode : ¬ Blank " `x` ".toList := by decide
  have hrun : NoRun 2 (Text.trim " `x` ") := noRun_of_not_infix (by decide)
  obtain ⟨hencloses, hread⟩ := codeSpan_enclosed_iff hcode
  exact ⟨_, " is", hcode, by decide, hencloses.mpr hrun, (hread " is" (by decide)).mpr hrun⟩

/-- The mark of a generic method is taken for the end of the span. -/
theorem exists_codeSpan_not_enclosed : ∃ code : Text, ¬ Blank code ∧ Text.trim code = "Do``1" ∧
    codeSpan code = "`` Do``1 ``" ∧ ¬ Encloses (codeSpan code) (Text.trim code) ∧
      readSpan? (codeSpan code) = some (" Do".toList, "1 ``".toList) := by
  have hread : readSpan? (codeSpan "Do``1" ++ []) = some (" Do".toList, "1 ``".toList) := by decide
  refine ⟨"Do``1", by decide, by decide, by decide, ?_, hread⟩
  intro h
  have hend : ([] : Text).head? ≠ some '\x60' := by decide
  rw [(readSpan?_append_iff hend).mpr h] at hread
  exact absurd hread (by decide)

end RefSite.Markdown
