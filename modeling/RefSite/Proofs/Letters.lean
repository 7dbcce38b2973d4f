import RefSite.Proofs.NormalLines
import RefSite.Text.Word

namespace RefSite

open Text (Blank isBlank)

variable {p : Char → Bool} {marks mark s t : Text} {ls : List Text}

/-- Neither white space nor any of the marks is in the class. -/
structure Excludes (p : Char → Bool) (marks : Text) : Prop where
  blank : ∀ c, isBlank c = true → p c = false
  mark : ∀ c ∈ marks, p c = false

namespace Excludes

theorem filter_of_blank (hp : Excludes p marks) (h : Blank s) : s.filter p = [] := by
  rw [List.filter_eq_nil_iff]
  intro c hc
  simp [hp.blank c (h c hc)]

theorem filter_of_subset (hp : Excludes p marks) (h : s ⊆ ' ' :: marks) : s.filter p = [] := by
  rw [List.filter_eq_nil_iff]
  intro c hc
  rcases List.mem_cons.mp (h hc) with rfl | hmark
  · simp [hp.blank ' ' (by decide)]
  · simp [hp.mark c hmark]

theorem filter_trimStart (hp : Excludes p marks) (t : Text) :
    (Text.trimStart t).filter p = t.filter p := by
  obtain ⟨w, hw, ht⟩ := Text.exists_trimStart t
  conv_rhs => rw [← ht, List.filter_append, hp.filter_of_blank hw, List.nil_append]

theorem filter_trimEnd (hp : Excludes p marks) (t : Text) :
    (Text.trimEnd t).filter p = t.filter p := by
  obtain ⟨w, hw, ht⟩ := Text.exists_trimEnd t
  conv_rhs => rw [← ht, List.filter_append, hp.filter_of_blank hw, List.append_nil]

theorem filter_trim (hp : Excludes p marks) (t : Text) : (Text.trim t).filter p = t.filter p := by
  rw [Text.trim, hp.filter_trimEnd, hp.filter_trimStart]

theorem filter_escapeTicks (hp : Excludes p marks) (h : '\\' ∈ marks) (t : Text) :
    (Markdown.escapeTicks t).filter p = t.filter p := by
  induction t with
  | nil => rfl
  | cons c t ih =>
    have hcons : (c :: t).filter p = [c].filter p ++ t.filter p := List.filter_append [c] t
    have hchar : (if c = '\x60' then "\\`".toList else [c]).filter p = [c].filter p := by
      split_ifs with hc
      · subst hc
        have hform : "\\`".toList = '\\' :: ['\x60'] := by decide
        rw [hform, List.filter_cons_of_neg (by simp [hp.mark _ h])]
      · rfl
    rw [Markdown.escapeTicks, Text.replace, List.flatMap_cons, List.filter_append, hchar, hcons]
    exact congrArg _ ih

theorem filter_emphasize (hp : Excludes p marks) (h : mark ⊆ marks) (t : Text) :
    (Markdown.emphasize mark t).filter p = t.filter p := by
  rw [Markdown.emphasize]
  split_ifs with hblank
  · rw [hp.filter_of_blank (Text.trim_eq_nil_iff.mp hblank)]
    rfl
  · have hmark := hp.filter_of_subset (List.Subset.trans h (List.subset_cons_self ' ' marks))
    simp [hmark, hp.filter_trim]

theorem filter_codeSpan (hp : Excludes p marks) (h : '\x60' ∈ marks) (code : Text) :
    (Markdown.codeSpan code).filter p = code.filter p := by
  have hfence (s : Text) (hs : s ⊆ [' ', '\x60']) : s.filter p = [] :=
    hp.filter_of_subset (List.Subset.trans hs (by simp [h]))
  rw [Markdown.codeSpan]
  split_ifs with hblank
  · rw [hp.filter_of_blank (Text.trim_eq_nil_iff.mp hblank)]
    rfl
  · rw [List.filter_append, List.filter_append, hfence "`` " (by decide), hfence " ``" (by decide),
      hp.filter_trim, List.nil_append, List.append_nil]
  · rw [List.filter_append, List.filter_append, hfence "`" (by decide), hp.filter_trim,
      List.nil_append, List.append_nil]

theorem filter_join (hp : Excludes p marks) {sep : Text} (h : Blank sep) (ls : List Text) :
    (Text.join sep ls).filter p = ls.flatten.filter p := by
  induction ls with
  | nil => rfl
  | cons l ls ih =>
    cases ls with
    | nil => simp [Text.join]
    | cons k ls =>
      rw [Text.join_cons _ _ (List.cons_ne_nil k ls), List.filter_append, List.filter_append, ih,
        hp.filter_of_blank h, List.append_nil, ← List.filter_append]
      rfl

theorem filter_lines (hp : Excludes p marks) (t : Text) :
    (Text.lines t).flatten.filter p = t.filter p := by
  have hbreak : Blank ['\n'] := by decide
  rw [← hp.filter_join hbreak, Text.lines, Text.join_split]

theorem filter_trimLine (hp : Excludes p marks) (b : Bool) (l : Text) :
    (Markdown.trimLine b l).filter p = l.filter p := by
  rw [Markdown.trimLine]
  split_ifs
  · exact hp.filter_trim l
  · exact hp.filter_trimEnd l
  · exact hp.filter_trim l

theorem filter_trimLines (hp : Excludes p marks) (b : Bool) (ls : List Text) :
    (Markdown.trimLines b ls).flatten.filter p = ls.flatten.filter p := by
  induction ls generalizing b with
  | nil => rfl
  | cons l ls ih =>
    rw [Markdown.trimLines_cons, List.flatten_cons, List.flatten_cons, List.filter_append,
      List.filter_append, ih, hp.filter_trimLine]

/-- Only blank lines are left out of the lines of a text. -/
theorem filter_normalLines (hp : Excludes p marks) (t : Text) :
    (Markdown.normalLines t).flatten.filter p = t.filter p := by
  rw [Markdown.normalLines, Text.flatten_dropOuterEmpty, hp.filter_trimLines, hp.filter_lines]

end Excludes

def Text.blankCodes : List Nat :=
  [9, 10, 11, 12, 13, 0x20, 0x85, 0xa0, 0x1680, 0x2000, 0x2001, 0x2002, 0x2003, 0x2004, 0x2005,
    0x2006, 0x2007, 0x2008, 0x2009, 0x200a, 0x2028, 0x2029, 0x202f, 0x205f, 0x3000]

theorem Text.toNat_mem_blankCodes {c : Char} (h : isBlank c = true) : c.toNat ∈ blankCodes := by
  simp only [isBlank, Bool.or_eq_true, Bool.and_eq_true, decide_eq_true_eq, beq_iff_eq] at h
  simp only [blankCodes, List.mem_cons, List.not_mem_nil, or_false]
  omega

theorem Text.not_isWord_of_isBlank {c : Char} (h : isBlank c = true) : isWord c = false := by
  have hcodes : ∀ n ∈ blankCodes, isWord (Char.ofNat n) = false := by decide +kernel
  have hchar := hcodes _ (toNat_mem_blankCodes h)
  rwa [Char.ofNat_toNat] at hchar

/-- Letters and digits of all scripts are word characters. -/
theorem excludes_of_isWord (hword : ∀ c, p c = true → Text.isWord c = true)
    (hmarks : marks.filter p = []) : Excludes p marks where
  blank c hblank := by
    have hnot := Text.not_isWord_of_isBlank hblank
    cases hc : p c with
    | false => rfl
    | true => exact absurd (hword c hc) (by simp [hnot])
  mark c hc := by simpa using List.filter_eq_nil_iff.mp hmarks c hc

end RefSite
