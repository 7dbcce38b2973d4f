import Mathlib.Data.List.Forall2
import RefSite.Markdown
import RefSite.Proofs.Text.Blank
import RefSite.Proofs.Text.Size

namespace RefSite.Markdown

open Text (Blank isBlank)

variable {code l out front behind : Text} {n d : Nat}

/-- The lines from the first that is not blank to the last. -/
def textLines (code : Text) : List Text :=
  ((Text.lines code).dropWhile fun l => Blank l).rdropWhile fun l => Blank l

/-- What becomes of a line: its text stays, and `n` characters of white space before it go. -/
structure Unindented (n : Nat) (line out : Text) : Prop where
  text : Text.trim out = Text.trim line
  front : ¬ Blank line → ∃ front behind, line = front ++ out ++ behind ∧ front.length = n ∧
    Blank front ∧ Blank behind

/-- The lines of the code are all there but for blank ones at its ends, and they have lost the same
number of characters before their text, one of them all that it had. -/
def Dedented (code out : Text) : Prop :=
  ∃ n, List.Forall₂ (Unindented n) (textLines code) (Text.lines out) ∧
    ∃ l ∈ Text.lines out, ∃ c ∈ l.head?, isBlank c = false

def leading (line : Text) : Text := line.takeWhile isBlank

/-- The first `n` characters of each line with text are white space of one size in bytes, and one
of the lines has no more. -/
def EvenlyIndented (code : Text) : Prop :=
  ∃ n d, (∀ l ∈ Text.lines code, ¬ Blank l →
      n ≤ (leading l).length ∧ Text.byteSize (l.take n) = d) ∧
    ∃ l ∈ Text.lines code, ¬ Blank l ∧ (leading l).length = n

theorem mem_lines_of_mem_textLines (h : l ∈ textLines code) : l ∈ Text.lines code :=
  (List.dropWhile_sublist _).subset ((List.rdropWhile_prefix _ _).subset h)

theorem mem_textLines (h : l ∈ Text.lines code) (text : ¬ Blank l) : l ∈ textLines code :=
  Text.mem_rdropWhile (Text.mem_dropWhile h (by simpa using text)) (by simpa using text)

theorem leading_append (h : Blank front) : leading (front ++ out) = front ++ leading out :=
  List.takeWhile_append_of_pos h

theorem leading_trimEnd (text : ¬ Blank l) : leading (Text.trimEnd l) = leading l := by
  obtain ⟨w, hw, hl⟩ := Text.exists_trimEnd l
  have hne : ¬ Blank (Text.trimEnd l) := by
    intro h
    rw [← hl, Text.blank_append] at text
    exact text ⟨h, hw⟩
  conv_rhs => rw [← hl]
  rw [leading, leading, List.takeWhile_append, if_neg]
  intro hlen
  have hself := List.takeWhile_eq_self_iff.mp
    ((List.takeWhile_prefix isBlank).eq_of_length hlen)
  exact hne hself

theorem take_append_leading (h : n ≤ (leading l).length) :
    l.take n ++ (leading l).drop n = leading l := by
  have htake : l.take n = (leading l).take n := by
    conv_lhs => rw [← List.takeWhile_append_dropWhile (p := isBlank) (l := l)]
    exact List.take_append_of_le_length h
  rw [htake, List.take_append_drop]

theorem blank_take (h : n ≤ (leading l).length) : Blank (l.take n) := by
  intro c hc
  have hmem : c ∈ leading l := by
    rw [← take_append_leading h]
    exact List.mem_append_left _ hc
  exact List.mem_takeWhile_imp hmem

theorem byteSize_take_le (h : n ≤ (leading l).length) :
    Text.byteSize (l.take n) ≤ indentation l := by
  change _ ≤ Text.byteSize (leading l)
  rw [← take_append_leading h, Text.byteSize_append]
  exact Nat.le_add_right _ _

/-- The line without `d` bytes in front, or nothing if a character goes on behind these bytes. -/
def cutLine (d : Nat) (line : Text) : Text := (Text.dropBytes? d (Text.trimEnd line)).getD []

def leastIndentation (code : Text) : Nat :=
  (((textLines code).filter fun l => ¬ Blank l).map indentation).min?.getD 0

theorem cutLine_of_blank (h : Blank l) : cutLine d l = [] := by
  rw [cutLine, Text.trimEnd_eq_nil_iff.mpr h]
  cases d <;> rfl

theorem exists_of_cutLine (h : cutLine d l ≠ []) :
    ∃ front, Text.trimEnd l = front ++ cutLine d l ∧ Text.byteSize front = d := by
  cases hdrop : Text.dropBytes? d (Text.trimEnd l) with
  | none =>
    rw [cutLine, hdrop] at h
    exact absurd rfl h
  | some r =>
    rw [cutLine, hdrop]
    exact Text.exists_of_dropBytes? hdrop

theorem cutLine_append (h : Blank behind) (text : ¬ Blank out) :
    cutLine (Text.byteSize front) (front ++ out ++ behind) = Text.trimEnd out := by
  rw [cutLine, Text.trimEnd_append_of_blank h, Text.trimEnd_append_of_not_blank text,
    Text.dropBytes?_append, Option.getD_some]

theorem mem_of_mem_cutLine {c : Char} (h : c ∈ cutLine d l) : c ∈ l := by
  obtain ⟨front, hfront, -⟩ := exists_of_cutLine (List.ne_nil_of_mem h)
  have hmem : c ∈ Text.trimEnd l := hfront ▸ List.mem_append_right front h
  exact (List.rdropWhile_prefix _ _).subset hmem

theorem trimEnd_cutLine (d : Nat) (l : Text) : Text.trimEnd (cutLine d l) = cutLine d l := by
  by_cases hne : cutLine d l = []
  · rw [hne]
    rfl
  · obtain ⟨front, hfront, -⟩ := exists_of_cutLine hne
    have hself := Text.trimEnd_trimEnd l
    rw [hfront, Text.trimEnd_eq, List.rdropWhile_eq_self_iff] at hself
    rw [Text.trimEnd_eq, List.rdropWhile_eq_self_iff]
    intro h
    rw [← List.getLast_append_of_ne_nil (List.append_ne_nil_of_right_ne_nil front h) h]
    exact hself _

theorem dropOuterEmpty_map_trimEnd (ls : List Text) :
    Text.dropOuterEmpty (ls.map Text.trimEnd) =
      ((ls.dropWhile fun l => Blank l).rdropWhile fun l => Blank l).map Text.trimEnd := by
  have hempty : List.isEmpty ∘ Text.trimEnd = fun l => decide (Blank l) := by
    funext l
    rw [Function.comp_apply, Bool.eq_iff_iff, List.isEmpty_iff, decide_eq_true_iff]
    exact Text.trimEnd_eq_nil_iff
  rw [Text.dropOuterEmpty, List.dropWhile_map, ← List.map_reverse, List.dropWhile_map,
    ← List.map_reverse, hempty]
  rfl

theorem filter_map_trimEnd (ls : List Text) :
    ((ls.map Text.trimEnd).filter (· ≠ [])).map indentation =
      (ls.filter fun l => ¬ Blank l).map indentation := by
  induction ls with
  | nil => rfl
  | cons l ls ih =>
    by_cases h : Blank l
    · simpa [Text.trimEnd_eq_nil_iff, h] using ih
    · have hsize : indentation (Text.trimEnd l) = indentation l :=
        congrArg Text.byteSize (leading_trimEnd h)
      simpa [Text.trimEnd_eq_nil_iff, h, hsize] using ih

theorem dedent_eq (code : Text) :
    dedent code = Text.unlines ((textLines code).map (cutLine (leastIndentation code))) := by
  have hls : Text.dropOuterEmpty ((Text.lines code).map Text.trimEnd) =
      (textLines code).map Text.trimEnd := dropOuterEmpty_map_trimEnd _
  rw [dedent]
  simp only [hls, filter_map_trimEnd, List.map_map]
  rfl

/-- Each line that dedenting keeps comes out as one line. -/
theorem lines_dedent (h : ∃ l ∈ Text.lines code, ¬ Blank l) :
    Text.lines (dedent code) = (textLines code).map (cutLine (leastIndentation code)) := by
  obtain ⟨l, hl, text⟩ := h
  rw [dedent_eq]
  apply Text.split_join
  · simpa using List.ne_nil_of_mem (mem_textLines hl text)
  · intro p hp hbreak
    obtain ⟨k, hk, rfl⟩ := List.mem_map.mp hp
    exact Text.notMem_of_mem_split (mem_lines_of_mem_textLines hk) (mem_of_mem_cutLine hbreak)

theorem mem_lines_dedent (h : l ∈ Text.lines (dedent code)) :
    l = [] ∨ ∃ k ∈ Text.lines code, l = cutLine (leastIndentation code) k := by
  by_cases text : ∃ l ∈ Text.lines code, ¬ Blank l
  · rw [lines_dedent text] at h
    obtain ⟨k, hk, rfl⟩ := List.mem_map.mp h
    exact .inr ⟨k, mem_lines_of_mem_textLines hk, rfl⟩
  · have hnone : (Text.lines code).dropWhile (fun l => Blank l) = [] := by
      rw [List.dropWhile_eq_nil_iff]
      intro l hl
      by_contra hblank
      exact text ⟨l, hl, by simpa using hblank⟩
    rw [dedent_eq, textLines, hnone] at h
    exact .inl (List.mem_singleton.mp h)

/-- Cutting a line at `d` bytes takes `n` characters if these are the same piece of the line. -/
theorem unindented_cutLine_iff (text : ¬ Blank l) :
    Unindented n l (cutLine d l) ↔ n ≤ (leading l).length ∧ Text.byteSize (l.take n) = d := by
  constructor
  · intro h
    have hout : ¬ Blank (cutLine d l) := by
      rwa [← Text.trim_eq_nil_iff, h.text, Text.trim_eq_nil_iff]
    have hne : cutLine d l ≠ [] := by
      intro hnil
      rw [hnil] at hout
      exact hout (List.forall_mem_nil _)
    obtain ⟨p, hp, hsize⟩ := exists_of_cutLine hne
    obtain ⟨front, behind, hl, hn, hfront, hbehind⟩ := h.front text
    -- both pieces stand before the same end of the trimmed line
    have hsame : front = p := by
      have htrim : Text.trimEnd l = front ++ cutLine d l := by
        conv_lhs => rw [hl]
        rw [Text.trimEnd_append_of_blank hbehind, Text.trimEnd_append_of_not_blank hout,
          trimEnd_cutLine]
      exact List.append_cancel_right (htrim.symm.trans hp)
    have htake : l.take n = front := by
      rw [hl, List.append_assoc, List.take_append_of_le_length (Nat.le_of_eq hn.symm), ← hn,
        List.take_length]
    refine ⟨?_, by rw [htake, hsame, hsize]⟩
    rw [hl, List.append_assoc, leading_append hfront, List.length_append, hn]
    exact Nat.le_add_right _ _
  · rintro ⟨hn, rfl⟩
    have hfront := blank_take hn
    have hrest : ¬ Blank (l.drop n) := by
      intro h
      apply text
      rw [← List.take_append_drop n l]
      exact Text.blank_append.mpr ⟨hfront, h⟩
    have hcut : cutLine (Text.byteSize (l.take n)) l = Text.trimEnd (l.drop n) := by
      have hcut := @cutLine_append (l.drop n) (l.take n) [] (List.forall_mem_nil _) hrest
      rwa [List.append_nil, List.take_append_drop] at hcut
    rw [hcut]
    refine ⟨?_, fun _ => ?_⟩
    · rw [Text.trim_trimEnd, ← Text.trim_append_left hfront, List.take_append_drop]
    · obtain ⟨behind, hbehind, hl⟩ := Text.exists_trimEnd (l.drop n)
      refine ⟨l.take n, behind, ?_, ?_, hfront, hbehind⟩
      · rw [List.append_assoc, hl, List.take_append_drop]
      · have hle : n ≤ l.length := hn.trans (List.takeWhile_prefix _).length_le
        rw [List.length_take, Nat.min_eq_left hle]

theorem unindented_cutLine_of_blank (h : Blank l) : Unindented n l (cutLine d l) where
  text := by
    rw [cutLine_of_blank h, Text.trim_eq_nil_iff.mpr h]
    rfl
  front := fun text => absurd h text

theorem leastIndentation_eq (h : l ∈ Text.lines code) (text : ¬ Blank l)
    (least : ∀ k ∈ Text.lines code, ¬ Blank k → indentation l ≤ indentation k) :
    leastIndentation code = indentation l := by
  rw [leastIndentation, List.min?_eq_some_iff.mpr, Option.getD_some]
  constructor
  · apply List.mem_map_of_mem
    simpa [text] using mem_textLines h text
  · intro b hb
    obtain ⟨k, hk, rfl⟩ := List.mem_map.mp hb
    obtain ⟨hk, hkt⟩ : k ∈ textLines code ∧ ¬ Blank k := by simpa using hk
    exact least k (mem_lines_of_mem_textLines hk) hkt

/-- In evenly indented code, the indentation to remove is the one that all lines share. -/
theorem leastIndentation_of_even
    (hall : ∀ k ∈ Text.lines code, ¬ Blank k →
      n ≤ (leading k).length ∧ Text.byteSize (k.take n) = d)
    (h : l ∈ Text.lines code) (text : ¬ Blank l) (hlead : (leading l).length = n) :
    leastIndentation code = d := by
  have hsize : indentation l = d := by
    rw [← (hall l h text).2, ← hlead]
    have htake := take_append_leading (Nat.le_refl (leading l).length)
    rw [List.drop_length, List.append_nil] at htake
    rw [htake]
    rfl
  rw [leastIndentation_eq h text, hsize]
  intro k hk hkt
  obtain ⟨hn, hd⟩ := hall k hk hkt
  rw [hsize, ← hd]
  exact byteSize_take_le hn

theorem Unindented.ne_nil (h : Unindented n l out) (text : ¬ Blank l) : out ≠ [] := by
  rintro rfl
  exact text (Text.trim_eq_nil_iff.mp h.text.symm)

/-- A line has lost all that was before its text just if it begins with text now. -/
theorem Unindented.length_leading_iff (h : Unindented n l out) (text : ¬ Blank l) :
    (leading l).length = n ↔ ∃ c ∈ out.head?, isBlank c = false := by
  obtain ⟨c, rest, rfl⟩ := List.exists_cons_of_ne_nil (h.ne_nil text)
  obtain ⟨front, behind, rfl, rfl, hfront, -⟩ := h.front text
  rw [List.append_assoc, leading_append hfront, List.length_append]
  cases hc : isBlank c <;> simp [leading, hc]

/-- Dedenting does to code what it should just if the code is evenly indented. -/
theorem dedent_iff (h : ∃ l ∈ Text.lines code, ¬ Blank l) :
    Dedented code (dedent code) ↔ EvenlyIndented code := by
  rw [Dedented, lines_dedent h]
  simp only [List.forall₂_map_right_iff, List.forall₂_same, List.mem_map]
  constructor
  · rintro ⟨n, hall, _, ⟨l, hl, rfl⟩, hhead⟩
    have text : ¬ Blank l := by
      intro hblank
      rw [cutLine_of_blank hblank] at hhead
      obtain ⟨c, hc, -⟩ := hhead
      cases hc
    refine ⟨n, leastIndentation code, ?_, l, mem_lines_of_mem_textLines hl, text, ?_⟩
    · intro k hk hkt
      exact (unindented_cutLine_iff hkt).mp (hall k (mem_textLines hk hkt))
    · exact ((hall l hl).length_leading_iff text).mpr hhead
  · rintro ⟨n, d, hall, l, hl, text, hlead⟩
    rw [leastIndentation_of_even hall hl text hlead]
    have hcut : ∀ k ∈ textLines code, Unindented n k (cutLine d k) := by
      intro k hk
      by_cases hkt : Blank k
      · exact unindented_cutLine_of_blank hkt
      · exact (unindented_cutLine_iff hkt).mpr (hall k (mem_lines_of_mem_textLines hk) hkt)
    have hl' := mem_textLines hl text
    exact ⟨n, hcut, cutLine d l, ⟨l, hl', rfl⟩, ((hcut l hl').length_leading_iff text).mp hlead⟩

/-- Tabs and spaces can be mixed in front of code, as long as the lines share them. -/
theorem dedented_nested :
    ∃ code : Text, (∃ l ∈ Text.lines code, ¬ Blank l) ∧
      Text.lines (dedent code) = ["if (a)", "", "\tgo();"] ∧ Dedented code (dedent code) := by
  have text : ∃ l ∈ Text.lines "\n  if (a)\n\n  \tgo();\n  ", ¬ Blank l := by decide
  exact ⟨_, text, by decide, (dedent_iff text).mpr ⟨2, 2, by decide, by decide⟩⟩

/-- Where white space of one byte stands beside wider white space, a line is lost, and others lose
different numbers of characters. -/
theorem exists_not_dedented :
    ∃ code : Text, (∃ l ∈ Text.lines code, ¬ Blank l) ∧
      textLines code = ["\u2003lost", "  kept", "\u00a0wide"] ∧
        Text.lines (dedent code) = ["", "kept", "wide"] ∧ ¬ Dedented code (dedent code) ∧
          ∀ n, ¬ (Unindented n "  kept" "kept" ∧ Unindented n "\u00a0wide" "wide") := by
  have hlines : textLines "\u2003lost\n  kept\n\u00a0wide" =
      ["\u2003lost", "  kept", "\u00a0wide"] := by decide
  have hout : Text.lines (dedent "\u2003lost\n  kept\n\u00a0wide") = ["", "kept", "wide"] := by
    decide
  refine ⟨"\u2003lost\n  kept\n\u00a0wide", by decide, hlines, hout, ?_, ?_⟩
  · rintro ⟨n, hall, -⟩
    rw [hlines, hout] at hall
    cases hall with
    | cons hlost _ => exact absurd hlost.text (by decide)
  · rintro n ⟨hkept, hwide⟩
    have htwo : 2 = n := (hkept.length_leading_iff (by decide)).mpr ⟨'k', rfl, by decide⟩
    have hone : 1 = n := (hwide.length_leading_iff (by decide)).mpr ⟨'w', rfl, by decide⟩
    omega

end RefSite.Markdown
