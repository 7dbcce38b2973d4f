import Mathlib.Algebra.Group.Nat.Even
import RefSite.Proofs.Dedent
import RefSite.Proofs.Text.Split

namespace RefSite.Markdown

open Text (Blank)

variable {s above below code l : Text} {ls : List Text}

def openingFence : Text := "```csharp"

def closingFence : Text := "```"

def fenced (code : Text) : Text := openingFence ++ '\n' :: (dedent code ++ '\n' :: closingFence)

theorem codeBlock_eq (code : Text) : codeBlock code = '\n' :: (fenced code ++ ['\n']) := by
  have hopening : "\n```csharp\n".toList = '\n' :: (openingFence ++ ['\n']) := by decide
  have hclosing : "\n```\n".toList = '\n' :: (closingFence ++ ['\n']) := by decide
  unfold codeBlock fenced
  rw [hopening, hclosing]
  simp only [List.append_assoc, List.cons_append, List.nil_append]

theorem fenced_eq_cons (code : Text) : ∃ t, fenced code = '\x60' :: t :=
  ⟨_, rfl⟩

theorem fenced_eq_concat (code : Text) : ∃ t, fenced code = t ++ ['\x60'] := by
  have hclosing : closingFence = ['\x60', '\x60', '\x60'] := by decide
  refine ⟨openingFence ++ '\n' :: (dedent code ++ ['\n', '\x60', '\x60']), ?_⟩
  rw [fenced, hclosing]
  simp only [List.append_assoc, List.cons_append, List.nil_append]

/-- The line counts as a fence. -/
def IsFence (line : Text) : Prop := isFence (Text.trim line) = true

instance : DecidablePred IsFence := fun line =>
  inferInstanceAs (Decidable (isFence (Text.trim line) = true))

def fences (ls : List Text) : Nat := ls.countP fun l => IsFence l

theorem fences_eq_zero (h : ∀ l ∈ ls, ¬ IsFence l) : fences ls = 0 :=
  List.countP_eq_zero.mpr (by simpa using h)

def trimLine (inBlock : Bool) (line : Text) : Text :=
  if IsFence line then Text.trim line else if inBlock then Text.trimEnd line else Text.trim line

/-- Whether the line below is within a block. -/
def turn (inBlock : Bool) (line : Text) : Bool := if IsFence line then !inBlock else inBlock

theorem trimLines_cons (b : Bool) (l : Text) (ls : List Text) :
    trimLines b (l :: ls) = trimLine b l :: trimLines (turn b l) ls := by
  rw [trimLines, trimLine, turn]
  by_cases h : IsFence l
  · rw [if_pos h, if_pos h]
    exact if_pos h
  · rw [if_neg h, if_neg h]
    exact if_neg h

theorem trimLines_append (b : Bool) (ls ms : List Text) :
    trimLines b (ls ++ ms) = trimLines b ls ++ trimLines (ls.foldl turn b) ms := by
  induction ls generalizing b with
  | nil => rfl
  | cons l ls ih => rw [List.cons_append, trimLines_cons, ih, trimLines_cons, List.foldl_cons]; rfl

theorem foldl_turn_eq_iff (b : Bool) (ls : List Text) :
    ls.foldl turn b = b ↔ Even (fences ls) := by
  induction ls generalizing b with
  | nil => exact iff_of_true rfl Even.zero
  | cons l ls ih =>
    rw [List.foldl_cons, turn, fences, List.countP_cons]
    by_cases h : IsFence l
    · have hne : ls.foldl turn (!b) = b ↔ ¬ ls.foldl turn (!b) = !b := by
        cases ls.foldl turn (!b) <;> cases b <;> decide
      rw [if_pos h, hne, ih, if_pos (by simpa using h), Nat.even_add_one]
      rfl
    · rw [if_neg h, ih, if_neg (by simpa using h)]
      rfl

theorem trimLines_of_no_fence (b : Bool) (h : ∀ l ∈ ls, ¬ IsFence l) :
    trimLines b ls = ls.map (if b then Text.trimEnd else Text.trim) := by
  induction ls with
  | nil => rfl
  | cons l ls ih =>
    obtain ⟨hl, hls⟩ := List.forall_mem_cons.mp h
    rw [trimLines_cons, turn, trimLine, if_neg hl, if_neg hl, ih hls]
    cases b <;> rfl

theorem length_trimLines (b : Bool) (ls : List Text) : (trimLines b ls).length = ls.length := by
  induction ls generalizing b with
  | nil => rfl
  | cons l ls ih => rw [trimLines_cons, List.length_cons, List.length_cons, ih]

theorem trimEnd_of_mem_trimLines {b : Bool} (h : l ∈ trimLines b ls) : Text.trimEnd l = l := by
  induction ls generalizing b with
  | nil => cases h
  | cons k ls ih =>
    rw [trimLines_cons] at h
    rcases List.mem_cons.mp h with rfl | h
    · rw [trimLine]
      split_ifs <;> exact Text.trimEnd_trimEnd _
    · exact ih h

theorem foldl_turn_of_no_fence (b : Bool) (h : ∀ l ∈ ls, ¬ IsFence l) : ls.foldl turn b = b := by
  rw [foldl_turn_eq_iff, fences_eq_zero h]
  exact Even.zero

theorem IsFence.tick_mem (h : IsFence l) : '\x60' ∈ l :=
  Text.trim_subset l ((List.isPrefixOf_iff_prefix.mp h).subset (by decide))

theorem not_isFence_of_blank (h : Blank l) : ¬ IsFence l :=
  fun hfence => absurd (h _ hfence.tick_mem) (by decide)

theorem trim_closing (t : Text) : Text.trim (closingFence ++ t) = closingFence ++ Text.trimEnd t := by
  have hstart : Text.trimStart closingFence = closingFence := by decide
  rw [Text.trim, Text.trimStart_append_of_not_blank (by decide), hstart]
  by_cases h : Blank t
  · rw [Text.trimEnd_append_of_blank h, Text.trimEnd_eq_nil_iff.mpr h]
    decide
  · rw [Text.trimEnd_append_of_not_blank h]

theorem isFence_closing (t : Text) : IsFence (closingFence ++ t) := by
  rw [IsFence, trim_closing]
  exact List.isPrefixOf_iff_prefix.mpr (List.prefix_append _ _)

theorem isFence_opening (h : Blank s) : IsFence (s ++ openingFence) := by
  rw [IsFence, Text.trim_append_left h]
  decide

/-- A line comes out as the opening fence just if it shows nothing else. -/
theorem trimLine_opening_iff (b : Bool) (s : Text) :
    trimLine b (s ++ openingFence) = openingFence ↔ Blank s := by
  constructor
  · intro h
    by_contra hs
    have hend : Text.trimEnd openingFence = openingFence := by decide
    have hends : Text.trimEnd (s ++ openingFence) = s ++ openingFence := by
      rw [Text.trimEnd_append_of_not_blank (by decide), hend]
    have htrim : Text.trim (s ++ openingFence) = Text.trimStart s ++ openingFence := by
      rw [Text.trim, Text.trimStart_append_of_not_blank hs,
        Text.trimEnd_append_of_not_blank (by decide), hend]
    rw [trimLine, htrim, hends] at h
    split_ifs at h
    · exact hs (Text.trimStart_eq_nil_iff.mp (List.append_left_eq_self.mp h))
    · exact hs (List.append_left_eq_self.mp h ▸ List.forall_mem_nil _)
    · exact hs (Text.trimStart_eq_nil_iff.mp (List.append_left_eq_self.mp h))
  · intro h
    rw [trimLine, if_pos (isFence_opening h), Text.trim_append_left h]
    decide

theorem trimLine_closing_iff (b : Bool) (t : Text) :
    trimLine b (closingFence ++ t) = closingFence ↔ Blank t := by
  rw [trimLine, if_pos (isFence_closing t), trim_closing, List.append_right_eq_self,
    Text.trimEnd_eq_nil_iff]

theorem trimLine_eq_nil_iff (b : Bool) : trimLine b l = [] ↔ Blank l := by
  rw [trimLine]
  split_ifs
  · exact Text.trim_eq_nil_iff
  · exact Text.trimEnd_eq_nil_iff
  · exact Text.trim_eq_nil_iff

theorem trimLine_ne_nil (b : Bool) (h : '\x60' ∈ l) : trimLine b l ≠ [] := by
  rw [ne_eq, trimLine_eq_nil_iff]
  intro hblank
  exact absurd (hblank _ h) (by decide)

def linesAbove (above : Text) : List Text :=
  (trimLines false (Text.lines above).dropLast).dropWhile List.isEmpty

/-- Between what is above and what is below, the block comes out as it is. -/
def Verbatim (above code below : Text) : Prop :=
  ∃ rest, normalLines (above ++ fenced code ++ below) =
    linesAbove above ++ openingFence :: (Text.lines (dedent code) ++ closingFence :: rest)

/-- Neither fence shares its line with text of the comment. -/
def Alone (above below : Text) : Prop :=
  Blank (Text.afterLast '\n' above) ∧ Blank (Text.before '\n' below)

/-- No line of the dedented code has white space in front. -/
def Flush (code : Text) : Prop := ∀ l ∈ Text.lines (dedent code), Text.trim l = l

instance : Decidable (Alone above below) := inferInstanceAs (Decidable (_ ∧ _))

instance : DecidablePred Flush := fun code =>
  inferInstanceAs (Decidable (∀ l ∈ Text.lines (dedent code), Text.trim l = l))

theorem lines_fenced (above code below : Text) :
    Text.lines (above ++ fenced code ++ below) =
      (Text.lines above).dropLast ++ (Text.afterLast '\n' above ++ openingFence) ::
        (Text.lines (dedent code) ++ (closingFence ++ Text.before '\n' below) ::
          (Text.lines below).tail) := by
  have hform : above ++ fenced code ++ below = (above ++ openingFence) ++
      '\n' :: (dedent code ++ '\n' :: (closingFence ++ below)) := by
    simp only [fenced, List.append_assoc, List.cons_append]
  have hopening : '\n' ∉ openingFence := by decide
  rw [hform, Text.lines, Text.split_append_sep, Text.split_append_sep, Text.split_append_text,
    Text.before_of_not_mem hopening, Text.split_of_notMem hopening,
    Text.split_append_piece (by decide) (Text.split_eq_cons '\n' below), List.append_assoc]
  rfl

theorem trimEnd_of_mem_lines_dedent (h : l ∈ Text.lines (dedent code)) : Text.trimEnd l = l := by
  rcases mem_lines_dedent h with rfl | ⟨k, -, rfl⟩
  · rfl
  · exact trimEnd_cutLine _ k

theorem not_isFence_of_mem_lines_dedent (tickFree : '\x60' ∉ code)
    (h : l ∈ Text.lines (dedent code)) : ¬ IsFence l := by
  intro hfence
  rcases mem_lines_dedent h with rfl | ⟨k, hk, rfl⟩
  · exact List.not_mem_nil hfence.tick_mem
  · exact tickFree ((Text.infix_of_mem_split hk).subset (mem_of_mem_cutLine hfence.tick_mem))

/-- Lines without fences keep their indentation if they are within a block. -/
theorem trimLines_dedent_iff (b : Bool) (tickFree : '\x60' ∉ code) :
    trimLines b (Text.lines (dedent code)) = Text.lines (dedent code) ↔ b = true ∨ Flush code := by
  have hself (f : Text → Text) : (Text.lines (dedent code)).map f = Text.lines (dedent code) ↔
      ∀ l ∈ Text.lines (dedent code), f l = l := by
    have := List.map_inj_left (l := Text.lines (dedent code)) (f := f) (g := id)
    rwa [List.map_id] at this
  rw [trimLines_of_no_fence b fun _ => not_isFence_of_mem_lines_dedent tickFree]
  cases b with
  | true => exact iff_of_true ((hself _).mpr fun _ => trimEnd_of_mem_lines_dedent) (.inl rfl)
  | false => exact (hself _).trans (or_iff_right Bool.false_ne_true).symm

theorem fences_dropLast (h : Blank (Text.afterLast '\n' above)) :
    fences (Text.lines above).dropLast = fences (Text.lines above) := by
  have hlast := not_isFence_of_blank h
  conv_rhs => rw [Text.lines, Text.split_eq_concat]
  rw [fences, fences, List.countP_append, List.countP_singleton, if_neg (by simpa using hlast)]
  rfl

/-- A block on lines of its own adds two fences to those around it. -/
theorem fences_fenced (below : Text) (tickFree : '\x60' ∉ code)
    (h : Blank (Text.afterLast '\n' above)) :
    fences (Text.lines (above ++ fenced code ++ below)) =
      fences (Text.lines above) + fences (Text.lines below).tail + 2 := by
  have hopening := isFence_opening h
  have hclosing := isFence_closing (Text.before '\n' below)
  have hcode : fences (Text.lines (dedent code)) = 0 :=
    fences_eq_zero fun _ => not_isFence_of_mem_lines_dedent tickFree
  rw [← fences_dropLast h, lines_fenced]
  unfold fences at *
  rw [List.countP_append, List.countP_cons_of_pos (by simpa using hopening), List.countP_append,
    List.countP_cons_of_pos (by simpa using hclosing), hcode]
  omega

def opened (above : Text) : Bool :=
  turn ((Text.lines above).dropLast.foldl turn false) (Text.afterLast '\n' above ++ openingFence)

theorem opened_iff (h : Blank (Text.afterLast '\n' above)) :
    opened above = true ↔ Even (fences (Text.lines above)) := by
  rw [opened, turn, if_pos (isFence_opening h), Bool.not_eq_true', ← fences_dropLast h]
  exact foldl_turn_eq_iff false _

theorem normalLines_fenced (above below : Text) (tickFree : '\x60' ∉ code) :
    ∃ b rest, normalLines (above ++ fenced code ++ below) =
      linesAbove above ++ trimLine b (Text.afterLast '\n' above ++ openingFence) ::
        (trimLines (opened above) (Text.lines (dedent code)) ++
          trimLine (opened above) (closingFence ++ Text.before '\n' below) :: rest) := by
  have hopening : '\x60' ∈ Text.afterLast '\n' above ++ openingFence :=
    List.mem_append_right _ (by decide)
  have hclosing : '\x60' ∈ closingFence ++ Text.before '\n' below :=
    List.mem_append_left _ (by decide)
  rw [normalLines, lines_fenced, trimLines_append, trimLines_cons, trimLines_append,
    trimLines_cons, foldl_turn_of_no_fence _ fun _ => not_isFence_of_mem_lines_dedent tickFree]
  exact ⟨_, _, Text.dropOuterEmpty_append (trimLine_ne_nil _ hopening)
    (trimLine_ne_nil _ hclosing) _ _ _⟩

/-- A block comes out as it is just if each of its three parts does. -/
theorem verbatim_iff_parts (tickFree : '\x60' ∉ code) :
    Verbatim above code below ↔ Blank (Text.afterLast '\n' above) ∧
      trimLines (opened above) (Text.lines (dedent code)) = Text.lines (dedent code) ∧
        Blank (Text.before '\n' below) := by
  obtain ⟨b, rest, hlines⟩ := normalLines_fenced above below tickFree
  rw [Verbatim, hlines, ← trimLine_opening_iff b, ← trimLine_closing_iff (opened above)]
  constructor
  · rintro ⟨rest, h⟩
    obtain ⟨hopening, h⟩ := List.cons.inj (List.append_cancel_left h)
    -- the lines of the code have not become more or fewer, so the closing fences are side by side
    obtain ⟨hcode, h⟩ := List.append_inj h (length_trimLines _ _)
    exact ⟨hopening, hcode, (List.cons.inj h).1⟩
  · rintro ⟨hopening, hcode, hclosing⟩
    exact ⟨rest, by rw [hopening, hcode, hclosing]⟩

/-- A block comes out as it is just if its fences have lines of their own, and either there is no
fence above that is still open or the code has no indentation to lose. -/
theorem verbatim_iff (tickFree : '\x60' ∉ code) :
    Verbatim above code below ↔
      Alone above below ∧ (Even (fences (Text.lines above)) ∨ Flush code) := by
  rw [verbatim_iff_parts tickFree, trimLines_dedent_iff _ tickFree, Alone]
  constructor
  · rintro ⟨habove, hcode, hbelow⟩
    exact ⟨⟨habove, hbelow⟩, hcode.imp_left (opened_iff habove).mp⟩
  · rintro ⟨⟨habove, hbelow⟩, hcode⟩
    exact ⟨habove, hcode.imp_left (opened_iff habove).mpr, hbelow⟩

end RefSite.Markdown
