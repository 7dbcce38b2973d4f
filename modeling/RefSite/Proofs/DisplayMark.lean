import Mathlib.Data.List.Basic
import RefSite.NameForm

namespace RefSite.NameForm

variable {b r t : Text} {c : Char}

/-- What can follow the last character of a dotted segment. -/
def AtSegmentEnd (b : Text) : Prop := b = [] ∨ ∃ r, b = '.' :: r

/-- The text begins with a mark in display form, and the mark closes a segment. -/
def BeginsWithDisplayMark (t : Text) : Prop := ∃ b, t = '<' :: 'T' :: '>' :: b ∧ AtSegmentEnd b

/-- A mark in display form closes some segment of the text. -/
def HasDisplayMark (t : Text) : Prop := ∃ a b, t = a ++ '<' :: 'T' :: '>' :: b ∧ AtSegmentEnd b

theorem displayOfEscaped_mark (h : AtSegmentEnd b) :
    displayOfEscaped ('_' :: 'T' :: b) = '<' :: 'T' :: '>' :: displayOfEscaped b := by
  obtain rfl | ⟨r, rfl⟩ := h
  · rfl
  · rw [displayOfEscaped, displayOfEscaped.eq_4 _ _ (by simp) (by simp)]

theorem escapedOfDisplay_mark (h : AtSegmentEnd b) :
    escapedOfDisplay ('<' :: 'T' :: '>' :: b) = '_' :: 'T' :: escapedOfDisplay b := by
  obtain rfl | ⟨r, rfl⟩ := h
  · rfl
  · rw [escapedOfDisplay, escapedOfDisplay.eq_4 _ _ (by simp) (by simp)]

theorem displayOfEscaped_cons_cases (c : Char) (t : Text) :
    (∃ b, AtSegmentEnd b ∧ c :: t = '_' :: 'T' :: b) ∨
      displayOfEscaped (c :: t) = c :: displayOfEscaped t := by
  by_cases h : ∃ b, AtSegmentEnd b ∧ c :: t = '_' :: 'T' :: b
  · exact .inl h
  · right
    apply displayOfEscaped.eq_4
    · rintro r rfl rfl
      exact h ⟨_, .inr ⟨r, rfl⟩, rfl⟩
    · rintro rfl rfl
      exact h ⟨[], .inl rfl, rfl⟩

theorem escapedOfDisplay_cons (h : ¬ BeginsWithDisplayMark (c :: t)) :
    escapedOfDisplay (c :: t) = c :: escapedOfDisplay t := by
  apply escapedOfDisplay.eq_4
  · rintro r rfl rfl
    exact h ⟨_, rfl, .inr ⟨r, rfl⟩⟩
  · rintro rfl rfl
    exact h ⟨[], rfl, .inl rfl⟩

/-- What is written begins with a bracket, so any other character was there before. -/
theorem exists_of_displayOfEscaped_cons (h : displayOfEscaped t = c :: r) (hc : c ≠ '<') :
    ∃ s, t = c :: s ∧ displayOfEscaped s = r := by
  cases t with
  | nil => cases h
  | cons d t =>
    obtain ⟨b, hb, he⟩ | hkeep := displayOfEscaped_cons_cases d t
    · rw [he, displayOfEscaped_mark hb] at h
      exact absurd (List.cons.inj h).1.symm hc
    · obtain ⟨rfl, hr⟩ := List.cons.inj (hkeep.symm.trans h)
      exact ⟨t, rfl, hr⟩

theorem atSegmentEnd_displayOfEscaped_iff :
    AtSegmentEnd (displayOfEscaped b) ↔ AtSegmentEnd b := by
  constructor
  · rintro (h | ⟨r, h⟩)
    · cases b with
      | nil => exact .inl rfl
      | cons d t =>
        obtain ⟨b, hb, he⟩ | hkeep := displayOfEscaped_cons_cases d t
        · rw [he, displayOfEscaped_mark hb] at h
          cases h
        · rw [hkeep] at h
          cases h
    · obtain ⟨s, rfl, -⟩ := exists_of_displayOfEscaped_cons h (by decide)
      exact .inr ⟨s, rfl⟩
  · rintro (rfl | ⟨r, rfl⟩)
    · exact .inl rfl
    · exact .inr ⟨displayOfEscaped r, displayOfEscaped.eq_4 _ _ (by simp) (by simp)⟩

/-- The way there makes no mark out of parts of a text and of what it writes. -/
theorem BeginsWithDisplayMark.of_displayOfEscaped
    (h : BeginsWithDisplayMark (c :: displayOfEscaped t)) : BeginsWithDisplayMark (c :: t) := by
  obtain ⟨b, he, hb⟩ := h
  obtain ⟨rfl, hletter⟩ := List.cons.inj he
  obtain ⟨s, rfl, hs⟩ := exists_of_displayOfEscaped_cons hletter (by decide)
  obtain ⟨s, rfl, rfl⟩ := exists_of_displayOfEscaped_cons hs (by decide)
  exact ⟨s, rfl, atSegmentEnd_displayOfEscaped_iff.mp hb⟩

/-- The way back undoes the way there, and does to the rest of the text what it does without it. -/
theorem escapedOfDisplay_displayOfEscaped :
    ∀ t : Text, escapedOfDisplay (displayOfEscaped t) = escapedOfDisplay t
  | [] => rfl
  | c :: t => by
    by_cases hmark : BeginsWithDisplayMark (c :: t)
    · obtain ⟨b, he, hb⟩ := hmark
      have hkeep : displayOfEscaped ('<' :: 'T' :: '>' :: b) =
          '<' :: 'T' :: '>' :: displayOfEscaped b := by simp [displayOfEscaped]
      have hshort : b.length < (c :: t).length := by
        simp only [he, List.length_cons]
        omega
      rw [he, hkeep, escapedOfDisplay_mark hb,
        escapedOfDisplay_mark (atSegmentEnd_displayOfEscaped_iff.mpr hb),
        escapedOfDisplay_displayOfEscaped b]
    · obtain ⟨b, hb, he⟩ | hkeep := displayOfEscaped_cons_cases c t
      · have hkeep : escapedOfDisplay ('_' :: 'T' :: b) = '_' :: 'T' :: escapedOfDisplay b := by
          simp [escapedOfDisplay]
        have hshort : b.length < (c :: t).length := by
          simp only [he, List.length_cons]
          omega
        rw [he, displayOfEscaped_mark hb, hkeep,
          escapedOfDisplay_mark (atSegmentEnd_displayOfEscaped_iff.mpr hb),
          escapedOfDisplay_displayOfEscaped b]
      · rw [hkeep, escapedOfDisplay_cons hmark,
          escapedOfDisplay_cons (mt BeginsWithDisplayMark.of_displayOfEscaped hmark),
          escapedOfDisplay_displayOfEscaped t]
termination_by t => t.length
decreasing_by
  · exact hshort
  · exact hshort
  · exact Nat.lt_succ_self _

theorem hasDisplayMark_cons_iff :
    HasDisplayMark (c :: t) ↔ BeginsWithDisplayMark (c :: t) ∨ HasDisplayMark t := by
  constructor
  · rintro ⟨a, b, he, hb⟩
    cases a with
    | nil => exact .inl ⟨b, he, hb⟩
    | cons d a => exact .inr ⟨a, b, (List.cons.inj he).2, hb⟩
  · rintro (⟨b, he, hb⟩ | ⟨a, b, rfl, hb⟩)
    · exact ⟨[], b, he, hb⟩
    · exact ⟨c :: a, b, rfl, hb⟩

theorem escapedOfDisplay_eq_self_iff : escapedOfDisplay t = t ↔ ¬ HasDisplayMark t := by
  induction t with
  | nil => exact iff_of_true rfl fun ⟨a, b, he, _⟩ => by simp at he
  | cons c t ih =>
    rw [hasDisplayMark_cons_iff]
    by_cases hmark : BeginsWithDisplayMark (c :: t)
    · refine iff_of_false ?_ (not_not_intro (.inl hmark))
      obtain ⟨b, he, hb⟩ := hmark
      rw [he, escapedOfDisplay_mark hb]
      intro h
      exact absurd (List.cons.inj h).1 (by decide)
    · rw [escapedOfDisplay_cons hmark, List.cons_inj_right, ih, not_or]
      exact ⟨fun h => ⟨hmark, h⟩, And.right⟩

/-- A text comes back from its display form just if no segment of it was closed by a mark in display
form to begin with. -/
theorem escapedOfDisplay_displayOfEscaped_eq_self_iff (t : Text) :
    escapedOfDisplay (displayOfEscaped t) = t ↔ ¬ HasDisplayMark t := by
  rw [escapedOfDisplay_displayOfEscaped, escapedOfDisplay_eq_self_iff]

example : escapedOfDisplay (displayOfEscaped "List<T>.Node_T.<T>_T".toList) =
    "List_T.Node_T.<T>_T".toList := by decide

end RefSite.NameForm
