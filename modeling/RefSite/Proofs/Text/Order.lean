import Mathlib.Data.UInt
import RefSite.Text.Basic

namespace RefSite.Text

variable {a b c : Text}

/-- The bytes of the one text come before those of the other. -/
def Precedes (a b : Text) : Prop := utf8 a < utf8 b

theorem utf8_injective (h : utf8 a = utf8 b) : a = b := by
  have hbytes : a.utf8Encode = b.utf8Encode := congrArg List.toByteArray h
  have hstring : String.ofList a = String.ofList b := String.toByteArray_inj.mp hbytes
  exact String.ofList_injective hstring

theorem le_iff : le a b = true ↔ utf8 a ≤ utf8 b := decide_eq_true_iff

theorem le_refl (a : Text) : le a a = true := le_iff.mpr (List.le_refl _)

theorem le_trans (hab : le a b = true) (hbc : le b c = true) : le a c = true :=
  le_iff.mpr (List.le_trans (le_iff.mp hab) (le_iff.mp hbc))

theorem le_total (a b : Text) : le a b = true ∨ le b a = true := by
  rw [le_iff, le_iff]
  exact List.le_total _ _

theorem le_antisymm (hab : le a b = true) (hba : le b a = true) : a = b :=
  utf8_injective (List.le_antisymm (le_iff.mp hab) (le_iff.mp hba))

theorem precedes_iff : Precedes a b ↔ le a b = true ∧ a ≠ b := by
  constructor
  · intro h
    refine ⟨le_iff.mpr (List.le_of_lt h), ?_⟩
    rintro rfl
    exact List.lt_irrefl _ h
  · intro ⟨hle, hne⟩
    unfold Precedes
    by_contra hlt
    exact hne (le_antisymm hle (le_iff.mpr (List.not_lt.mp hlt)))

theorem Precedes.ne (h : Precedes a b) : a ≠ b := (precedes_iff.mp h).2

theorem Precedes.not_symm (h : Precedes a b) : ¬ Precedes b a := by
  intro h'
  exact h.ne (le_antisymm (precedes_iff.mp h).1 (precedes_iff.mp h').1)

/-- A text comes before all that go on behind it. -/
theorem precedes_append (a : Text) (h : b ≠ []) : Precedes a (a ++ b) := by
  rw [precedes_iff]
  constructor
  · rw [le_iff, utf8, utf8, List.flatMap_append]
    exact List.le_append_left
  · intro he
    exact h (List.self_eq_append_right.mp he)

end RefSite.Text
