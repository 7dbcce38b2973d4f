import Mathlib.Data.List.Basic
import RefSite.Text.Basic

namespace RefSite.Text

variable {n : Nat} {s t r : Text}

theorem byteSize_append (s t : Text) : byteSize (s ++ t) = byteSize s + byteSize t := by
  induction s with
  | nil => exact (Nat.zero_add _).symm
  | cons c s ih =>
    change c.utf8Size + byteSize (s ++ t) = c.utf8Size + byteSize s + byteSize t
    rw [ih, Nat.add_assoc]

theorem byteSize_pos {t : Text} (h : t ≠ []) : 0 < byteSize t := by
  cases t with
  | nil => exact absurd rfl h
  | cons c t => exact Nat.add_pos_left (Char.utf8Size_pos c) _

theorem dropBytes?_zero (t : Text) : dropBytes? 0 t = some t := by
  cases t <;> rfl

/-- A whole number of characters is dropped. -/
theorem dropBytes?_append (s t : Text) : dropBytes? (byteSize s) (s ++ t) = some t := by
  induction s with
  | nil => exact dropBytes?_zero t
  | cons c s ih =>
    have hpos := Char.utf8Size_pos c
    have hne : byteSize (c :: s) ≠ 0 := Nat.ne_of_gt (byteSize_pos (List.cons_ne_nil c s))
    obtain ⟨m, hm⟩ := Nat.exists_eq_succ_of_ne_zero hne
    have hsize : c.utf8Size + byteSize s = m + 1 := hm
    rw [hm, List.cons_append, dropBytes?, if_pos (by omega), ← ih]
    congr 1
    omega

theorem exists_of_dropBytes? (h : dropBytes? n t = some r) : ∃ s, t = s ++ r ∧ byteSize s = n := by
  induction t generalizing n with
  | nil =>
    cases n with
    | zero => exact ⟨[], by simpa [dropBytes?] using h, rfl⟩
    | succ n => cases h
  | cons c t ih =>
    cases n with
    | zero => exact ⟨[], by simpa [dropBytes?] using h, rfl⟩
    | succ n =>
      rw [dropBytes?] at h
      split at h
      · rename_i hle
        obtain ⟨s, rfl, hs⟩ := ih h
        refine ⟨c :: s, rfl, ?_⟩
        change c.utf8Size + byteSize s = n + 1
        omega
      · cases h

end RefSite.Text
