import Mathlib.Data.List.Basic
import RefSite.Proofs.Text.Split
import RefSite.Text.Lowercase

namespace RefSite.Text

variable {past rest t : Text} {c d : Char}

/-- The runs begin at the capital letters and lead to small letters or beyond. -/
def CaseRun.Above (r : CaseRun) : Prop :=
  65 ≤ r.first ∧ 97 ≤ r.first + r.shift ∧
    (r.last + r.shift < 0xd800 ∨ 0xe000 ≤ r.first + r.shift ∧ r.last + r.shift < 0x110000)

instance (r : CaseRun) : Decidable r.Above :=
  inferInstanceAs (Decidable (_ ∧ _ ∧ (_ ∨ _ ∧ _)))

theorem above_of_mem : ∀ r ∈ lowerRuns, r.Above := by decide +kernel

theorem CaseRun.Above.lowered?_of_lt {r : CaseRun} (h : r.Above) {n : Nat} (hn : n < 65) :
    r.lowered? n = none := by
  obtain ⟨hfirst, -⟩ := h
  exact if_neg fun ⟨hle, _⟩ => by omega

theorem CaseRun.Above.le_toNat {r : CaseRun} (h : r.Above) {n : Nat} (hd : r.lowered? n = some d) :
    97 ≤ d.toNat := by
  obtain ⟨-, hshift, hvalid⟩ := h
  unfold lowered? at hd
  split at hd
  · rename_i hn
    obtain ⟨hfirst, hlast, -⟩ := hn
    obtain rfl := Option.some.inj hd
    have hle : 97 ≤ (n + r.shift).toNat := by omega
    have hchar : (n + r.shift).toNat.isValidChar := by
      unfold Nat.isValidChar
      omega
    rwa [Char.ofNat, dif_pos hchar]
  · cases hd

theorem lowered?_of_lt {n : Nat} (hn : n < 65) : lowerRuns.findSome? (·.lowered? n) = none := by
  rw [List.findSome?_eq_none_iff]
  exact fun r hr => (above_of_mem r hr).lowered?_of_lt hn

theorem lowerChar_of_lt (hc : c.toNat < 65) : lowerChar past c rest = [c] := by
  have hsigma : c ≠ 'Σ' := by
    rintro rfl
    exact absurd hc (by decide)
  have hdotted : c ≠ 'İ' := by
    rintro rfl
    exact absurd hc (by decide)
  rw [lowerChar, if_neg hsigma, if_neg hdotted, lowered?_of_lt hc]
  rfl

/-- What is before the small letters has not been changed, so it is no capital letter. -/
theorem eq_of_mem_lowerChar (h : d ∈ lowerChar past c rest) (hd : d.toNat < 97) :
    d = c ∧ ¬ (65 ≤ c.toNat ∧ c.toNat ≤ 90) := by
  unfold lowerChar at h
  split at h
  · split at h <;> obtain rfl := List.mem_singleton.mp h <;> exact absurd hd (by decide)
  split at h
  · rcases List.mem_cons.mp h with rfl | h
    · exact absurd hd (by decide)
    · obtain rfl := List.mem_singleton.mp h
      exact absurd hd (by decide)
  · have he := List.mem_singleton.mp h
    cases hf : lowerRuns.findSome? (·.lowered? c.toNat) with
    | none =>
      rw [hf] at he
      refine ⟨he, ?_⟩
      intro hcap
      have hrun := List.findSome?_eq_none_iff.mp hf ⟨0x41, 0x5a, 1, 32⟩ List.mem_cons_self
      exact absurd hrun (by simp [CaseRun.lowered?, hcap, Nat.mod_one])
    | some d' =>
      rw [hf] at he
      obtain ⟨r, hr, hrd⟩ := List.exists_of_findSome?_eq_some hf
      have := (above_of_mem r hr).le_toNat hrd
      rw [he] at hd
      exact absurd hd (by simpa using this)

theorem lowerChar_ne_nil : lowerChar past c rest ≠ [] := by
  unfold lowerChar
  split
  · split <;> simp
  · split <;> simp

theorem not_mem_lower_go (hd : 65 ≤ d.toNat ∧ d.toNat ≤ 90) : d ∉ lower.go past t := by
  induction t generalizing past with
  | nil => simp [lower.go]
  | cons c t ih =>
    rw [lower.go, List.mem_append, not_or]
    refine ⟨?_, ih⟩
    intro h
    obtain ⟨rfl, hc⟩ := eq_of_mem_lowerChar h (by omega)
    exact hc hd

theorem not_mem_lower (hd : 65 ≤ d.toNat ∧ d.toNat ≤ 90) : d ∉ lower t := not_mem_lower_go hd

/-- Characters before the letters are the same in lower case. -/
theorem mem_lower_go_iff (hc : c.toNat < 65) : c ∈ lower.go past t ↔ c ∈ t := by
  induction t generalizing past with
  | nil => simp [lower.go]
  | cons b t ih =>
    rw [lower.go, List.mem_append, ih, List.mem_cons]
    refine or_congr_left ⟨fun h => (eq_of_mem_lowerChar h (by omega)).1, ?_⟩
    rintro rfl
    rw [lowerChar_of_lt hc]
    exact List.mem_cons_self

theorem mem_lower_iff (hc : c.toNat < 65) : c ∈ lower t ↔ c ∈ t := mem_lower_go_iff hc

theorem sameDots_lower_go : SameDots (lower.go past t) t := by
  induction t generalizing past with
  | nil => exact .nil
  | cons c t ih =>
    rw [lower.go]
    by_cases hc : c = '.'
    · subst hc
      rw [lowerChar_of_lt (by decide)]
      exact .dot ih
    · refine .piece (w := [c]) lowerChar_ne_nil (by simp) ?_ (by simpa using Ne.symm hc) ih
      intro h
      exact hc (eq_of_mem_lowerChar h (by decide)).1.symm

theorem sameDots_lower (t : Text) : SameDots (lower t) t := sameDots_lower_go

end RefSite.Text
