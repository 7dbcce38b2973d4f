import Mathlib.Data.List.Basic
import RefSite.Markdown

namespace RefSite.Markdown

variable {t : Text} {c : Char}

theorem mem_escapeHtml_iff (hc : c ∉ "<>&amp;&lt;&gt;".toList) : c ∈ escapeHtml t ↔ c ∈ t := by
  induction t with
  | nil => rfl
  | cons d t ih =>
    rw [escapeHtml, List.flatMap_cons, List.mem_append, List.mem_cons]
    refine or_congr ?_ ih
    split_ifs with h₁ h₂ h₃ <;> simp_all

theorem escapeHtml_ne_nil (h : t ≠ []) : escapeHtml t ≠ [] := by
  obtain ⟨c, t, rfl⟩ := List.exists_cons_of_ne_nil h
  rw [escapeHtml, List.flatMap_cons]
  apply List.append_ne_nil_of_left_ne_nil
  split_ifs
  · decide
  · decide
  · decide
  · exact List.cons_ne_nil c []

theorem escapeTicks_of_not_mem (h : '\x60' ∉ t) : escapeTicks t = t := by
  induction t with
  | nil => rfl
  | cons c t ih =>
    obtain ⟨hc, ht⟩ : '\x60' ≠ c ∧ '\x60' ∉ t := by simpa using h
    rw [escapeTicks, Text.replace, List.flatMap_cons, if_neg (Ne.symm hc)]
    exact congrArg (c :: ·) (ih ht)

end RefSite.Markdown
