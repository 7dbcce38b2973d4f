import Mathlib.Data.List.Basic
import RefSite.Proofs.Family

namespace RefSite.Family

variable {entries : List Entry} {e : Entry} {f : Family} {fs : List Family} {i : Nat}

/-- Texts are hashed as strings. -/
instance : Hashable Text := ⟨fun t => hash (String.ofList t)⟩

/-- Families, and the place of each by its owning type. -/
structure Indexed where
  places : Std.HashMap Text Nat := ∅
  families : List Family := []

namespace Indexed

/-- An entry goes to the place that the index has for its type. A type without a place gets one
behind all families. There is no result if the index leads beyond the families. -/
def add? (s : Indexed) (e : Entry) : Option Indexed :=
  match s.places[e.owningType]? with
  | some i => (s.families[i]?).map fun f =>
    { s with families := s.families.set i { f with entries := f.entries ++ [e] } }
  | none => some
    { places := s.places.insert e.owningType s.families.length
      families := s.families ++ [{ owningType := e.owningType, entries := [e] }] }

def gather? (entries : List Entry) : Option Indexed := entries.foldlM add? {}

/-- The index has the owning type of each family with its place, and nothing else. -/
def Exact (s : Indexed) : Prop :=
  ∀ k i, s.places[k]? = some i ↔ (s.families[i]?).map owningType = some k

end Indexed

theorem add_eq_set (hf : fs[i]? = some f) (hk : f.owningType = e.owningType)
    (first : ∀ j < i, (fs[j]?).map owningType ≠ some e.owningType) :
    add e fs = fs.set i { f with entries := f.entries ++ [e] } := by
  induction fs generalizing i with
  | nil => cases hf
  | cons g fs ih =>
    cases i with
    | zero =>
      obtain rfl := Option.some.inj hf
      rw [add, if_pos hk, List.set_cons_zero]
    | succ i =>
      have hg : g.owningType ≠ e.owningType := by simpa using first 0 (Nat.succ_pos i)
      have hrest : ∀ j < i, (fs[j]?).map owningType ≠ some e.owningType := fun j hj =>
        first (j + 1) (Nat.succ_lt_succ hj)
      rw [add, if_neg hg, List.set_cons_succ, ih hf hrest]

theorem add_eq_concat (h : ∀ f ∈ fs, f.owningType ≠ e.owningType) :
    add e fs = fs ++ [{ owningType := e.owningType, entries := [e] }] := by
  induction fs with
  | nil => rfl
  | cons g fs ih =>
    obtain ⟨hg, hfs⟩ := List.forall_mem_cons.mp h
    rw [add, if_neg hg, ih hfs, List.cons_append]

namespace Indexed

variable {s : Indexed}

theorem exact_empty : Exact {} := by
  intro k i
  simp

/-- The family at a place keeps its type, so the index need not change. -/
theorem Exact.set (h : s.Exact) (hf : s.families[i]? = some f) :
    Exact { s with families := s.families.set i { f with entries := f.entries ++ [e] } } := by
  intro k j
  rw [h k j]
  by_cases hij : i = j
  · subst hij
    obtain ⟨hlt, -⟩ := List.getElem?_eq_some_iff.mp hf
    rw [List.getElem?_set_self hlt, hf]
    rfl
  · rw [List.getElem?_set_ne hij]

theorem Exact.concat (h : s.Exact) (hnew : s.places[e.owningType]? = none) :
    Exact
      { places := s.places.insert e.owningType s.families.length
        families := s.families ++ [{ owningType := e.owningType, entries := [e] }] } := by
  intro k i
  rw [Std.HashMap.getElem?_insert]
  rcases Nat.lt_trichotomy i s.families.length with hi | rfl | hi
  · rw [List.getElem?_append_left hi, ← h k i]
    split_ifs with hk
    · obtain rfl := eq_of_beq hk
      simp [hnew, Nat.ne_of_gt hi]
    · rfl
  · rw [List.getElem?_concat_length]
    split_ifs with hk
    · simpa using eq_of_beq hk
    · have hbeyond : s.places[k]? ≠ some s.families.length := by simp [h k]
      simpa [hbeyond] using fun hek => hk (beq_of_eq hek)
  · have hbeyond : s.places[k]? ≠ some i := by simp [h k, Nat.le_of_lt hi]
    rw [List.getElem?_eq_none (by rw [List.length_append]; exact hi)]
    split_ifs
    · simp [Nat.ne_of_lt hi]
    · simpa using hbeyond

/-- One step finds its family, and does what looking through the families does. -/
theorem Exact.add? (h : s.Exact) (e : Entry) :
    ∃ s', s.add? e = some s' ∧ s'.families = add e s.families ∧ s'.Exact := by
  cases hplace : s.places[e.owningType]? with
  | some i =>
    obtain ⟨f, hf, hk⟩ := Option.map_eq_some_iff.mp ((h _ i).mp hplace)
    have first : ∀ j < i, (s.families[j]?).map owningType ≠ some e.owningType := by
      intro j hj hfound
      have hsame : some i = some j := hplace.symm.trans ((h _ j).mpr hfound)
      exact absurd (Option.some.inj hsame) (Nat.ne_of_gt hj)
    refine ⟨_, ?_, (add_eq_set hf hk first).symm, h.set hf⟩
    rw [Indexed.add?, hplace]
    exact congrArg (Option.map _) hf
  | none =>
    have hnew : ∀ f ∈ s.families, f.owningType ≠ e.owningType := by
      intro f hf hk
      obtain ⟨i, hi⟩ := List.mem_iff_getElem?.mp hf
      have hfound : s.places[e.owningType]? = some i := (h _ i).mpr (by rw [hi, ← hk]; rfl)
      rw [hplace] at hfound
      cases hfound
    refine ⟨_, ?_, (add_eq_concat hnew).symm, h.concat hplace⟩
    rw [Indexed.add?, hplace]

theorem Exact.foldlM (h : s.Exact) (entries : List Entry) :
    ∃ s', entries.foldlM Indexed.add? s = some s' ∧
      s'.families = entries.foldl (fun fs e => add e fs) s.families ∧ s'.Exact := by
  induction entries generalizing s with
  | nil => exact ⟨s, rfl, rfl, h⟩
  | cons e entries ih =>
    obtain ⟨t, ht, hfamilies, hexact⟩ := h.add? e
    obtain ⟨s', hs', hrun, hlast⟩ := ih hexact
    refine ⟨s', ?_, ?_, hlast⟩
    · rw [List.foldlM_cons, ht]
      exact hs'
    · rw [hrun, hfamilies, List.foldl_cons]

end Indexed

/-- An entry is added once, whichever family takes it. -/
theorem flatMap_entries_add (e : Entry) (fs : List Family) :
    ((add e fs).flatMap Family.entries).Perm (e :: fs.flatMap Family.entries) := by
  induction fs with
  | nil => exact .refl _
  | cons f fs ih =>
    rw [add]
    split
    · rw [List.flatMap_cons, List.flatMap_cons, List.append_assoc, List.singleton_append]
      exact List.perm_middle
    · rw [List.flatMap_cons, List.flatMap_cons]
      exact (ih.append_left f.entries).trans List.perm_middle

theorem flatMap_entries_gather (entries : List Entry) :
    ((gather entries).flatMap Family.entries).Perm entries := by
  induction entries using List.reverseRecOn with
  | nil => exact .refl _
  | append_singleton entries e ih =>
    rw [gather_append]
    have hlast := (List.perm_append_singleton e entries).symm
    exact (flatMap_entries_add e _).trans ((ih.cons e).trans hlast)

theorem ofOwner_of_mem_gather (h : f ∈ gather entries) :
    f.owningType ∈ owners entries ∧ f = ofOwner entries f.owningType := by
  rw [gather_eq] at h
  obtain ⟨k, hk, rfl⟩ := List.mem_map.mp h
  exact ⟨hk, rfl⟩

theorem ofOwner_mem_gather (h : e ∈ entries) : ofOwner entries e.owningType ∈ gather entries := by
  rw [gather_eq]
  exact List.mem_map_of_mem (mem_owners.mpr ⟨e, h, rfl⟩)

theorem mem_ofOwner {k : Text} :
    e ∈ (ofOwner entries k).entries ↔ e ∈ entries ∧ e.owningType = k := by
  rw [ofOwner, List.mem_filter, decide_eq_true_iff]

/-- The index never leads astray, and what is gathered is one family for each owning type in the
order in which the types are first seen, with the entries of the type in their order. So each entry
is in one family and as often as it was, no family is empty and no two are of one type. -/
theorem gather_partition (entries : List Entry) :
    (∃ s, Indexed.gather? entries = some s ∧ s.families = gather entries ∧ s.Exact) ∧
      (gather entries).map owningType = owners entries ∧ (owners entries).Nodup ∧
      (∀ f ∈ gather entries,
        f.entries = entries.filter (fun e => e.owningType = f.owningType) ∧ f.entries ≠ []) ∧
      (∀ e ∈ entries, ∃! f, f ∈ gather entries ∧ e ∈ f.entries) ∧
      ((gather entries).flatMap Family.entries).Perm entries := by
  refine ⟨Indexed.exact_empty.foldlM entries, ?_, nodup_owners entries, ?_, ?_,
    flatMap_entries_gather entries⟩
  · rw [gather_eq, List.map_map]
    exact List.map_id _
  · intro f hf
    obtain ⟨hk, hfamily⟩ := ofOwner_of_mem_gather hf
    obtain ⟨e, he, howner⟩ := mem_owners.mp hk
    refine ⟨congrArg Family.entries hfamily, ?_⟩
    rw [hfamily]
    exact List.ne_nil_of_mem (mem_ofOwner.mpr ⟨he, howner⟩)
  · intro e he
    refine ⟨ofOwner entries e.owningType, ⟨ofOwner_mem_gather he, mem_ofOwner.mpr ⟨he, rfl⟩⟩, ?_⟩
    rintro f ⟨hf, hef⟩
    obtain ⟨-, hfamily⟩ := ofOwner_of_mem_gather hf
    rw [hfamily] at hef
    rw [hfamily, (mem_ofOwner.mp hef).2]

end RefSite.Family
