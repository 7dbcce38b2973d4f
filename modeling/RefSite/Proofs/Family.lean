import Mathlib.Data.List.Nodup
import RefSite.Family
import RefSite.Proofs.Identifier

namespace RefSite

/-- The owning types of entries, in the order in which they are first seen. -/
def owners (entries : List Entry) : List Text := (entries.map Entry.owningType).eraseDups

namespace Family

variable {entries : List Entry} {e : Entry} {k : Text}

def ofOwner (entries : List Entry) (k : Text) : Family where
  owningType := k
  entries := entries.filter fun e => e.owningType = k

theorem mem_owners : k ∈ owners entries ↔ ∃ e ∈ entries, e.owningType = k := by
  rw [owners, List.mem_eraseDups, List.mem_map]

theorem eraseDups_append_singleton (ks : List Text) (k : Text) :
    (ks ++ [k]).eraseDups = if k ∈ ks then ks.eraseDups else ks.eraseDups ++ [k] := by
  rw [List.eraseDups_append, List.removeAll]
  by_cases h : k ∈ ks <;> simp [h, List.eraseDups_cons]

theorem owners_append_of_mem (h : e.owningType ∈ owners entries) :
    owners (entries ++ [e]) = owners entries := by
  rw [owners, List.map_append, List.map_singleton, eraseDups_append_singleton,
    if_pos (List.mem_eraseDups.mp h)]
  rfl

theorem owners_append_of_not_mem (h : e.owningType ∉ owners entries) :
    owners (entries ++ [e]) = owners entries ++ [e.owningType] := by
  rw [owners, List.map_append, List.map_singleton, eraseDups_append_singleton,
    if_neg fun hm => h (List.mem_eraseDups.mpr hm)]
  rfl

theorem nodup_owners (entries : List Entry) : (owners entries).Nodup := by
  induction entries using List.reverseRecOn with
  | nil => exact List.nodup_nil
  | append_singleton entries e ih =>
    by_cases h : e.owningType ∈ owners entries
    · rwa [owners_append_of_mem h]
    · rw [owners_append_of_not_mem h, List.nodup_append]
      refine ⟨ih, List.nodup_singleton _, ?_⟩
      intro k hk l hl hkl
      subst hkl
      exact h (List.mem_singleton.mp hl ▸ hk)

theorem ofOwner_append_of_eq (h : e.owningType = k) :
    ofOwner (entries ++ [e]) k = ⟨k, (ofOwner entries k).entries ++ [e]⟩ := by
  simp [ofOwner, h]

theorem ofOwner_append_of_ne (h : e.owningType ≠ k) :
    ofOwner (entries ++ [e]) k = ofOwner entries k := by
  simp [ofOwner, h]

theorem ofOwner_of_not_mem (h : k ∉ owners entries) : (ofOwner entries k).entries = [] := by
  apply List.filter_eq_nil_iff.mpr
  intro e he hk
  apply h
  exact mem_owners.mpr ⟨e, he, by simpa using hk⟩

/-- An entry of a type that was seen goes to the family of the type. -/
theorem add_of_mem {ks : List Text} (distinct : ks.Nodup) (h : e.owningType ∈ ks) :
    add e (ks.map (ofOwner entries)) = ks.map (ofOwner (entries ++ [e])) := by
  induction ks with
  | nil => cases h
  | cons k ks ih =>
    obtain ⟨hk, distinct⟩ := List.nodup_cons.mp distinct
    rw [List.map_cons, List.map_cons, add]
    by_cases he : e.owningType = k
    · have hrest : ks.map (ofOwner entries) = ks.map (ofOwner (entries ++ [e])) :=
        List.map_congr_left fun l hl =>
          (ofOwner_append_of_ne (he.trans_ne fun hkl => hk (hkl ▸ hl))).symm
      rw [if_pos (show (ofOwner entries k).owningType = e.owningType from he.symm),
        ofOwner_append_of_eq he, hrest]
      rfl
    · have hmem : e.owningType ∈ ks := (List.mem_cons.mp h).resolve_left he
      rw [if_neg (show (ofOwner entries k).owningType ≠ e.owningType from Ne.symm he),
        ofOwner_append_of_ne he, ih distinct hmem]

/-- An entry of a type that was not seen makes a family of its own. -/
theorem add_of_not_mem {ks : List Text} (h : e.owningType ∉ ks) :
    add e (ks.map (ofOwner entries)) =
      ks.map (ofOwner (entries ++ [e])) ++ [⟨e.owningType, [e]⟩] := by
  induction ks with
  | nil => rfl
  | cons k ks ih =>
    obtain ⟨he, hks⟩ : e.owningType ≠ k ∧ e.owningType ∉ ks := by simpa using h
    rw [List.map_cons, List.map_cons, add,
      if_neg (show (ofOwner entries k).owningType ≠ e.owningType from Ne.symm he),
      ofOwner_append_of_ne he, ih hks]
    rfl

theorem gather_append (entries : List Entry) (e : Entry) :
    gather (entries ++ [e]) = add e (gather entries) := by
  rw [gather, List.foldl_append]
  rfl

/-- Gathering loses no entry and splits no family. -/
theorem gather_eq (entries : List Entry) :
    gather entries = (owners entries).map (ofOwner entries) := by
  induction entries using List.reverseRecOn with
  | nil => rfl
  | append_singleton entries e ih =>
    rw [gather_append, ih]
    by_cases h : e.owningType ∈ owners entries
    · rw [owners_append_of_mem h, add_of_mem (nodup_owners entries) h]
    · have hself : ofOwner (entries ++ [e]) e.owningType = ⟨e.owningType, [e]⟩ := by
        rw [ofOwner_append_of_eq rfl, ofOwner_of_not_mem h, List.nil_append]
      rw [owners_append_of_not_mem h, add_of_not_mem h, List.map_append, List.map_singleton, hself]

end Family

end RefSite
