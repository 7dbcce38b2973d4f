import RefSite.FileTree
import RefSite.Proofs.FileView

namespace RefSite.FileTree

variable {t t' : FileTree} {here there : Location} {node : FileNode} {p : Text} {content : ByteArray}

def file? (t : FileTree) (here : Location) : Option ByteArray :=
  match t.node? here with
  | some (.file content) => some content
  | _ => none

/-- The place that a path leads to as far as its text tells. -/
def place (t : FileTree) (p : Text) : Location :=
  (names p).foldl step (if Path.isAbsolute p then [] else t.workingFolder)

theorem eq_of_walk {ns : List Text} (h : t.walk here ns = .ok there) :
    there = ns.foldl step here := by
  induction ns generalizing here with
  | nil => exact (Except.ok.inj h).symm
  | cons name ns ih =>
    rw [walk] at h
    split at h
    · cases h
    · cases h
    · split at h
      · exact ih h
      · cases h

theorem eq_place_of_locate (h : t.locate p = .ok here) : here = t.place p := by
  unfold locate at h
  split at h
  · cases h
  split at h
  · cases h
  split at h
  · cases h
  · exact eq_of_walk h

theorem lookup_cons_of_ne (h : there ≠ here) (nodes : List (Location × FileNode)) :
    List.lookup there ((here, node) :: nodes) = nodes.lookup there := by
  rw [List.lookup_cons, beq_eq_false_iff_ne.mpr h]

theorem lookup_replaced (nodes : List (Location × FileNode)) (here there : Location)
    (node : FileNode) :
    (nodes.map fun entry => if entry.1 = here then (here, node) else entry).lookup there =
      if there = here then (nodes.lookup here).map fun _ => node else nodes.lookup there := by
  induction nodes with
  | nil => simp
  | cons entry nodes ih =>
    obtain ⟨l, old⟩ := entry
    rw [List.map_cons]
    by_cases hl : l = here
    · rw [if_pos hl, hl, List.lookup_cons_self]
      by_cases hth : there = here
      · rw [hth, if_pos rfl, List.lookup_cons_self]
        rfl
      · rw [lookup_cons_of_ne hth, lookup_cons_of_ne hth, ih, if_neg hth, if_neg hth]
    · rw [if_neg hl, lookup_cons_of_ne (Ne.symm hl)]
      by_cases hth : there = l
      · rw [hth, List.lookup_cons_self, List.lookup_cons_self, if_neg hl]
      · rw [lookup_cons_of_ne hth, lookup_cons_of_ne hth, ih]

theorem lookup_put (t : FileTree) (here there : Location) (node : FileNode) :
    (t.put here node).nodes.lookup there =
      if there = here then some node else t.nodes.lookup there := by
  cases hold : t.nodes.lookup here with
  | some old =>
    have hany : t.nodes.any (·.1 = here) = true := by
      obtain ⟨l, r, hnodes, -⟩ := List.lookup_eq_some_iff.mp hold
      simp [hnodes]
    rw [put, if_pos hany, lookup_replaced, hold]
    rfl
  | none =>
    have hany : ¬ t.nodes.any (·.1 = here) = true := by
      intro hany
      obtain ⟨entry, hentry, he⟩ := List.any_eq_true.mp hany
      have hne : here ≠ entry.1 := bne_iff_ne.mp (List.lookup_eq_none_iff.mp hold entry hentry)
      exact hne (of_decide_eq_true he).symm
    rw [put, if_neg hany, List.lookup_append]
    by_cases hth : there = here
    · rw [hth, hold, if_pos rfl]
      exact List.lookup_cons_self
    · rw [lookup_cons_of_ne hth, if_neg hth]
      exact Option.or_none

theorem node?_put (h : here ≠ []) (there : Location) :
    (t.put here node).node? there = if there = here then some node else t.node? there := by
  cases there with
  | nil => rw [if_neg (Ne.symm h)]; rfl
  | cons name there => exact lookup_put t here (name :: there) node

theorem workingFolder_put : (t.put here node).workingFolder = t.workingFolder := by
  unfold put
  split <;> rfl

theorem place_put : (t.put here node).place = t.place := by
  funext p
  rw [place, place, workingFolder_put]

theorem file?_put (h : here ≠ []) :
    (t.put here (.file content)).file? = Function.update t.file? here (some content) := by
  funext there
  rw [file?, node?_put h]
  by_cases hth : there = here
  · rw [if_pos hth, hth, Function.update_self]
  · rw [if_neg hth, Function.update_of_ne hth]
    rfl

/-- A folder where there was nothing is no file. -/
theorem file?_put_folder (h : t.node? here = none) : (t.put here .folder).file? = t.file? := by
  have hne : here ≠ [] := by
    rintro rfl
    cases h
  funext there
  rw [file?, node?_put hne]
  by_cases hth : there = here
  · rw [if_pos hth, hth, file?, h]
  · rw [if_neg hth]
    rfl

theorem eq_put_of_makeFolder (h : t.makeFolder p = .ok t') :
    ∃ here, t.node? here = none ∧ t' = t.put here .folder := by
  unfold makeFolder at h
  cases hhere : t.locate (if p.all (· = '/') then p else (p.reverse.dropWhile (· = '/')).reverse) with
  | error fault =>
    rw [hhere] at h
    cases h
  | ok here =>
    rw [hhere] at h
    dsimp only [bind, Except.bind] at h
    split at h
    · cases h
    · rename_i hnode
      exact ⟨here, hnode, (Except.ok.inj h).symm⟩

theorem eq_put_of_write {text : Text} (h : t.write p text = .ok t') :
    t.place p ≠ [] ∧ t' = t.put (t.place p) (.file (String.ofList text).toUTF8) := by
  unfold write at h
  cases hhere : t.locate p with
  | error fault =>
    rw [hhere] at h
    cases h
  | ok here =>
    obtain rfl := eq_place_of_locate hhere
    rw [hhere] at h
    dsimp only [bind, Except.bind] at h
    split at h
    · cases h
    · rename_i hfolder
      refine ⟨?_, (Except.ok.inj h).symm⟩
      intro hnil
      rw [hnil] at hfolder
      exact hfolder rfl

/-- What a change keeps where it succeeds, its update keeps in any case. -/
theorem update_keeps {α : Type} (part : FileTree → α) {change : FileTree → Except FileFault FileTree}
    (h : ∀ t', change t = .ok t' → part t' = part t) : part (update change t).2 = part t := by
  unfold update
  split
  · rename_i t' changed
    exact h t' changed
  · rfl

/-- A tree as a store of files. -/
def view : FileView FileTree where
  Place := Location
  file? := file?
  place := place
  looks_workingFolder _ := rfl
  looks_has _ _ := rfl
  looks_isFolder _ _ := rfl
  looks_read _ _ := rfl
  file?_makeFolder path t := by
    refine update_keeps file? fun t' made => ?_
    obtain ⟨here, hnone, rfl⟩ := eq_put_of_makeFolder made
    exact file?_put_folder hnone
  place_makeFolder path t := by
    refine update_keeps place fun t' made => ?_
    obtain ⟨here, -, rfl⟩ := eq_put_of_makeFolder made
    exact place_put
  file?_write path text t := by
    change (update (·.write path text) t).1 = _ → file? (update (·.write path text) t).2 = _
    unfold update
    split
    · rename_i wrote
      obtain ⟨hne, rfl⟩ := eq_put_of_write wrote
      intro _
      exact file?_put hne
    · nofun
  file?_write_error path text t fault := by
    change (update (·.write path text) t).1 = _ → file? (update (·.write path text) t).2 = _
    unfold update
    split
    · nofun
    · intro _
      rfl
  place_write path text t := by
    refine update_keeps place fun t' wrote => ?_
    obtain ⟨-, rfl⟩ := eq_put_of_write wrote
    exact place_put

end RefSite.FileTree
