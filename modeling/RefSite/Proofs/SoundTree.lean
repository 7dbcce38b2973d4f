import RefSite.Proofs.FileTree
import RefSite.Proofs.Path

namespace RefSite

namespace FileTree

variable {t t' : FileTree} {here there l : Location} {node : FileNode} {p : Text}

/-- What the name of a file or a folder can be. -/
structure ProperName (n : Text) : Prop where
  nonempty : n ≠ []
  dot : n ≠ ['.']
  dots : n ≠ ['.', '.']
  slash : '/' ∉ n
  nul : '\x00' ∉ n
  short : Text.byteSize n ≤ nameLimit

/-- What is there lies in folders and has a name that a path can give, and the working folder is
there. -/
structure Sound (t : FileTree) : Prop where
  workingFolder : t.node? t.workingFolder = some .folder
  inFolder : ∀ {n here node}, t.node? (n :: here) = some node → t.node? here = some .folder
  proper : ∀ {n here node}, t.node? (n :: here) = some node → ProperName n

theorem Sound.proper_of_mem (sound : t.Sound) (h : t.node? here = some node) :
    ∀ n ∈ here, ProperName n := by
  induction here generalizing node with
  | nil => simp
  | cons m here ih =>
    intro n hn
    rcases List.mem_cons.mp hn with rfl | hn
    · exact sound.proper h
    · exact ih (sound.inFolder h) n hn

theorem Sound.folder_of_suffix (sound : t.Sound) (h : t.node? here = some .folder)
    (hl : l <:+ here) : t.node? l = some .folder := by
  induction here with
  | nil => rwa [List.suffix_nil.mp hl]
  | cons m here ih =>
    rcases List.suffix_cons_iff.mp hl with rfl | hl
    · exact h
    · exact ih (sound.inFolder h) hl

def origin (t : FileTree) (p : Text) : Location :=
  if Path.isAbsolute p then [] else t.workingFolder

/-- Without steps to a parent, names pile up. -/
theorem foldl_step {ns : List Text} (stays : ['.', '.'] ∉ ns) (here : Location) :
    ns.foldl step here = (ns.filter (· ≠ ['.'])).reverse ++ here := by
  induction ns generalizing here with
  | nil => rfl
  | cons n ns ih =>
    obtain ⟨hn, hns⟩ : ['.', '.'] ≠ n ∧ ['.', '.'] ∉ ns := by simpa using stays
    rw [List.foldl_cons, ih hns, step]
    by_cases hdot : n = ['.']
    · simp [hdot]
    · simp [hdot, Ne.symm hn]

def pieces (p : Text) : List Text := (Text.split '/' p).filter (· ≠ [])

theorem filter_pieces (p : Text) : (pieces p).filter (· ≠ ['.']) = Path.segments p := by
  rw [pieces, List.filter_filter, Path.segments]
  apply List.filter_congr
  intro n _
  simp [Bool.and_comm]

theorem not_mem_pieces (stays : .parent ∉ Path.components p) : ['.', '.'] ∉ pieces p := by
  rw [Path.parent_mem_components_iff, ← filter_pieces] at stays
  exact fun h => stays (List.mem_filter.mpr ⟨h, by decide⟩)

theorem place_eq_foldl (t : FileTree) (p : Text) :
    t.place p = (pieces p).foldl step (t.origin p) := by
  have hdot : ∀ here, step here ['.'] = here := fun _ => rfl
  rw [place, names, List.foldl_append]
  by_cases hlast : p.getLast? = some '/'
  · rw [if_pos hlast, List.foldl_cons, hdot]
    rfl
  · rw [if_neg hlast]
    rfl

/-- A path that does not climb leads along its segments. -/
theorem place_eq (stays : .parent ∉ Path.components p) :
    t.place p = (Path.segments p).reverse ++ t.origin p := by
  rw [place_eq_foldl, foldl_step (not_mem_pieces stays), filter_pieces]

theorem pieces_append_slash (p q : Text) : pieces (p ++ '/' :: q) = pieces p ++ pieces q := by
  rw [pieces, Text.split_append_sep, List.filter_append]
  rfl

theorem walk_append (t : FileTree) (here : Location) (ns ms : List Text) :
    t.walk here (ns ++ ms) = (t.walk here ns >>= fun there => t.walk there ms) := by
  induction ns generalizing here with
  | nil => rfl
  | cons n ns ih =>
    rw [List.cons_append, walk, walk]
    split
    · rfl
    · rfl
    · split
      · exact ih _
      · rfl

/-- Names that pile up to a folder lead there. -/
theorem Sound.walk_eq (sound : t.Sound) {ns : List Text} (stays : ['.', '.'] ∉ ns)
    (h : t.node? (ns.foldl step here) = some .folder) :
    t.walk here ns = .ok (ns.foldl step here) := by
  induction ns generalizing here with
  | nil => rfl
  | cons n ns ih =>
    obtain ⟨hn, hns⟩ : ['.', '.'] ≠ n ∧ ['.', '.'] ∉ ns := by simpa using stays
    rw [List.foldl_cons] at h ⊢
    have hsuffix : step here n <:+ ns.foldl step (step here n) := by
      rw [foldl_step hns]
      exact List.suffix_append _ _
    have hthere := sound.folder_of_suffix h hsuffix
    obtain ⟨hhere, hshort⟩ : t.node? here = some .folder ∧ Text.byteSize n ≤ nameLimit := by
      by_cases hdot : n = ['.']
      · subst hdot
        exact ⟨hthere, by decide⟩
      · rw [step, if_neg hdot, if_neg (Ne.symm hn)] at hthere
        exact ⟨sound.inFolder hthere, (sound.proper hthere).short⟩
    rw [walk, hhere]
    dsimp only
    rw [if_pos hshort, ih hns h]

/-- A path to a place that is there has no character that none can have. -/
theorem Sound.nul_not_mem (sound : t.Sound) (stays : .parent ∉ Path.components p)
    (h : t.node? (t.place p) = some node) : '\x00' ∉ p := by
  intro hnul
  have hslash : '\x00' ≠ '/' := by decide
  obtain ⟨n, hn, hmem⟩ := Text.exists_mem_split hslash hnul
  have hsegment : n ∈ Path.segments p := by
    refine List.mem_filter.mpr ⟨hn, ?_⟩
    have hne : n ≠ [] := List.ne_nil_of_mem hmem
    have hdot : n ≠ ['.'] := by
      rintro rfl
      simp at hmem
    simp [hne, hdot]
  rw [place_eq stays] at h
  have hplace : n ∈ (Path.segments p).reverse ++ t.origin p :=
    List.mem_append_left _ (List.mem_reverse.mpr hsegment)
  exact (sound.proper_of_mem h n hplace).nul hmem

theorem has_iff : t.has p = true ↔ ∃ here, t.locate p = .ok here ∧ t.node? here ≠ none := by
  unfold has find
  cases hlocate : t.locate p with
  | error fault => exact iff_of_false nofun nofun
  | ok here =>
    dsimp only [bind, Except.bind]
    cases hnode : t.node? here with
    | none => exact iff_of_false nofun (by rintro ⟨_, h, hne⟩; exact hne (Except.ok.inj h ▸ hnode))
    | some node => exact iff_of_true rfl ⟨here, rfl, by simp [hnode]⟩

theorem byteSize_le_of_locate (h : t.locate p = .ok here) : Text.byteSize p ≤ pathLimit := by
  unfold locate at h
  split at h
  · cases h
  split at h
  · cases h
  split at h
  · cases h
  · rename_i hfits
    exact Nat.le_of_not_lt hfits

theorem Sound.segments_absolutePath (sound : t.Sound) (h : t.node? here = some node) :
    Path.segments (absolutePath here) = here.reverse := by
  have hproper : ∀ n ∈ here.reverse, ProperName n := by
    intro n hn
    exact sound.proper_of_mem h n (List.mem_reverse.mp hn)
  change Path.segments ([] ++ '/' :: Text.join ['/'] here.reverse) = _
  rw [Path.segments_append_slash, Path.segments_nil, List.nil_append]
  by_cases hnil : here.reverse = []
  · rw [hnil]
    rfl
  · rw [Path.segments, Text.split_join hnil fun n hn => (hproper n hn).slash]
    apply List.filter_eq_self.mpr
    intro n hn
    simp [(hproper n hn).nonempty, (hproper n hn).dot]

/-- A walk that starts in a folder ends in a folder, or at a name in one. -/
theorem Sound.exists_of_walk (sound : t.Sound) {ns : List Text}
    (hhere : t.node? here = some .folder) (h : t.walk here ns = .ok there)
    (hfree : t.node? there ≠ some .folder) :
    ∃ n ∈ ns, ∃ l, there = n :: l ∧ t.node? l = some .folder ∧ n ≠ ['.'] ∧ n ≠ ['.', '.'] ∧
      Text.byteSize n ≤ nameLimit := by
  induction ns generalizing here with
  | nil =>
    obtain rfl := Except.ok.inj h
    exact absurd hhere hfree
  | cons n ns ih =>
    rw [walk, hhere] at h
    dsimp only at h
    split at h
    · rename_i hshort
      by_cases hstep : t.node? (step here n) = some .folder
      · obtain ⟨m, hm, hspec⟩ := ih hstep h
        exact ⟨m, List.mem_cons_of_mem n hm, hspec⟩
      · have hdot : n ≠ ['.'] := by
          rintro rfl
          exact hstep hhere
        have hdots : n ≠ ['.', '.'] := by
          rintro rfl
          exact hstep (sound.folder_of_suffix hhere (List.tail_suffix here))
        rw [step, if_neg hdot, if_neg hdots] at h hstep
        cases ns with
        | nil => exact ⟨n, List.mem_cons_self, here, (Except.ok.inj h).symm, hhere, hdot, hdots, hshort⟩
        | cons m ns =>
          -- another name would need a folder here
          rw [walk] at h
          split at h
          · cases h
          · cases h
          · rename_i hfolder
            exact absurd hfolder hstep
    · cases h

/-- A place that can be located and is no folder has a name that it can have, in a folder. -/
theorem Sound.exists_of_locate (sound : t.Sound) (h : t.locate p = .ok here)
    (hfree : t.node? here ≠ some .folder) :
    ∃ n l, here = n :: l ∧ t.node? l = some .folder ∧ ProperName n := by
  unfold locate at h
  split at h
  · cases h
  split at h
  · cases h
  split at h
  · cases h
  rename_i hnul _ _
  have horigin : t.node? (t.origin p) = some .folder := by
    unfold origin
    split
    · rfl
    · exact sound.workingFolder
  obtain ⟨n, hn, l, rfl, hl, hdot, hdots, hshort⟩ := sound.exists_of_walk horigin h hfree
  have hpiece : n ∈ pieces p := by
    rcases List.mem_append.mp hn with hn | hn
    · exact hn
    · split at hn
      · exact absurd (List.mem_singleton.mp hn) hdot
      · cases hn
  obtain ⟨hsplit, hne⟩ := List.mem_filter.mp hpiece
  refine ⟨n, l, rfl, hl, by simpa using hne, hdot, hdots, Text.notMem_of_mem_split hsplit, ?_, hshort⟩
  exact fun hmem => hnul ((Text.infix_of_mem_split hsplit).subset hmem)

/-- A node put in a folder, under a name that it can have, leaves a sound tree. -/
theorem Sound.put (sound : t.Sound) {n : Text} (hl : t.node? l = some .folder)
    (hproper : ProperName n) (hfree : t.node? (n :: l) ≠ some .folder) (node : FileNode) :
    (t.put (n :: l) node).Sound := by
  have hnode : ∀ there, (t.put (n :: l) node).node? there =
      if there = n :: l then some node else t.node? there := node?_put (List.cons_ne_nil n l)
  have hfolder : ∀ here, t.node? here = some .folder →
      (t.put (n :: l) node).node? here = some .folder := by
    intro here hhere
    rw [hnode, if_neg, hhere]
    rintro rfl
    exact hfree hhere
  constructor
  · rw [workingFolder_put]
    exact hfolder _ sound.workingFolder
  · intro m here node' h
    rw [hnode] at h
    split at h
    · rename_i he
      obtain ⟨rfl, rfl⟩ := List.cons.inj he
      exact hfolder here hl
    · exact hfolder here (sound.inFolder h)
  · intro m here node' h
    rw [hnode] at h
    split at h
    · rename_i he
      exact (List.cons.inj he).1 ▸ hproper
    · exact sound.proper h

theorem Sound.write (sound : t.Sound) {content : Text} (h : t.write p content = .ok t') :
    t'.Sound := by
  unfold FileTree.write at h
  cases hlocate : t.locate p with
  | error fault =>
    rw [hlocate] at h
    cases h
  | ok here =>
    rw [hlocate] at h
    dsimp only [bind, Except.bind] at h
    split at h
    · cases h
    · rename_i hfree
      obtain ⟨n, l, rfl, hl, hproper⟩ := sound.exists_of_locate hlocate hfree
      exact Except.ok.inj h ▸ sound.put hl hproper hfree _

theorem Sound.makeFolder (sound : t.Sound) (h : t.makeFolder p = .ok t') : t'.Sound := by
  unfold FileTree.makeFolder at h
  cases hlocate :
      t.locate (if p.all (· = '/') then p else (p.reverse.dropWhile (· = '/')).reverse) with
  | error fault =>
    rw [hlocate] at h
    cases h
  | ok here =>
    rw [hlocate] at h
    dsimp only [bind, Except.bind] at h
    split at h
    · cases h
    · rename_i hnone
      have hfree : t.node? here ≠ some .folder := by simp [hnone]
      obtain ⟨n, l, rfl, hl, hproper⟩ := sound.exists_of_locate hlocate hfree
      exact Except.ok.inj h ▸ sound.put hl hproper hfree _

end FileTree

end RefSite
