import Mathlib
import RefSite.Proofs.Ancestors
import RefSite.Proofs.SoundTree
import RefSite.Proofs.Text.Size
import RefSite.Settings

namespace RefSite

namespace FileTree

open Settings (fileName)

variable {t : FileTree} {here l l' : Location} {folder a p : Text}

def settingsIn (folder : Text) : Text := Path.join folder fileName

theorem exists_settingsIn (ha : a ≠ []) :
    ∃ b, pieces b = pieces a ∧ settingsIn a = b ++ '/' :: fileName ∧ b <+: a := by
  by_cases hlast : a.getLast? = some '/'
  · obtain ⟨b, rfl⟩ := List.getLast?_eq_some_iff.mp hlast
    refine ⟨b, ?_, ?_, List.prefix_append b _⟩
    · rw [pieces_append_slash, show pieces [] = [] from rfl, List.append_nil]
    · rw [settingsIn, Path.join, if_neg (by decide), if_pos (.inr hlast)]
      simp
  · refine ⟨a, rfl, ?_, List.prefix_rfl⟩
    rw [settingsIn, Path.join, if_neg (by decide), if_neg (by simp [ha, hlast])]
    simp

theorem names_settingsIn (a : Text) : names (settingsIn a) = pieces a ++ [fileName] := by
  have hfile : pieces fileName = [fileName] := by decide
  by_cases ha : a = []
  · subst ha
    decide
  · obtain ⟨b, hb, hjoin, -⟩ := exists_settingsIn ha
    have hlast : (b ++ '/' :: fileName).getLast? ≠ some '/' := by
      rw [List.getLast?_append_of_ne_nil _ (by simp)]
      decide
    rw [hjoin, names, if_neg hlast, List.append_nil]
    change pieces (b ++ '/' :: fileName) = _
    rw [pieces_append_slash, hfile, hb]

theorem origin_settingsIn (t : FileTree) (a : Text) : t.origin (settingsIn a) = t.origin a := by
  by_cases ha : a = []
  · subst ha
    rfl
  · rw [origin, settingsIn, Path.isAbsolute_join ha (by decide), origin]

theorem place_settingsIn (t : FileTree) (a : Text) :
    t.place (settingsIn a) = fileName :: t.place a := by
  change (names (settingsIn a)).foldl step (t.origin (settingsIn a)) = _
  rw [origin_settingsIn, names_settingsIn, List.foldl_append, ← place_eq_foldl]
  rfl

theorem stays_settingsIn (stays : .parent ∉ Path.components a) :
    .parent ∉ Path.components (settingsIn a) := by
  by_cases ha : a = []
  · subst ha
    decide
  · rw [settingsIn, Path.components_join ha (by decide), List.mem_append, not_or]
    exact ⟨stays, by decide⟩

/-- The settings file of a folder is found if it is there and its path is not too long. -/
theorem Sound.has_settingsIn_iff (sound : t.Sound) (stays : .parent ∉ Path.components a) :
    t.has (settingsIn a) = true ↔
      t.node? (fileName :: t.place a) ≠ none ∧ Text.byteSize (settingsIn a) ≤ pathLimit := by
  rw [has_iff]
  constructor
  · rintro ⟨here, hlocate, hthere⟩
    rw [eq_place_of_locate hlocate, place_settingsIn] at hthere
    exact ⟨hthere, byteSize_le_of_locate hlocate⟩
  · rintro ⟨hthere, hfits⟩
    refine ⟨fileName :: t.place a, ?_, hthere⟩
    obtain ⟨node, hnode⟩ := Option.ne_none_iff_exists'.mp hthere
    have hfolder := sound.inFolder hnode
    have hnul : '\x00' ∉ settingsIn a :=
      sound.nul_not_mem (stays_settingsIn stays) (by rwa [place_settingsIn])
    have hne : settingsIn a ≠ [] := by
      intro hnil
      have hnames := names_settingsIn a
      rw [hnil] at hnames
      exact List.append_ne_nil_of_right_ne_nil _ (by simp) hnames.symm
    have hwalk : t.walk (t.origin a) (names (settingsIn a)) = .ok (fileName :: t.place a) := by
      rw [place_eq_foldl] at hfolder ⊢
      rw [names_settingsIn, walk_append, sound.walk_eq (not_mem_pieces stays) hfolder]
      change t.walk _ [fileName] = _
      rw [walk, hfolder]
      rfl
    rw [locate, if_neg hnul, if_neg hne, if_neg (Nat.not_lt.mpr hfits), ← hwalk,
      ← origin_settingsIn]
    rfl

def searched (t : FileTree) (folder : Text) : Text :=
  if folder = [] then absolutePath t.workingFolder else folder

theorem firstIn?_eq (t : FileTree) (folders : List Text) :
    (Settings.firstIn? (m := StateM FileTree) folders t).1 =
      (folders.find? fun a => t.has (settingsIn a)).map settingsIn := by
  induction folders with
  | nil => rfl
  | cons a folders ih =>
    have hstep : Settings.firstIn? (m := StateM FileTree) (a :: folders) t =
        if t.has (settingsIn a) then (some (settingsIn a), t)
        else Settings.firstIn? (m := StateM FileTree) folders t := by
      rw [Settings.firstIn?, bind_apply]
      change (if t.has (settingsIn a) then _ else _ : StateM FileTree (Option Text)) t = _
      split <;> rfl
    rw [hstep, List.find?_cons]
    cases t.has (settingsIn a) with
    | true => rfl
    | false => exact ih

theorem discover?_eq (t : FileTree) (folder : Text) :
    (Settings.discover? (m := StateM FileTree) folder t).1 =
      ((Path.ancestors (t.searched folder)).find? fun a => t.has (settingsIn a)).map
        settingsIn := by
  rw [← firstIn?_eq, Settings.discover?, searched]
  split <;> rfl

theorem Sound.searched_spec (sound : t.Sound) (stays : .parent ∉ Path.components folder) :
    .parent ∉ Path.components (t.searched folder) ∧ t.place (t.searched folder) = t.place folder := by
  unfold searched
  split
  · rename_i hempty
    have hsegments := sound.segments_absolutePath sound.workingFolder
    have hstays : .parent ∉ Path.components (absolutePath t.workingFolder) := by
      rw [Path.parent_mem_components_iff, hsegments, List.mem_reverse]
      exact fun h => (sound.proper_of_mem sound.workingFolder _ h).dots rfl
    refine ⟨hstays, ?_⟩
    rw [hempty, place_eq hstays, hsegments, List.reverse_reverse]
    exact List.append_nil _
  · exact ⟨stays, rfl⟩

/-- The nearest location with settings, among a location and those around it. -/
structure Nearest (t : FileTree) (here l : Location) : Prop where
  around : l <:+ here
  there : t.node? (fileName :: l) ≠ none
  first : ∀ l', l' <:+ here → t.node? (fileName :: l') ≠ none → l' <:+ l

theorem Nearest.unique (h : t.Nearest here l) (h' : t.Nearest here l') : l = l' :=
  (h'.first l h.around h.there).eq_of_length_le (h.first l' h'.around h'.there).length_le

theorem exists_nearest (hl : l <:+ here) (hthere : t.node? (fileName :: l) ≠ none) :
    ∃ l, t.Nearest here l := by
  induction here with
  | nil =>
    obtain rfl := List.suffix_nil.mp hl
    exact ⟨[], hl, hthere, fun _ h _ => h⟩
  | cons n here ih =>
    by_cases hhere : t.node? (fileName :: n :: here) = none
    · have hne : l ≠ n :: here := by
        rintro rfl
        exact hthere hhere
      obtain ⟨l, near⟩ := ih ((List.suffix_cons_iff.mp hl).resolve_left hne)
      refine ⟨l, near.around.trans (List.suffix_cons n here), near.there, ?_⟩
      intro l' hl' hthere'
      rcases List.suffix_cons_iff.mp hl' with rfl | hl'
      · exact absurd hhere hthere'
      · exact near.first l' hl' hthere'
    · exact ⟨n :: here, List.suffix_rfl, hhere, fun _ h _ => h⟩

/-- The search finds the nearest settings, and finds none only if there are none. -/
structure FindsNearest (t : FileTree) (folder : Text) : Prop where
  found : ∀ c, (Settings.discover? (m := StateM FileTree) folder t).1 = some c →
    ∃ l, t.Nearest (t.place folder) l ∧ t.place c = fileName :: l
  missing : (Settings.discover? (m := StateM FileTree) folder t).1 = none →
    ∀ l, l <:+ t.place folder → t.node? (fileName :: l) = none

/-- Dropping components leads to the location, by a path that is not too long. A relative path does
not lead out of the working folder. -/
structure InReach (t : FileTree) (folder : Text) (l : Location) : Prop where
  around : folder = [] ∨ Path.isAbsolute folder = true ∨ t.workingFolder <:+ l
  short : ∃ a ∈ Path.ancestors (t.searched folder), t.place a = l ∧
    Text.byteSize (settingsIn a) ≤ pathLimit

theorem place_of_mem_ancestors (stays : .parent ∉ Path.components p)
    (h : a ∈ Path.ancestors p) : t.place a = (Path.segments a).reverse ++ t.origin p := by
  rw [place_eq (Path.stays_of_mem_ancestors stays h), origin, origin, (Path.of_mem_ancestors h).2]

theorem suffix_of_prefix {ns ms : List Text} (h : ns <+: ms) (here : Location) :
    ns.reverse ++ here <:+ ms.reverse ++ here := by
  obtain ⟨rest, rfl⟩ := h
  exact ⟨rest.reverse, by simp⟩

theorem exists_of_discover? {c : Text}
    (h : (Settings.discover? (m := StateM FileTree) folder t).1 = some c) :
    ∃ a outer, a :: outer <:+ Path.ancestors (t.searched folder) ∧ c = settingsIn a ∧
      t.has (settingsIn a) = true ∧
        ∀ b ∈ Path.ancestors (t.searched folder), t.has (settingsIn b) = true → b ∈ a :: outer := by
  rw [discover?_eq] at h
  obtain ⟨a, ha, rfl⟩ := Option.map_eq_some_iff.mp h
  obtain ⟨hhas, inner, outer, hall, hbefore⟩ := List.find?_eq_some_iff_append.mp ha
  refine ⟨a, outer, ⟨inner, hall.symm⟩, rfl, hhas, ?_⟩
  intro b hb hhasb
  rw [hall] at hb
  rcases List.mem_append.mp hb with hb | hb
  · have := hbefore b hb
    rw [hhasb] at this
    cases this
  · exact hb

theorem byteSize_settingsIn_le (h : a <+: p) :
    Text.byteSize (settingsIn a) ≤ Text.byteSize (settingsIn p) := by
  have hupper : Text.byteSize (settingsIn a) ≤ Text.byteSize a + 1 + Text.byteSize fileName := by
    rw [settingsIn, Path.join, if_neg (by decide)]
    split
    · rw [Text.byteSize_append]
      omega
    · rw [Text.byteSize_append, Text.byteSize_append]
      exact Nat.le_refl _
  have hlower : Text.byteSize p + Text.byteSize fileName ≤ Text.byteSize (settingsIn p) := by
    rw [settingsIn, Path.join, if_neg (by decide)]
    split
    · rw [Text.byteSize_append]
    · rw [Text.byteSize_append, Text.byteSize_append]
      omega
  obtain ⟨rest, rfl⟩ := h
  by_cases hrest : rest = []
  · rw [hrest, List.append_nil]
  · have hpos := Text.byteSize_pos hrest
    rw [Text.byteSize_append] at hlower
    omega

/-- An empty or absolute path reaches all locations around it, and a relative one those inside the
working folder, if the path itself is not too long. -/
theorem Sound.inReach_of_fits (sound : t.Sound) (stays : .parent ∉ Path.components folder)
    (fits : Text.byteSize (settingsIn (t.searched folder)) ≤ pathLimit)
    (around : folder = [] ∨ Path.isAbsolute folder = true ∨ t.workingFolder <:+ l)
    (hl : l <:+ t.place folder) : t.InReach folder l := by
  obtain ⟨hstays, hplace⟩ := sound.searched_spec stays
  have horigin : t.origin (t.searched folder) <:+ l := by
    unfold searched
    split
    · exact List.nil_suffix
    · rename_i hempty
      rcases around with hnil | habsolute | hworking
      · exact absurd hnil hempty
      · rw [origin, if_pos habsolute]
        exact List.nil_suffix
      · unfold origin
        split
        · exact List.nil_suffix
        · exact hworking
  rw [← hplace, place_eq hstays] at hl
  obtain ⟨z, rfl⟩ := horigin
  obtain ⟨y, hy⟩ := hl
  have hsegments : (Path.segments (t.searched folder)).reverse = y ++ z := by
    rw [← List.append_assoc] at hy
    exact (List.append_cancel_right hy).symm
  have hz : z.reverse <+: Path.segments (t.searched folder) := by
    rw [← List.reverse_reverse (Path.segments _), hsegments, List.reverse_append]
    exact List.prefix_append _ _
  obtain ⟨a, ha, hns⟩ := Path.exists_mem_ancestors hz
  refine ⟨around, a, ha, ?_, ?_⟩
  · rw [place_of_mem_ancestors hstays ha, hns, List.reverse_reverse]
  · exact (byteSize_settingsIn_le (Path.front_of_mem_ancestors ha)).trans fits

theorem Sound.has_iff_of_mem_ancestors (sound : t.Sound) (stays : .parent ∉ Path.components folder)
    (ha : a ∈ Path.ancestors (t.searched folder)) :
    t.has (settingsIn a) = true ↔
      t.node? (fileName :: t.place a) ≠ none ∧ Text.byteSize (settingsIn a) ≤ pathLimit :=
  sound.has_settingsIn_iff (Path.stays_of_mem_ancestors (sound.searched_spec stays).1 ha)

theorem Sound.suffix_of_mem_ancestors (sound : t.Sound) (stays : .parent ∉ Path.components folder)
    (ha : a ∈ Path.ancestors (t.searched folder)) : t.place a <:+ t.place folder := by
  obtain ⟨hstays, hplace⟩ := sound.searched_spec stays
  rw [place_of_mem_ancestors hstays ha, ← hplace, place_eq hstays]
  exact suffix_of_prefix (Path.of_mem_ancestors ha).1 _

/-- The search does not lead out of the working folder on a relative path. -/
theorem Sound.around_of_mem_ancestors (sound : t.Sound) (stays : .parent ∉ Path.components folder)
    (ha : a ∈ Path.ancestors (t.searched folder)) :
    folder = [] ∨ Path.isAbsolute folder = true ∨ t.workingFolder <:+ t.place a := by
  by_cases hempty : folder = []
  · exact .inl hempty
  by_cases habsolute : Path.isAbsolute folder = true
  · exact .inr (.inl habsolute)
  have horigin : t.origin (t.searched folder) = t.workingFolder := by
    rw [searched, if_neg hempty, origin, if_neg habsolute]
  rw [place_of_mem_ancestors (sound.searched_spec stays).1 ha, horigin]
  exact .inr (.inr (List.suffix_append _ _))

theorem Sound.inReach_of_findsNearest (sound : t.Sound) (stays : .parent ∉ Path.components folder)
    (finds : t.FindsNearest folder) (near : t.Nearest (t.place folder) l) : t.InReach folder l := by
  cases hc : (Settings.discover? (m := StateM FileTree) folder t).1 with
  | none => exact absurd (finds.missing hc l near.around) near.there
  | some c =>
    obtain ⟨l', near', hfound⟩ := finds.found c hc
    obtain rfl := near.unique near'
    obtain ⟨a, outer, hsuffix, rfl, hthere, -⟩ := exists_of_discover? hc
    have ha := hsuffix.subset List.mem_cons_self
    rw [place_settingsIn] at hfound
    obtain rfl : t.place a = l := (List.cons.inj hfound).2
    exact ⟨sound.around_of_mem_ancestors stays ha, a, ha, rfl,
      ((sound.has_iff_of_mem_ancestors stays ha).mp hthere).2⟩

/-- Where there are settings around and the nearest are in reach, the search meets these. -/
theorem Sound.exists_met (sound : t.Sound) (stays : .parent ∉ Path.components folder)
    (reach : ∀ l, t.Nearest (t.place folder) l → t.InReach folder l)
    (hl : l <:+ t.place folder) (hthere : t.node? (fileName :: l) ≠ none) :
    ∃ b ∈ Path.ancestors (t.searched folder), t.Nearest (t.place folder) (t.place b) ∧
      t.has (settingsIn b) = true := by
  obtain ⟨l', near⟩ := exists_nearest hl hthere
  obtain ⟨b, hb, rfl, hfits⟩ := (reach l' near).short
  exact ⟨b, hb, near, (sound.has_iff_of_mem_ancestors stays hb).mpr ⟨near.there, hfits⟩⟩

/-- The search comes from the inside, so what it finds first is the nearest that it meets. -/
theorem Sound.findsNearest_of_inReach (sound : t.Sound) (stays : .parent ∉ Path.components folder)
    (reach : ∀ l, t.Nearest (t.place folder) l → t.InReach folder l) : t.FindsNearest folder := by
  have hstays := (sound.searched_spec stays).1
  constructor
  · intro c hc
    obtain ⟨a, outer, hsuffix, rfl, hfound, hfirst⟩ := exists_of_discover? hc
    have ha := hsuffix.subset List.mem_cons_self
    have haround := sound.suffix_of_mem_ancestors stays ha
    have hthere := ((sound.has_iff_of_mem_ancestors stays ha).mp hfound).1
    obtain ⟨b, hb, near, hhasb⟩ := sound.exists_met stays reach haround hthere
    have hinner : t.place a <:+ t.place b := near.first _ haround hthere
    have houter : t.place b <:+ t.place a := by
      rw [place_of_mem_ancestors hstays ha, place_of_mem_ancestors hstays hb]
      apply suffix_of_prefix
      have hpairs := (Path.pairwise_ancestors (t.searched folder)).sublist hsuffix.sublist
      rcases List.mem_cons.mp (hfirst b hb hhasb) with rfl | hb
      · exact List.prefix_rfl
      · exact (List.pairwise_cons.mp hpairs).1 b hb
    refine ⟨_, near, ?_⟩
    rw [place_settingsIn, hinner.eq_of_length_le houter.length_le]
  · intro hnone l hl
    by_contra hthere
    obtain ⟨b, hb, -, hhasb⟩ := sound.exists_met stays reach hl hthere
    rw [discover?_eq, Option.map_eq_none_iff, List.find?_eq_none] at hnone
    exact hnone b hb hhasb

/-- The search finds the nearest settings just if they are in its reach. -/
theorem Sound.findsNearest_iff (sound : t.Sound) (stays : .parent ∉ Path.components folder) :
    t.FindsNearest folder ↔ ∀ l, t.Nearest (t.place folder) l → t.InReach folder l := by
  constructor
  · intro finds l near
    exact sound.inReach_of_findsNearest stays finds near
  · exact sound.findsNearest_of_inReach stays

def settingsOutside : FileTree where
  workingFolder := ["here", "w"]
  nodes := [(["w".toList], .folder), (["here".toList, "w".toList], .folder),
    ([fileName, "w".toList], .file ByteArray.empty)]

theorem sound_settingsOutside : settingsOutside.Sound := by
  have hnode : ∀ {n : Text} {here node}, settingsOutside.node? (n :: here) = some node →
      (n :: here, node) ∈ settingsOutside.nodes := by
    intro n here node h
    obtain ⟨before, behind, hnodes, -⟩ := List.lookup_eq_some_iff.mp h
    rw [hnodes]
    exact List.mem_append_right _ List.mem_cons_self
  have hall : ∀ entry ∈ settingsOutside.nodes, ∀ n here, entry.1 = n :: here →
      ProperName n ∧ settingsOutside.node? here = some .folder := by
    intro entry hentry n here he
    simp only [settingsOutside, List.mem_cons, List.not_mem_nil, or_false] at hentry
    rcases hentry with rfl | rfl | rfl
    all_goals
      obtain ⟨rfl, rfl⟩ := List.cons.inj he
      exact ⟨⟨by decide, by decide, by decide, by decide, by decide, by decide⟩, by decide⟩
  exact ⟨by decide, fun h => (hall _ (hnode h) _ _ rfl).2, fun h => (hall _ (hnode h) _ _ rfl).1⟩

/-- An absolute path leads to settings outside of the working folder. -/
theorem findsNearest_settingsOutside :
    settingsOutside.FindsNearest "/w/here/sub" ∧
      (Settings.discover? (m := StateM FileTree) "/w/here/sub" settingsOutside).1 =
        some "/w/apimd.toml".toList := by
  refine ⟨(sound_settingsOutside.findsNearest_iff (by decide)).mpr ?_, by cbv⟩
  intro l near
  exact sound_settingsOutside.inReach_of_fits (by decide) (by decide) (.inr (.inl (by decide)))
    near.around

/-- A relative path for the same folder does not. -/
theorem not_findsNearest_settingsOutside :
    settingsOutside.place "sub" = settingsOutside.place "/w/here/sub" ∧
      ¬ settingsOutside.FindsNearest "sub" := by
  refine ⟨by decide, ?_⟩
  intro finds
  have hnone : (Settings.discover? (m := StateM FileTree) "sub" settingsOutside).1 = none := by cbv
  have hmissing := finds.missing hnone ["w"] (by decide)
  revert hmissing
  decide

end FileTree

end RefSite
