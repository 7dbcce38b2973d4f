import Mathlib.Data.Set.Insert
import RefSite.Proofs.Menu
import RefSite.Proofs.Text.Order

namespace RefSite

open Text (Precedes)

namespace Link

variable {a b c l : Link} {ls pages pages' : List Link} {S : Set Link}

theorem le_of_path_eq (h : a.path = b.path) : le a b = Text.le a.title b.title := if_pos h

theorem le_of_path_ne (h : a.path ≠ b.path) : le a b = Text.le a.path b.path := if_neg h

theorem path_le (h : le a b = true) : Text.le a.path b.path = true := by
  by_cases hp : a.path = b.path
  · rw [hp]
    exact Text.le_refl _
  · rwa [le_of_path_ne hp] at h

theorem le_trans (hab : le a b = true) (hbc : le b c = true) : le a c = true := by
  by_cases hac : a.path = c.path
  · have hba : Text.le b.path a.path = true := hac ▸ path_le hbc
    have hp : a.path = b.path := Text.le_antisymm (path_le hab) hba
    rw [le_of_path_eq hp] at hab
    rw [le_of_path_eq (hp.symm.trans hac)] at hbc
    rw [le_of_path_eq hac]
    exact Text.le_trans hab hbc
  · rw [le_of_path_ne hac]
    exact Text.le_trans (path_le hab) (path_le hbc)

theorem le_total (a b : Link) : (le a b || le b a) = true := by
  rw [Bool.or_eq_true]
  by_cases hp : a.path = b.path
  · rw [le_of_path_eq hp, le_of_path_eq hp.symm]
    exact Text.le_total _ _
  · rw [le_of_path_ne hp, le_of_path_ne (Ne.symm hp)]
    exact Text.le_total _ _

/-- A later link of another path comes behind. -/
theorem precedes_of_le (h : le a b = true) (hne : b.path ≠ a.path) : Precedes a.path b.path :=
  Text.precedes_iff.mpr ⟨path_le h, Ne.symm hne⟩

/-- The links are in the order of a menu. -/
abbrev Sorted (ls : List Link) : Prop := ls.Pairwise fun a b => le a b = true

theorem Sorted.skip (h : Sorted (a :: b :: ls)) : Sorted (a :: ls) :=
  h.sublist ((List.sublist_cons_self b ls).cons_cons a)

theorem distinctAfter_sublist (path : Text) (ls : List Link) :
    (distinctAfter path ls).Sublist ls := by
  induction ls generalizing path with
  | nil => exact .slnil
  | cons k ls ih =>
    rw [distinctAfter]
    split
    · exact (ih path).cons k
    · exact (ih k.path).cons_cons k

theorem distinct_sublist (ls : List Link) : (distinct ls).Sublist ls := by
  cases ls with
  | nil => exact .slnil
  | cons k ls => exact (distinctAfter_sublist k.path ls).cons_cons k

/-- Behind a link, only links of later paths are left. -/
theorem precedes_of_mem_distinctAfter (sorted : Sorted (a :: ls))
    (h : l ∈ distinctAfter a.path ls) : Precedes a.path l.path := by
  induction ls generalizing a with
  | nil => cases h
  | cons k ls ih =>
    obtain ⟨hak, hks⟩ := List.pairwise_cons.mp sorted
    rw [distinctAfter] at h
    split at h
    · exact ih sorted.skip h
    · rename_i hne
      have hkey : Precedes a.path k.path := precedes_of_le (hak k List.mem_cons_self) hne
      rcases List.mem_cons.mp h with rfl | h
      · exact hkey
      · exact List.lt_trans hkey (ih hks h)

theorem pairwise_distinctAfter (sorted : Sorted (a :: ls)) :
    (distinctAfter a.path ls).Pairwise fun a b => Precedes a.path b.path := by
  induction ls generalizing a with
  | nil => exact .nil
  | cons k ls ih =>
    obtain ⟨-, hks⟩ := List.pairwise_cons.mp sorted
    rw [distinctAfter]
    split
    · exact ih sorted.skip
    · exact .cons (fun l hl => precedes_of_mem_distinctAfter hks hl) (ih hks)

theorem pairwise_distinct (sorted : Sorted ls) :
    (distinct ls).Pairwise fun a b => Precedes a.path b.path := by
  cases ls with
  | nil => exact .nil
  | cons k ls =>
    exact .cons (fun l hl => precedes_of_mem_distinctAfter sorted hl)
      (pairwise_distinctAfter sorted)

/-- What is kept has the least title of its path. -/
theorem title_le_of_mem_distinct {l' : Link} (sorted : Sorted (a :: ls))
    (h : l ∈ distinct (a :: ls)) (h' : l' ∈ a :: ls) (hp : l'.path = l.path) :
    Text.le l.title l'.title = true := by
  induction ls generalizing a with
  | nil =>
    obtain rfl := List.mem_singleton.mp h
    obtain rfl := List.mem_singleton.mp h'
    exact Text.le_refl _
  | cons k ls ih =>
    obtain ⟨hak, hks⟩ := List.pairwise_cons.mp sorted
    rcases List.mem_cons.mp h with rfl | h
    · rcases List.mem_cons.mp h' with rfl | h'
      · exact Text.le_refl _
      · have hle := hak l' h'
        rwa [le_of_path_eq hp.symm] at hle
    · rcases List.mem_cons.mp h' with rfl | h'
      · exact absurd hp (precedes_of_mem_distinctAfter sorted h).ne
      · -- What is kept behind `a` is kept of the list from `k` on, whether or not `k` is.
        have hmem : l ∈ distinct (k :: ls) := by
          rw [distinctAfter] at h
          split at h
          · rename_i hka
            exact List.mem_cons_of_mem _ (hka ▸ h)
          · exact h
        exact ih hks hmem h'

/-- The pages of a menu of some links: each path once, in the order of bytes, with its least title. -/
structure Lists (S : Set Link) (pages : List Link) : Prop where
  once : ∀ l ∈ S, (pages.map Link.path).count l.path = 1
  only : ∀ l ∈ pages, l ∈ S
  increasing : (pages.map Link.path).Pairwise Precedes
  least : ∀ l ∈ pages, ∀ l' ∈ S, l'.path = l.path → Text.le l.title l'.title = true

theorem Lists.nodup_paths (h : Lists S pages) : (pages.map Link.path).Nodup :=
  h.increasing.imp Precedes.ne

theorem Lists.exists_mem (h : Lists S pages) (hl : l ∈ S) : ∃ l' ∈ pages, l'.path = l.path := by
  have hcount : 0 < (pages.map Link.path).count l.path := by
    rw [h.once l hl]
    exact Nat.one_pos
  exact List.mem_map.mp (List.count_pos_iff.mp hcount)

/-- The links listed are those with the least title of their path. -/
theorem Lists.mem_iff (h : Lists S pages) :
    l ∈ pages ↔ l ∈ S ∧ ∀ l' ∈ S, l'.path = l.path → Text.le l.title l'.title = true := by
  constructor
  · intro hl
    exact ⟨h.only l hl, h.least l hl⟩
  · intro ⟨hl, hleast⟩
    obtain ⟨k, hk, hp⟩ := h.exists_mem hl
    have htitle : k.title = l.title :=
      Text.le_antisymm (h.least k hk l hl hp.symm) (hleast k (h.only k hk) hp)
    have hkl : k = l := by
      cases k
      cases l
      simp_all
    exact hkl ▸ hk

/-- There is one way to list some links. -/
theorem Lists.unique (h : Lists S pages) (h' : Lists S pages') : pages = pages' := by
  have hperm : pages.Perm pages' := by
    refine (List.perm_ext_iff_of_nodup h.nodup_paths.of_map h'.nodup_paths.of_map).mpr ?_
    intro l
    rw [h.mem_iff, h'.mem_iff]
  refine List.Perm.eq_of_pairwise ?_ (List.pairwise_map.mp h.increasing)
    (List.pairwise_map.mp h'.increasing) hperm
  intro l l' _ _ hlt hlt'
  exact absurd hlt' hlt.not_symm

end Link

namespace Navigation

variable {n n' : Navigation} {S S' : Set Link}

theorem toMenu_lists (n : Navigation) (title : Text) :
    Link.Lists {l | l ∈ n.links} (n.toMenu title).pages := by
  have sorted : Link.Sorted (n.links.mergeSort Link.le) :=
    @List.pairwise_mergeSort Link Link.le (fun _ _ _ => Link.le_trans) Link.le_total n.links
  have increasing : ((n.toMenu title).pages.map Link.path).Pairwise Precedes :=
    List.pairwise_map.mpr (Link.pairwise_distinct sorted)
  refine ⟨?_, ?_, increasing, ?_⟩
  · intro l hl
    obtain ⟨l', hl', hp⟩ := exists_mem_toMenu hl title
    have nodup : ((n.toMenu title).pages.map Link.path).Nodup := increasing.imp Precedes.ne
    exact List.count_eq_one_of_mem nodup (List.mem_map.mpr ⟨l', hl', hp⟩)
  · intro l hl
    exact List.mem_mergeSort.mp ((Link.distinct_sublist _).subset hl)
  · intro l hl l' hl' hp
    have hmem : l' ∈ n.links.mergeSort Link.le := List.mem_mergeSort.mpr hl'
    obtain ⟨k, ls, hks⟩ := List.exists_cons_of_ne_nil (List.ne_nil_of_mem hmem)
    rw [toMenu, hks] at hl
    rw [hks] at hmem sorted
    exact Link.title_le_of_mem_distinct sorted hl hmem hp

/-- Accumulators that hold the same links have one menu. -/
theorem toMenu_congr (hbase : n.base = n'.base) (hlinks : ∀ l, l ∈ n.links ↔ l ∈ n'.links)
    (title : Text) : n.toMenu title = n'.toMenu title := by
  have hset : {l | l ∈ n.links} = {l | l ∈ n'.links} := Set.ext hlinks
  have hpages : (n.toMenu title).pages = (n'.toMenu title).pages :=
    (hset ▸ n.toMenu_lists title).unique (n'.toMenu_lists title)
  have hpath : (n.toMenu title).path = (n'.toMenu title).path := hbase
  cases hm : n.toMenu title
  cases hm' : n'.toMenu title
  simp_all [toMenu]

/-- The accumulator came about by registering the links of the set, one by one or by merging
accumulators of any package. -/
inductive Built : Navigation → Set Link → Prop
  | empty (destination packageId : Text) : Built (forPackage destination packageId) ∅
  | root {n : Navigation} {S : Set Link} (title : Text) :
    Built n S → Built (n.addRoot title) (insert { title, path := n.base } S)
  | page {n : Navigation} {S : Set Link} (id : Text) :
    Built n S →
      Built (n.addPage id) (insert { title := Route.title id, path := Route.page n.base id } S)
  | merge {n n' : Navigation} {S S' : Set Link} :
    Built n S → Built n' S' → Built (n.merge n') (S ∪ S')

theorem Built.links_eq (h : Built n S) : {l | l ∈ n.links} = S := by
  induction h with
  | empty destination packageId => simp [forPackage]
  | @root n S title _ ih =>
    ext l
    simp [addRoot, add, ← ih, or_comm]
  | @page n S id _ ih =>
    ext l
    simp [addPage, add, ← ih, or_comm]
  | @merge n n' S S' _ _ ih ih' =>
    ext l
    simp [Navigation.merge, ← ih, ← ih']

/-- The links that were registered tell the menu: it lists them, and all ways to register them give
one menu. -/
theorem toMenu_of_built (h : Built n S) (h' : Built n' S) (hbase : n.base = n'.base)
    (title : Text) :
    n.toMenu title = n'.toMenu title ∧ Link.Lists S (n.toMenu title).pages := by
  refine ⟨toMenu_congr hbase (fun l => ?_) title, ?_⟩
  · have hset := h.links_eq.trans h'.links_eq.symm
    exact Set.ext_iff.mp hset l
  · rw [← h.links_eq]
    exact n.toMenu_lists title

/-- Two titles on one path, one of them twice, and a link of another package. -/
theorem exists_toMenu_of_built :
    ∃ (n n' : Navigation) (S : Set Link), Built n S ∧ Built n' S ∧ n.base = n'.base ∧
      n.links ≠ n'.links ∧ n.toMenu "Acme" = n'.toMenu "Acme" ∧
        Link.Lists S (n.toMenu "Acme").pages := by
  let gear := (forPackage "api" "gear").addPage "Gear_T"
  let n := (((forPackage "docs" "acme").addRoot "Inicio").addRoot "Home").merge gear
  let n' := ((((forPackage "/docs/" "acme").merge gear).addRoot "Home").addRoot "Inicio").addRoot
    "Home"
  have hgear : Built gear _ := .page "Gear_T" (.empty "api" "gear")
  have h : Built n _ := .merge (.root "Home" (.root "Inicio" (.empty "docs" "acme"))) hgear
  have h' : Built n' _ :=
    .root "Home" (.root "Inicio" (.root "Home" (.merge (.empty "/docs/" "acme") hgear)))
  have hlinks : (∀ l ∈ n.links, l ∈ n'.links) ∧ ∀ l ∈ n'.links, l ∈ n.links := by decide
  have hset : {l | l ∈ n.links} = {l | l ∈ n'.links} :=
    Set.ext fun l => ⟨hlinks.1 l, hlinks.2 l⟩
  have hbase : n.base = n'.base := by decide
  rw [← h.links_eq] at h
  rw [← h'.links_eq, ← hset] at h'
  exact ⟨n, n', _, h, h', hbase, by decide, toMenu_of_built h h' hbase "Acme"⟩

end Navigation

end RefSite
