import RefSite.Proofs.MenuOrder
import RefSite.Proofs.Route

namespace RefSite

open Text (Precedes)

theorem Route.precedes_page (base id : Text) : Precedes base (page base id) := by
  rw [page, List.append_assoc]
  exact Text.precedes_append base (by simp)

/-- A link before all others is the first of a menu. -/
theorem Link.Lists.exists_cons {S : Set Link} {pages : List Link} {root : Link}
    (h : Lists S pages) (hroot : root ∈ S)
    (first : ∀ l ∈ S, l = root ∨ Precedes root.path l.path) : ∃ rest, pages = root :: rest := by
  obtain ⟨l, hl, hp⟩ := h.exists_mem hroot
  have hmem : root ∈ pages := by
    rcases first l (h.only l hl) with rfl | hlt
    · exact hl
    · exact absurd hp.symm hlt.ne
  obtain ⟨k, rest, rfl⟩ := List.exists_cons_of_ne_nil (List.ne_nil_of_mem hmem)
  have hk : k = root := by
    rcases first k (h.only k List.mem_cons_self) with hk | hlt
    · exact hk
    · rcases List.mem_cons.mp hmem with hk | hrest
      · exact hk.symm
      · have hback : Precedes k.path root.path :=
          (List.pairwise_cons.mp (List.pairwise_map.mp h.increasing)).1 root hrest
        exact absurd hback hlt.not_symm
  exact ⟨rest, by rw [hk]⟩

namespace Site

def rootLink (options : SiteOptions) (p : Package) : Link :=
  { title := options.style.wording .description, path := Route.base options.destination p.id }

/-- The links of a site: the root and one for each other page. -/
def links (options : SiteOptions) (p : Package) (s : Site) : Set Link :=
  {l | l = rootLink options p ∨ ∃ page ∈ s.namespaces ++ s.types,
    l = linkOf (Route.base options.destination p.id) page}

theorem menu_lists (options : SiteOptions) (p : Package) (x : Export) :
    Link.Lists (links options p (generate options p x)) (generate options p x).menu.pages := by
  let nav := navigation options p (generate options p x).namespaces (generate options p x).types
  have hlinks : {l | l ∈ nav.links} = links options p (generate options p x) := by
    ext l
    change l ∈ nav.links ↔ l = rootLink options p ∨ ∃ page ∈ _, l = linkOf _ page
    simp only [nav, navigation_links, List.mem_cons, List.mem_map, rootLink, eq_comm]
  exact hlinks ▸ nav.toMenu_lists p.title

theorem menu_path (options : SiteOptions) (p : Package) (x : Export) :
    (generate options p x).menu.path = Route.base options.destination p.id := by
  rw [generate, navigation, Navigation.forPackage, links_foldl_merge, links_foldl_addPage]
  rfl

theorem eq_root_or_precedes {options : SiteOptions} {p : Package} {s : Site} {l : Link}
    (h : l ∈ links options p s) :
    l = rootLink options p ∨ Precedes (rootLink options p).path l.path := by
  rcases h with h | ⟨page, -, rfl⟩
  · exact .inl h
  · exact .inr (Route.precedes_page _ _)

/-- The menu of a site tells about its pages, and about nothing else. -/
structure MenuAgrees (options : SiteOptions) (p : Package) (s : Site) : Prop where
  path : s.menu.path = Route.base options.destination p.id
  root : s.menu.pages.head? = some (rootLink options p)
  increasing : (s.menu.pages.map Link.path).Pairwise Precedes
  paths : ∀ path, path ∈ s.menu.pages.map Link.path ↔
    path = Route.base options.destination p.id ∨
      ∃ page ∈ s.namespaces ++ s.types,
        path = Route.page (Route.base options.destination p.id) page.id
  titles : ∀ l ∈ s.menu.pages, ∀ page ∈ s.namespaces ++ s.types,
    l.path = Route.page (Route.base options.destination p.id) page.id →
      l.title = Route.title page.id
  single : ∀ l ∈ s.menu.pages.tail, l.path ≠ Route.base options.destination p.id

theorem menu_agrees (options : SiteOptions) (p : Package) (x : Export) :
    MenuAgrees options p (generate options p x) := by
  have lists := menu_lists options p x
  have hroot : rootLink options p ∈ links options p (generate options p x) := .inl rfl
  obtain ⟨rest, hrest⟩ := lists.exists_cons hroot fun _ => eq_root_or_precedes
  refine ⟨menu_path options p x, by rw [hrest]; rfl, lists.increasing, ?_, ?_, ?_⟩
  · intro path
    constructor
    · intro h
      obtain ⟨l, hl, rfl⟩ := List.mem_map.mp h
      rcases lists.only l hl with rfl | ⟨page, hpage, rfl⟩
      · exact .inl rfl
      · exact .inr ⟨page, hpage, rfl⟩
    · rintro (rfl | ⟨page, hpage, rfl⟩)
      · exact List.mem_map.mpr (lists.exists_mem hroot)
      · have hlink : linkOf (Route.base options.destination p.id) page ∈
            links options p (generate options p x) := .inr ⟨page, hpage, rfl⟩
        exact List.mem_map.mpr (lists.exists_mem hlink)
  · intro l hl page _ hpath
    rcases lists.only l hl with rfl | ⟨page', -, rfl⟩
    · exact absurd hpath (Route.precedes_page _ _).ne
    · have hid : page'.id = page.id := Route.page_injective hpath
      exact congrArg Route.title hid
  · intro l hl hpath
    have hmem : l ∈ rest := by rwa [hrest] at hl
    have hlt : Precedes (rootLink options p).path l.path := by
      have := List.pairwise_map.mp lists.increasing
      rw [hrest] at this
      exact (List.pairwise_cons.mp this).1 l hmem
    exact hlt.ne hpath.symm

end Site

end RefSite
