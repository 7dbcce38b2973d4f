import RefSite.Proofs.Site

namespace RefSite

variable {l : Link} {ls : List Link} {path : Text}

theorem Link.exists_mem_distinctAfter (h : l ∈ ls) :
    l.path = path ∨ ∃ l' ∈ distinctAfter path ls, l'.path = l.path := by
  induction ls generalizing path with
  | nil => cases h
  | cons k ls ih =>
    rw [distinctAfter]
    by_cases hk : k.path = path
    · rw [if_pos hk]
      rcases List.mem_cons.mp h with rfl | h
      · exact .inl hk
      · exact ih h
    · rw [if_neg hk]
      right
      rcases List.mem_cons.mp h with rfl | h
      · exact ⟨l, List.mem_cons_self, rfl⟩
      · rcases @ih k.path h with hl | ⟨l', hl', hp⟩
        · exact ⟨k, List.mem_cons_self, hl.symm⟩
        · exact ⟨l', List.mem_cons_of_mem _ hl', hp⟩

theorem Link.exists_mem_distinct (h : l ∈ ls) : ∃ l' ∈ distinct ls, l'.path = l.path := by
  cases ls with
  | nil => cases h
  | cons k ls =>
    rcases List.mem_cons.mp h with rfl | h
    · exact ⟨l, List.mem_cons_self, rfl⟩
    · rcases @exists_mem_distinctAfter l ls k.path h with hl | ⟨l', hl', hp⟩
      · exact ⟨k, List.mem_cons_self, hl.symm⟩
      · exact ⟨l', List.mem_cons_of_mem _ hl', hp⟩

theorem Navigation.exists_mem_toMenu {n : Navigation} (h : l ∈ n.links) (title : Text) :
    ∃ l' ∈ (n.toMenu title).pages, l'.path = l.path :=
  Link.exists_mem_distinct (List.mem_mergeSort.mpr h)

namespace Site

def linkOf (base : Text) (page : Page) : Link :=
  { title := Route.title page.id, path := Route.page base page.id }

theorem links_foldl_addPage (pages : List Page) (n : Navigation) :
    pages.foldl (fun n page => n.addPage page.id) n =
      { n with links := n.links ++ pages.map (linkOf n.base) } := by
  induction pages generalizing n with
  | nil => simp
  | cons page pages ih =>
    rw [List.foldl_cons, ih]
    simp [Navigation.addPage, Navigation.add, linkOf]

theorem links_foldl_merge (pages : List Page) (base : Text) (n : Navigation) :
    pages.foldl (fun n page => n.merge (({ base } : Navigation).addPage page.id)) n =
      { n with links := n.links ++ pages.map (linkOf base) } := by
  induction pages generalizing n with
  | nil => simp
  | cons page pages ih =>
    rw [List.foldl_cons, ih]
    simp [Navigation.merge, Navigation.addPage, Navigation.add, linkOf]

/-- The root is registered first, then all pages in order. -/
theorem navigation_links (options : SiteOptions) (p : Package) (namespaces types : List Page) :
    (navigation options p namespaces types).links =
      { title := options.style.wording .description
        path := Route.base options.destination p.id } ::
        (namespaces ++ types).map (linkOf (Route.base options.destination p.id)) := by
  rw [navigation, Navigation.forPackage, links_foldl_merge, links_foldl_addPage]
  simp [Navigation.addRoot, Navigation.add]

theorem exists_link {options : SiteOptions} {p : Package} {x : Export} {page : Page}
    (h : page ∈ (generate options p x).namespaces ++ (generate options p x).types) :
    ∃ l ∈ (generate options p x).menu.pages,
      l.path = Route.page (Route.base options.destination p.id) page.id := by
  refine Navigation.exists_mem_toMenu
    (l := linkOf (Route.base options.destination p.id) page) ?_ p.title
  rw [navigation_links]
  exact List.mem_cons_of_mem _ (List.mem_map_of_mem h)

theorem BuiltFrom.exists_link {options : SiteOptions} {x : Export} {e : Entry} {page : Page}
    (p : Package) (h : BuiltFrom options.style x.entries e page) :
    ∃ l ∈ (generate options p x).menu.pages,
      l.path = Route.page (Route.base options.destination p.id) page.id :=
  Site.exists_link <|
    (exists_builtFrom_iff options.style (fun _ => Export.valid_of_mem) page).mp ⟨e, h⟩

end Site

end RefSite
