import RefSite.Layout
import RefSite.Proofs.Accepted
import RefSite.Proofs.Site

namespace RefSite.Layout

variable {folder destination packageId : Text} {page : Page}

/-- The file of a page is below the folder of the package, in the folder that its route names. -/
structure Contained (folder destination packageId : Text) (page : Page) : Prop where
  below : ∃ rest : List Path.Component,
    Path.components (plannedPage (base folder destination packageId) page).path =
      Path.components (base folder destination packageId) ++ rest ∧ .parent ∉ rest
  mirrored : Path.withoutDots (folderOf (base folder destination packageId) page) =
    Path.withoutDots folder ++
      Path.steps (Route.page (Route.base destination packageId) page.id)

theorem join_ne_nil {p q : Text} (h : q ≠ []) : Path.join p q ≠ [] := by
  unfold Path.join
  split
  · exact h
  split <;> simp [h]

theorem base_ne_nil (h : packageId ≠ []) : base folder destination packageId ≠ [] :=
  join_ne_nil h

theorem components_folderOf {base : Text} (hbase : base ≠ [])
    (hid : Path.isAbsolute page.id = false) :
    Path.components (folderOf base page) = Path.components base ++ Path.steps page.id := by
  unfold folderOf
  split
  · rename_i hnil
    rw [hnil, Path.steps_nil, List.append_nil]
  · exact Path.components_join hbase hid

theorem withoutDots_folderOf {base : Text} (hid : Path.isAbsolute page.id = false) :
    Path.withoutDots (folderOf base page) = Path.withoutDots base ++ Path.steps page.id := by
  unfold folderOf
  split
  · rename_i hnil
    rw [hnil, Path.steps_nil, List.append_nil]
  · exact Path.withoutDots_join hid

theorem folderOf_ne_nil {base : Text} (hbase : base ≠ []) : folderOf base page ≠ [] := by
  unfold folderOf
  split
  · exact hbase
  · rename_i hid
    exact join_ne_nil hid

theorem folderOf_absolute {base : Text} (hid : Path.isAbsolute page.id = true) :
    folderOf base page = page.id := by
  unfold folderOf
  split
  · rename_i hnil
    rw [hnil] at hid
    cases hid
  · exact Path.join_absolute hid

theorem withoutDots_base (hdest : Path.isAbsolute destination = false)
    (hid : Path.isAbsolute packageId = false) :
    Path.withoutDots (base folder destination packageId) =
      Path.withoutDots folder ++ Path.steps destination ++ Path.steps packageId := by
  rw [base, Path.withoutDots_join hid, Path.withoutDots_join hdest]

theorem parent_not_mem_steps (h : page.id = [] ∨ Text.Dotted page.id) :
    .parent ∉ Path.steps page.id := by
  intro hmem
  rcases h with hnil | hdotted
  · rw [hnil] at hmem
    cases hmem
  · exact hdotted.not_infix (Path.infix_of_parent_mem hmem)

theorem contained_of_relative (hdest : Path.isAbsolute destination = false)
    (hpackage : packageId ≠ [] ∧ Project.isSegment packageId = true)
    (hid : page.id = [] ∨ Text.Dotted page.id) (relative : Path.isAbsolute page.id = false) :
    Contained folder destination packageId page := by
  have hbase : base folder destination packageId ≠ [] := base_ne_nil hpackage.1
  obtain ⟨hrel, -⟩ := Package.steps_id hpackage
  refine ⟨⟨Path.steps page.id ++ [.name "index.md"], ?_, ?_⟩, ?_⟩
  · have hindex : Path.steps "index.md".toList = [.name "index.md"] := by decide
    rw [plannedPage, Path.components_join (folderOf_ne_nil hbase) (by decide),
      components_folderOf hbase relative, hindex, List.append_assoc]
  · rw [List.mem_append, not_or]
    exact ⟨parent_not_mem_steps hid, by decide⟩
  · rw [withoutDots_folderOf relative, withoutDots_base hdest hrel, Route.steps_page]
    simp only [List.append_assoc]

/-- A route has more steps than an absolute id, or its first step is no root. -/
theorem relative_of_contained (hpackage : packageId ≠ [] ∧ Project.isSegment packageId = true)
    (h : Contained folder destination packageId page) : Path.isAbsolute page.id = false := by
  cases hid : Path.isAbsolute page.id with
  | false => rfl
  | true =>
    obtain ⟨-, hsteps⟩ := Package.steps_id hpackage
    have hm := h.mirrored
    rw [folderOf_absolute hid, Path.withoutDots_eq page.id, if_pos hid, Route.steps_page, hsteps,
      ← List.append_assoc, ← List.append_assoc, List.append_left_inj] at hm
    have hlast := congrArg List.getLast? hm
    rw [List.getLast?_append] at hlast
    cases hlast

theorem isAbsolute_id_iff {options : SiteOptions} {p : Package} {x : Export}
    (hpage : page ∈ (Site.generate options p x).pages) :
    Path.isAbsolute page.id = true ↔ ∃ e, Site.BuiltFrom options.style x.entries e page ∧
      Path.isAbsolute e.owningType = true := by
  have valid : ∀ e ∈ x.entries, e.id.Valid := fun _ => Export.valid_of_mem
  constructor
  · intro habs
    rcases List.mem_cons.mp hpage with rfl | hpage
    · cases habs
    · obtain ⟨e, he⟩ := (Site.exists_builtFrom_iff options.style valid page).mpr hpage
      exact ⟨e, he, by rw [← he.isAbsolute_id valid, habs]⟩
  · intro ⟨e, he, habs⟩
    rw [he.isAbsolute_id valid, habs]

/-- A site of accepted settings for an accepted package keeps a page where it belongs unless the
type or namespace of the page begins with a slash. -/
theorem contained_iff {t : Text} {p : Package} {options : SiteOptions} {x : Export}
    (folder : Text) (accepted : Project.read t = .ok p) (checked : Settings.check options = .ok ())
    (hpage : page ∈ (Site.generate options p x).pages) :
    Contained folder options.destination p.id page ↔
      ¬ ∃ e, Site.BuiltFrom options.style x.entries e page ∧
        Path.isAbsolute e.owningType = true := by
  have hpackage := Project.id_of_read accepted
  obtain ⟨-, hdest⟩ := Settings.destination_of_check checked
  rw [← isAbsolute_id_iff hpage, Bool.not_eq_true]
  exact ⟨relative_of_contained hpackage,
    contained_of_relative hdest hpackage (Site.dotted_of_mem_pages hpage)⟩

theorem exists_contained :
    ∃ (x : Export) (page : Page), page ∈ (Site.generate {} { title := "A", id := "a" } x).pages ∧
      page.id = "Acme.Widget" ∧ Contained "in" "docs" "a" page := by
  let x : Export := ⟨[{ tag := "member", attributes := [("name", "T:Acme.Widget")] }]⟩
  obtain ⟨e, hfirst, hm⟩ : ∃ e, firstType? x.entries "Acme.Widget" = some e ∧
      e.isNamespaceMarker = false := ⟨_, by cbv, by cbv⟩
  obtain ⟨page, built, hid⟩ := Site.exists_builtFrom (SiteOptions.style {}) hfirst hm
  have hid : page.id = "Acme.Widget" := hid.trans (by cbv)
  have hpage := built.mem_pages { title := "A", id := "a" }
  refine ⟨x, page, hpage, hid, (contained_iff "in" Project.read_least (by cbv) hpage).mpr ?_⟩
  rw [← isAbsolute_id_iff hpage, hid]
  decide

/-- A slash at the start of an identifier takes the page out of the package's folder. -/
theorem exists_not_contained :
    ∃ (t : Text) (p : Package) (x : Export) (page : Page), Project.read t = .ok p ∧
      Settings.check {} = .ok () ∧ page ∈ (Site.generate {} p x).pages ∧
        ¬ Contained "in" "docs" p.id page := by
  let x : Export := ⟨[{ tag := "member", attributes := [("name", "T:/tmp/x")] }]⟩
  obtain ⟨e, hfirst, hm⟩ : ∃ e, firstType? x.entries "/tmp/x" = some e ∧
      e.isNamespaceMarker = false := ⟨_, by cbv, by cbv⟩
  obtain ⟨page, built, hid⟩ := Site.exists_builtFrom (SiteOptions.style {}) hfirst hm
  have hid : page.id = "/tmp/x" := hid.trans (by cbv)
  have hpage := built.mem_pages { title := "A", id := "a" }
  refine ⟨_, _, x, page, Project.read_least, by cbv, hpage, ?_⟩
  intro h
  have := relative_of_contained (Project.id_of_read Project.read_least) h
  rw [hid] at this
  cases this

end RefSite.Layout
