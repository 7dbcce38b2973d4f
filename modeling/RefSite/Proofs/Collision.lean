import RefSite.Proofs.Layout
import RefSite.Proofs.Menu

namespace RefSite

namespace Layout

variable {base : Text} {page : Page}

/-- Where an id leads from the folder of the package. -/
def place (base id : Text) : List Path.Component :=
  if Path.isAbsolute id then .root :: Path.steps id
  else Path.components base ++ Path.steps id

def Overlap (base id id' : Text) : Prop := id ≠ id' ∧ place base id = place base id'

theorem start_of_dotted {id : Text} (h : Text.Dotted id) (relative : Path.isAbsolute id = false) :
    Path.start id = [] := by
  unfold Path.start
  rw [relative]
  split
  · contradiction
  split
  · rename_i hhead
    obtain ⟨ns, hs⟩ := List.head?_eq_some_iff.mp hhead
    exfalso
    have hid := Text.join_split '/' id
    rw [hs] at hid
    obtain ⟨r, hr⟩ : ∃ r, id = '.' :: r := by
      by_cases hns : ns = []
      · subst hns
        exact ⟨[], hid.symm⟩
      · rw [Text.join_cons _ _ hns] at hid
        exact ⟨_, hid.symm⟩
    rw [hr] at h
    exact h (by simp [Text.split])
  · rfl

theorem components_folderOf_eq (hid : Text.Dotted page.id) :
    Path.components (folderOf base page) = place base page.id := by
  unfold place
  split
  · rename_i habs
    rw [folderOf_absolute habs, Path.components_eq, Path.start, if_pos habs]
    rfl
  · rename_i hrel
    have hrel : Path.isAbsolute page.id = false := by simpa using hrel
    by_cases hbase : base = []
    · have hfolder : folderOf base page = page.id := by
        simp [folderOf, hid.ne_nil, hbase, Path.join, hrel]
      rw [hfolder, Path.components_eq, start_of_dotted hid hrel, hbase]
      rfl
    · exact components_folderOf hbase hrel

end Layout

namespace Site

variable {style : Style} {entries : List Entry} {e e' : Entry} {page page' : Page}

/-- The type has the name of the namespace in lower case. -/
def NamedAlike (type marker : Entry) : Prop :=
  .mark ∉ NameForm.pieces type.owningType ∧
    type.owningType = Text.lower (Route.namespaceOf marker.owningType)

/-- The entries have pages of one id: types that differ in how a mark is written, namespaces that
differ in case, or a type and a namespace. -/
def Clash (e e' : Entry) : Prop :=
  match e.isNamespaceMarker, e'.isNamespaceMarker with
  | false, false =>
    NameForm.Agree (NameForm.pieces e.owningType) (NameForm.pieces e'.owningType)
  | true, true =>
    Text.lower (Route.namespaceOf e.owningType) = Text.lower (Route.namespaceOf e'.owningType)
  | false, true => NamedAlike e e'
  | true, false => NamedAlike e' e

theorem id_eq_iff (h : BuiltFrom style entries e page) (h' : BuiltFrom style entries e' page') :
    page.id = page'.id ↔ Clash e e' := by
  cases h with
  | ofMarker _ hm =>
    cases h' with
    | ofMarker _ hm' =>
      rw [Clash, hm, hm']
      exact Iff.rfl
    | ofType _ hm' =>
      rw [Clash, hm, hm', eq_comm]
      exact Route.escaped_eq_namespaceId_iff
  | ofType _ hm =>
    cases h' with
    | ofMarker _ hm' =>
      rw [Clash, hm, hm']
      exact Route.escaped_eq_namespaceId_iff
    | ofType _ hm' =>
      rw [Clash, hm, hm']
      exact NameForm.escaped_eq_iff

/-- Two pages have ids, folders and links in the menu of their own. -/
structure Apart (options : SiteOptions) (p : Package) (x : Export) (folder : Text)
    (page page' : Page) : Prop where
  ids : page.id ≠ page'.id
  folders : Path.components (Layout.folderOf (Layout.base folder options.destination p.id) page) ≠
    Path.components (Layout.folderOf (Layout.base folder options.destination p.id) page')
  links : ∃ l ∈ (generate options p x).menu.pages, ∃ l' ∈ (generate options p x).menu.pages,
    l.path = Route.page (Route.base options.destination p.id) page.id ∧
      l'.path = Route.page (Route.base options.destination p.id) page'.id ∧ l.path ≠ l'.path

theorem exists_links {options : SiteOptions} {p : Package} {x : Export}
    (h : BuiltFrom options.style x.entries e page)
    (h' : BuiltFrom options.style x.entries e' page') (hid : page.id ≠ page'.id) :
    ∃ l ∈ (generate options p x).menu.pages, ∃ l' ∈ (generate options p x).menu.pages,
      l.path = Route.page (Route.base options.destination p.id) page.id ∧
        l'.path = Route.page (Route.base options.destination p.id) page'.id ∧
          l.path ≠ l'.path := by
  obtain ⟨l, hl, hp⟩ := h.exists_link p
  obtain ⟨l', hl', hp'⟩ := h'.exists_link p
  refine ⟨l, hl, l', hl', hp, hp', ?_⟩
  intro he
  apply hid
  rw [hp, hp'] at he
  exact Route.page_injective he

/-- Two pages of a site keep out of each other's way unless their entries clash or their ids lead to
one folder. -/
theorem apart_iff {options : SiteOptions} {p : Package} {x : Export} (folder : Text)
    (h : BuiltFrom options.style x.entries e page)
    (h' : BuiltFrom options.style x.entries e' page') :
    Apart options p x folder page page' ↔ ¬ Clash e e' ∧
      ¬ Layout.Overlap (Layout.base folder options.destination p.id) page.id page'.id := by
  have valid : ∀ e ∈ x.entries, e.id.Valid := fun _ => Export.valid_of_mem
  rw [← id_eq_iff h h']
  constructor
  · intro ⟨hid, hfolder, _⟩
    rw [Layout.components_folderOf_eq (h.dotted_id valid),
      Layout.components_folderOf_eq (h'.dotted_id valid)] at hfolder
    exact ⟨hid, fun hover => hfolder hover.2⟩
  · intro ⟨hid, hover⟩
    refine ⟨hid, ?_, exists_links h h' hid⟩
    intro hfolder
    apply hover
    refine ⟨hid, ?_⟩
    rwa [Layout.components_folderOf_eq (h.dotted_id valid),
      Layout.components_folderOf_eq (h'.dotted_id valid)] at hfolder

/-- Two types of different names have pages of their own. -/
theorem exists_apart :
    ∃ (x : Export) (page page' : Page), page.id = "Acme.Widget" ∧ page'.id = "Acme.Gadget" ∧
      Apart {} { title := "A", id := "a" } x "in" page page' := by
  let x : Export := ⟨[{ tag := "member", attributes := [("name", "T:Acme.Widget")] },
    { tag := "member", attributes := [("name", "T:Acme.Gadget")] }]⟩
  obtain ⟨e, hfirst, hm⟩ : ∃ e, firstType? x.entries "Acme.Widget" = some e ∧
      e.isNamespaceMarker = false := ⟨_, by cbv, by cbv⟩
  obtain ⟨e', hfirst', hm'⟩ : ∃ e, firstType? x.entries "Acme.Gadget" = some e ∧
      e.isNamespaceMarker = false := ⟨_, by cbv, by cbv⟩
  obtain ⟨page, built, hid⟩ := exists_builtFrom (SiteOptions.style {}) hfirst hm
  obtain ⟨page', built', hid'⟩ := exists_builtFrom (SiteOptions.style {}) hfirst' hm'
  have hid : page.id = "Acme.Widget" := hid.trans (by cbv)
  have hid' : page'.id = "Acme.Gadget" := hid'.trans (by cbv)
  refine ⟨x, page, page', hid, hid', (apart_iff "in" built built').mpr ⟨?_, ?_⟩⟩
  · rw [← id_eq_iff built built', hid, hid']
    decide
  · rintro ⟨-, hplace⟩
    rw [hid, hid'] at hplace
    exact absurd hplace (by decide)

/-- The text of a mark makes one type's page overwrite another's. -/
theorem exists_not_apart :
    ∃ (x : Export) (e e' : Entry) (page page' : Page),
      BuiltFrom {} x.entries e page ∧ BuiltFrom {} x.entries e' page' ∧
        e.owningType ≠ e'.owningType ∧ page.id = page'.id := by
  let x : Export := ⟨[{ tag := "member", attributes := [("name", "T:List\x601")] },
    { tag := "member", attributes := [("name", "T:List_T")] }]⟩
  obtain ⟨e, hfirst, hm⟩ : ∃ e, firstType? x.entries "List\x601" = some e ∧
      e.isNamespaceMarker = false := ⟨_, by cbv, by cbv⟩
  obtain ⟨e', hfirst', hm'⟩ : ∃ e, firstType? x.entries "List_T" = some e ∧
      e.isNamespaceMarker = false := ⟨_, by cbv, by cbv⟩
  obtain ⟨page, built, hid⟩ := exists_builtFrom {} hfirst hm
  obtain ⟨page', built', hid'⟩ := exists_builtFrom {} hfirst' hm'
  refine ⟨x, e, e', page, page', built, built', ?_, hid.trans (Eq.trans (by cbv) hid'.symm)⟩
  rw [(of_firstType? hfirst).2.2, (of_firstType? hfirst').2.2]
  decide

end Site

end RefSite
