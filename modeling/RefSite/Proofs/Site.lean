import Mathlib.Data.List.Forall2
import RefSite.Proofs.Family
import RefSite.Proofs.NameForm
import RefSite.Proofs.Route
import RefSite.Site

namespace RefSite

variable {entries : List Entry} {e : Entry} {k : Text}

/-- The first type among the entries of an owning type. -/
def firstType? (entries : List Entry) (k : Text) : Option Entry :=
  entries.find? fun e => e.kind = .type && e.owningType = k

theorem of_firstType? (h : firstType? entries k = some e) :
    e ∈ entries ∧ e.kind = .type ∧ e.owningType = k := by
  obtain ⟨hk, ho⟩ : e.kind = .type ∧ e.owningType = k := by simpa using List.find?_some h
  exact ⟨List.mem_of_find?_eq_some h, hk, ho⟩

def Documented (entries : List Entry) (k : Text) : Prop :=
  ∃ e ∈ entries, e.kind = .type ∧ e.owningType = k ∧ e.isNamespaceMarker = false

def Marked (entries : List Entry) (k : Text) : Prop :=
  ∃ e ∈ entries, e.kind = .type ∧ e.owningType = k ∧ e.isNamespaceMarker = true

instance : DecidablePred (Documented entries) := fun k =>
  inferInstanceAs (Decidable (∃ e ∈ entries,
    e.kind = .type ∧ e.owningType = k ∧ e.isNamespaceMarker = false))

theorem not_marked_of_documented (valid : ∀ e ∈ entries, e.id.Valid) (h : Documented entries k) :
    ¬ Marked entries k := by
  obtain ⟨e, he, hk, ho, hm⟩ := h
  rintro ⟨e', he', hk', ho', hm'⟩
  have := Entry.isNamespaceMarker_eq (valid e he) (valid e' he') hk hk' (ho.trans ho'.symm)
  rw [hm, hm'] at this
  cases this

/-- All types of a documented owning type count for its page, so the first one does. -/
theorem Family.page?_of_documented (valid : ∀ e ∈ entries, e.id.Valid)
    (h : Documented entries k) : (Family.ofOwner entries k).page? = firstType? entries k := by
  rw [Family.page?, Family.ofOwner, firstType?, List.find?_filter, ← List.head?_filter,
    ← List.head?_filter]
  apply congrArg List.head?
  apply List.filter_congr
  intro e he
  by_cases hk : e.kind = .type ∧ e.owningType = k
  · obtain ⟨hk, ho⟩ := hk
    have hm : e.isNamespaceMarker = false := by
      by_contra hm
      exact not_marked_of_documented valid h ⟨e, he, hk, ho, by simpa using hm⟩
    simp [hk, ho, hm]
  · by_cases ho : e.owningType = k <;> simp_all

theorem Family.page?_of_not_documented (h : ¬ Documented entries k) :
    (Family.ofOwner entries k).page? = none := by
  apply List.find?_eq_none.mpr
  intro e he hp
  apply h
  obtain ⟨he, ho⟩ := List.mem_filter.mp he
  obtain ⟨hk, hm⟩ : e.kind = .type ∧ e.isNamespaceMarker = false := by simpa using hp
  exact ⟨e, he, hk, by simpa using ho, hm⟩

theorem exists_firstType? (h : Documented entries k) :
    ∃ e, firstType? entries k = some e ∧ e ∈ entries ∧ e.kind = .type ∧ e.owningType = k := by
  obtain ⟨e, he, hk, ho, -⟩ := h
  have hsome : (firstType? entries k).isSome = true :=
    List.find?_isSome.mpr ⟨e, he, by simp [hk, ho]⟩
  obtain ⟨e', he'⟩ := Option.isSome_iff_exists.mp hsome
  exact ⟨e', he', of_firstType? he'⟩

/-- What a filter leaves and what a partial function makes of it stand side by side. -/
theorem forall₂_filterMap {α β : Type} {P : α → Prop} [DecidablePred P] {R : α → β → Prop}
    {g : α → Option β} (hsome : ∀ a, P a → ∃ b, g a = some b ∧ R a b)
    (hnone : ∀ a, ¬ P a → g a = none) (l : List α) :
    List.Forall₂ R (l.filter fun a => P a) (l.filterMap g) := by
  induction l with
  | nil => exact .nil
  | cons a l ih =>
    by_cases ha : P a
    · obtain ⟨b, hb, hr⟩ := hsome a ha
      rw [List.filter_cons_of_pos (by simpa using ha), List.filterMap_cons_some hb]
      exact .cons hr ih
    · rw [List.filter_cons_of_neg (by simpa using ha), List.filterMap_cons_none (hnone a ha)]
      exact ih

namespace Site

/-- The page of an owning type: about its first type, with all its entries. -/
def IsTypePage (style : Style) (entries : List Entry) (k : Text) (page : Page) : Prop :=
  ∃ e, firstType? entries k = some e ∧
    page = Page.ofType style (Family.ofOwner entries k) e ∧ page.id = NameForm.escaped k

theorem typePages_eq (style : Style) (entries : List Entry) :
    typePages style entries =
      (owners entries).filterMap fun k => Page.ofFamily? style (Family.ofOwner entries k) := by
  rw [typePages, Family.gather_eq, List.filterMap_map]
  rfl

theorem forall₂_typePages (style : Style) (valid : ∀ e ∈ entries, e.id.Valid) :
    List.Forall₂ (IsTypePage style entries)
      ((owners entries).filter fun k => Documented entries k) (typePages style entries) := by
  rw [typePages_eq]
  refine forall₂_filterMap ?_ ?_ _
  · intro k hk
    obtain ⟨e, hfirst, -, -, ho⟩ := exists_firstType? hk
    refine ⟨_, ?_, e, hfirst, rfl, congrArg NameForm.escaped ho⟩
    rw [Page.ofFamily?, Family.page?_of_documented valid hk, hfirst]
    rfl
  · intro k hk
    rw [Page.ofFamily?, Family.page?_of_not_documented hk]
    rfl

/-- The page is about what the entry documents, a namespace or a type. -/
inductive BuiltFrom (style : Style) (entries : List Entry) : Entry → Page → Prop
  | ofMarker {e : Entry} : e ∈ entries → e.isNamespaceMarker = true →
    BuiltFrom style entries e (Page.ofNamespace style e)
  | ofType {e : Entry} : firstType? entries e.owningType = some e → e.isNamespaceMarker = false →
    BuiltFrom style entries e (Page.ofType style (Family.ofOwner entries e.owningType) e)

theorem exists_builtFrom {entries : List Entry} {e : Entry} {k : Text} (style : Style)
    (hfirst : firstType? entries k = some e) (hm : e.isNamespaceMarker = false) :
    ∃ page, BuiltFrom style entries e page ∧ page.id = NameForm.escaped k := by
  obtain ⟨-, -, rfl⟩ := of_firstType? hfirst
  exact ⟨_, .ofType hfirst hm, rfl⟩

theorem BuiltFrom.mem {style : Style} {page : Page} (h : BuiltFrom style entries e page) :
    e ∈ entries := by
  cases h with
  | ofMarker he _ => exact he
  | ofType hfirst _ => exact (of_firstType? hfirst).1

theorem BuiltFrom.isAbsolute_id {style : Style} {page : Page} (valid : ∀ e ∈ entries, e.id.Valid)
    (h : BuiltFrom style entries e page) :
    Path.isAbsolute page.id = Path.isAbsolute e.owningType := by
  have hdotted := (valid e h.mem).dotted
  cases h with
  | ofMarker _ _ => exact Route.isAbsolute_namespaceId hdotted
  | ofType _ _ => exact Route.isAbsolute_escaped _

theorem BuiltFrom.dotted_id {style : Style} {page : Page} (valid : ∀ e ∈ entries, e.id.Valid)
    (h : BuiltFrom style entries e page) : Text.Dotted page.id := by
  have hdotted := (valid e h.mem).dotted
  cases h with
  | ofMarker _ _ => exact Route.dotted_namespaceId hdotted
  | ofType _ _ => exact (NameForm.sameDots_escaped _).dotted hdotted

theorem mem_typePages (style : Style) (valid : ∀ e ∈ entries, e.id.Valid)
    (hfirst : firstType? entries k = some e) (hm : e.isNamespaceMarker = false) :
    Page.ofType style (Family.ofOwner entries k) e ∈ typePages style entries := by
  obtain ⟨he, hk, ho⟩ := of_firstType? hfirst
  have hd : Documented entries k := ⟨e, he, hk, ho, hm⟩
  rw [typePages_eq]
  refine List.mem_filterMap.mpr ⟨k, Family.mem_owners.mpr ⟨e, he, ho⟩, ?_⟩
  rw [Page.ofFamily?, Family.page?_of_documented valid hd, hfirst]
  rfl

/-- Each page but the package's is built from an entry, and each entry built from shows. -/
theorem exists_builtFrom_iff (style : Style) (valid : ∀ e ∈ entries, e.id.Valid) (page : Page) :
    (∃ e, BuiltFrom style entries e page) ↔
      page ∈ namespacePages style entries ++ typePages style entries := by
  rw [List.mem_append]
  constructor
  · rintro ⟨e, h⟩
    cases h with
    | ofMarker he hm => exact .inl (List.mem_map.mpr ⟨e, List.mem_filter.mpr ⟨he, hm⟩, rfl⟩)
    | ofType hfirst hm => exact .inr (mem_typePages style valid hfirst hm)
  · rw [typePages_eq]
    rintro (h | h)
    · obtain ⟨e, he, rfl⟩ := List.mem_map.mp h
      obtain ⟨he, hm⟩ := List.mem_filter.mp he
      exact ⟨e, .ofMarker he hm⟩
    · obtain ⟨k, -, hpage⟩ := List.mem_filterMap.mp h
      obtain ⟨e, he, rfl⟩ := Option.map_eq_some_iff.mp hpage
      have hd : Documented entries k := by
        by_contra hd
        rw [Family.page?_of_not_documented hd] at he
        cases he
      obtain ⟨-, hm⟩ : e.kind = .type ∧ e.isNamespaceMarker = false := by
        simpa using List.find?_some he
      rw [Family.page?_of_documented valid hd] at he
      obtain ⟨-, -, rfl⟩ := of_firstType? he
      exact ⟨e, .ofType he hm⟩

theorem BuiltFrom.mem_pages {options : SiteOptions} {x : Export} {page : Page} (p : Package)
    (h : BuiltFrom options.style x.entries e page) : page ∈ (generate options p x).pages :=
  List.mem_cons_of_mem _ <|
    (exists_builtFrom_iff options.style (fun _ => Export.valid_of_mem) page).mp ⟨e, h⟩

/-- Ids of pages have no empty dotted segments; only the page of the package has an empty id. -/
theorem dotted_of_mem_pages {options : SiteOptions} {p : Package} {x : Export} {page : Page}
    (h : page ∈ (generate options p x).pages) : page.id = [] ∨ Text.Dotted page.id := by
  rcases List.mem_cons.mp h with rfl | h
  · exact .inl rfl
  · obtain ⟨e, hpage⟩ :=
      (exists_builtFrom_iff options.style (fun _ => Export.valid_of_mem) page).mpr h
    exact .inr (hpage.dotted_id fun _ => Export.valid_of_mem)

end Site

end RefSite
