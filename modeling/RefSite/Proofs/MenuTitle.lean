import Mathlib
import RefSite.Proofs.SiteMenu
import RefSite.Proofs.Site

namespace RefSite

namespace NameForm

theorem afterLast_escaped_dotted {n : Text} (ns : List Text) (dotless : '.' ∉ n) :
    Text.afterLast '.' (escaped (Identifier.dotted (ns ++ [n]))) = escaped n := by
  have hn : '.' ∉ escaped n := (sameDots_escaped n).not_mem dotless
  rcases Identifier.dotted_concat ns n with h | ⟨s, h⟩
  · rw [h, Text.afterLast_of_not_mem hn]
  · rw [h, escaped, replaceArity_append_dot]
    exact Text.afterLast_append _ hn

end NameForm

namespace Site

variable {options : SiteOptions} {p : Package} {x : Export} {e : Entry} {page : Page}

theorem title_of_link {l : Link} (hl : l ∈ (generate options p x).menu.pages)
    (hpath : l.path = Route.page (Route.base options.destination p.id) page.id) :
    l.title = Route.title page.id := by
  rcases (menu_lists options p x).only l hl with rfl | ⟨page', -, rfl⟩
  · exact absurd hpath (Route.precedes_page _ _).ne
  · exact congrArg Route.title (Route.page_injective hpath)

/-- The short name of a type has no dots, and its title in the menu comes from its escaped form. -/
theorem title_escaped (valid : e.id.Valid) (hk : e.kind = .type) :
    '.' ∉ e.id.name ∧ Route.title (NameForm.escaped e.owningType) =
      NameForm.displayOfEscaped (NameForm.escaped e.id.name) := by
  obtain ⟨ns, n, howner⟩ : ∃ ns n, e.id.owner = ns ++ [n] :=
    ⟨_, _, (List.dropLast_concat_getLast valid.owner_ne_nil).symm⟩
  have hmem : n ∈ e.id.owner := howner ▸ List.mem_append_right ns List.mem_cons_self
  have hdotless : '.' ∉ n := (valid.segments n (Identifier.mem_path_of_mem_owner hmem)).2
  have hname : e.id.name = n := by
    rw [Identifier.name_of_type hk, howner]
    simp
  rw [hname, Route.title, Entry.owningType, Identifier.owningType, howner,
    NameForm.afterLast_escaped_dotted ns hdotless]
  exact ⟨hdotless, rfl⟩

/-- The menu shows a page's own title if the page is about a namespace or a type whose name comes
back from its escaped form. -/
def SameTitle (e : Entry) : Prop :=
  e.isNamespaceMarker = true ∨ NameForm.Recoverable e.id.name

theorem title_eq_iff (h : BuiltFrom options.style x.entries e page) :
    Route.title page.id = page.title ↔ SameTitle e := by
  cases h with
  | ofMarker _ hm =>
    have hid : Text.afterLast '.' (Route.namespaceId e.owningType) =
        (Page.ofNamespace options.style e).title := rfl
    -- the id is in lower case, so it has no letter of a mark
    have hsuffix : ¬ ['_', 'T'] <:+ (Page.ofNamespace options.style e).title := by
      intro hsuffix
      have hT : 'T' ∈ Text.afterLast '.' (Route.namespaceId e.owningType) :=
        hsuffix.subset (by simp)
      exact Text.not_mem_lower (by decide) (Text.mem_of_mem_afterLast hT)
    have hself := (NameForm.displayOfEscaped_eq_self_iff (Text.not_mem_afterLast '.' _)).mpr hsuffix
    exact ⟨fun _ => .inl hm, fun _ => hself⟩
  | ofType hfirst hm =>
    obtain ⟨he, hk, -⟩ := of_firstType? hfirst
    obtain ⟨hdotless, htitle⟩ := title_escaped (Export.valid_of_mem he) hk
    have hpage : (Page.ofType options.style (Family.ofOwner x.entries e.owningType) e).title =
        NameForm.display e.id.name := rfl
    have hid : (Page.ofType options.style (Family.ofOwner x.entries e.owningType) e).id =
        NameForm.escaped e.owningType := rfl
    rw [hid, hpage, htitle, NameForm.displayOfEscaped_escaped_iff hdotless]
    simp [SameTitle, hm]

/-- Each page but the package's has a link in the menu, and its links have its title just if the
title can be told from the id. -/
theorem link_title_iff (p : Package) (h : BuiltFrom options.style x.entries e page) :
    (∃ l ∈ (generate options p x).menu.pages,
        l.path = Route.page (Route.base options.destination p.id) page.id) ∧
      ∀ l ∈ (generate options p x).menu.pages,
        l.path = Route.page (Route.base options.destination p.id) page.id →
          (l.title = page.title ↔ SameTitle e) := by
  refine ⟨h.exists_link p, ?_⟩
  intro l hl hpath
  rw [title_of_link hl hpath, title_eq_iff h]

/-- The menu shows a generic type as its page does. -/
theorem exists_link_title :
    ∃ (x : Export) (page : Page) (l : Link),
      l ∈ (generate {} { title := "A", id := "a" } x).menu.pages ∧
        l.path = "/docs/a/Acme.List_T/" ∧ page.title = "List<T>" ∧ l.title = page.title := by
  let x : Export := ⟨[{ tag := "member", attributes := [("name", "T:Acme.List\x601")] }]⟩
  obtain ⟨e, hfirst, hm, hname⟩ : ∃ e, firstType? x.entries "Acme.List\x601" = some e ∧
      e.isNamespaceMarker = false ∧ e.id.name = "List\x601" := ⟨_, by cbv, by cbv, by cbv⟩
  obtain ⟨page, built, hid⟩ := exists_builtFrom (SiteOptions.style {}) hfirst hm
  obtain ⟨⟨l, hl, hpath⟩, htitle⟩ := link_title_iff { title := "A", id := "a" } built
  have hsame : l.title = page.title :=
    (htitle l hl hpath).mpr (.inr (.inr ⟨"List".toList.map .char, by simp, by rw [hname]; cbv⟩))
  have hid : page.id = "Acme.List_T" := hid.trans (by cbv)
  refine ⟨x, page, l, hl, ?_, ?_, hsame⟩
  · rw [hpath, hid]
    cbv
  · rw [← hsame, title_of_link hl hpath, hid]
    cbv

/-- A type that is not generic is shown as a generic one if its name ends in the text of a mark. -/
theorem exists_link_title_ne :
    ∃ (x : Export) (e : Entry) (page : Page) (l : Link), BuiltFrom {} x.entries e page ∧
      l ∈ (generate {} { title := "A", id := "a" } x).menu.pages ∧
        l.path = Route.page (Route.base "docs" "a") page.id ∧
          page.title = "List_T" ∧ l.title = "List<T>" := by
  let x : Export := ⟨[{ tag := "member", attributes := [("name", "T:List_T")] }]⟩
  obtain ⟨e, hfirst, hm, hname⟩ : ∃ e, firstType? x.entries "List_T" = some e ∧
      e.isNamespaceMarker = false ∧ e.name = "List_T" := ⟨_, by cbv, by cbv, by cbv⟩
  obtain ⟨-, -, ho⟩ := of_firstType? hfirst
  have built : BuiltFrom (SiteOptions.style {}) x.entries e _ := .ofType (ho.symm ▸ hfirst) hm
  obtain ⟨l, hl, hpath⟩ := built.exists_link { title := "A", id := "a" }
  refine ⟨x, e, _, l, built, hl, hpath, hname, ?_⟩
  have hid : (Page.ofType {} (Family.ofOwner x.entries e.owningType) e).id =
      NameForm.escaped e.owningType := rfl
  rw [title_of_link hl hpath, hid, ho]
  cbv

end Site

end RefSite
