import RefSite.Proofs.Site
import RefSite.Proofs.TypePage

namespace RefSite

variable {entries : List Entry} {e : Entry} {k : Text}

namespace Entry

/-- The word is part of the short name, in whatever case. -/
def NamesNamespace (e : Entry) : Prop := "namespace".toList <:+: Text.lower e.name

theorem isNamespaceMarker_iff : e.isNamespaceMarker = true ↔ e.kind = .type ∧ e.NamesNamespace := by
  rw [isNamespaceMarker, Bool.and_eq_true, decide_eq_true_iff, Text.contains_iff]
  rfl

instance : DecidablePred NamesNamespace := fun _ => decidable_of_iff _ Text.contains_iff

end Entry

theorem documented_iff : Documented entries k ↔
    ∃ e ∈ entries, e.kind = .type ∧ e.owningType = k ∧ ¬ e.NamesNamespace := by
  refine exists_congr fun e => and_congr_right fun _ => and_congr_right fun hk => ?_
  rw [← Bool.not_eq_true, Entry.isNamespaceMarker_iff, and_iff_right hk]

theorem marked_iff : Marked entries k ↔
    ∃ e ∈ entries, e.kind = .type ∧ e.owningType = k ∧ e.NamesNamespace := by
  refine exists_congr fun e => and_congr_right fun _ => and_congr_right fun hk => ?_
  rw [Entry.isNamespaceMarker_iff, and_iff_right hk]

namespace Site

/-- The page of an owning type, with the summary of its first type as description and a section for
each kind of member. -/
structure ShowsType (style : Style) (entries : List Entry) (k : Text) (page : Page) : Prop where
  id : page.id = NameForm.escaped k
  shown : ∃ e, firstType? entries k = some e ∧ page.title = e.name ∧
    page.body = Page.header style e ++
      Page.titled (style.wording .description) (Text.unlines e.summary) ++
      Page.memberSections.flatMap fun s =>
        Page.titled (style.wording s.title) (s.content style (Family.ofOwner entries k))

/-- The page of the namespace that a marker stands for, with the marker's summary. -/
structure ShowsNamespace (style : Style) (e : Entry) (page : Page) : Prop where
  id : page.id = Route.namespaceId e.owningType
  title : page.title = Text.afterLast '.' page.id
  body : page.body =
    Markdown.frontMatter (Markdown.escapeHtml page.title) (Markdown.escapeHtml page.id) ++
      "# " ++ style.wording .namespaceDescription ++ "\n\n" ++ Text.unlines e.summary ++ "\n"

/-- The pages that a site should have, each once and in order. -/
structure Covers (style : Style) (entries : List Entry) (s : Site) : Prop where
  types : List.Forall₂ (ShowsType style entries)
    ((owners entries).filter fun k =>
      ∃ e ∈ entries, e.kind = .type ∧ e.owningType = k ∧ ¬ e.NamesNamespace) s.types
  namespaces : List.Forall₂ (ShowsNamespace style)
    (entries.filter fun e => e.kind = .type ∧ e.NamesNamespace) s.namespaces
  /-- An owning type with types is in one of the families, and others are in none. -/
  apart : ∀ k, (∃ e ∈ entries, e.kind = .type ∧ e.owningType = k) ↔
    Xor (∃ e ∈ entries, e.kind = .type ∧ e.owningType = k ∧ ¬ e.NamesNamespace)
      (∃ e ∈ entries, e.kind = .type ∧ e.owningType = k ∧ e.NamesNamespace)

theorem documented_xor_marked (valid : ∀ e ∈ entries, e.id.Valid) (k : Text) :
    (∃ e ∈ entries, e.kind = .type ∧ e.owningType = k) ↔
      Xor (Documented entries k) (Marked entries k) := by
  constructor
  · rintro ⟨e, he, hk, ho⟩
    cases hm : e.isNamespaceMarker with
    | false =>
      have hd : Documented entries k := ⟨e, he, hk, ho, hm⟩
      exact .inl ⟨hd, not_marked_of_documented valid hd⟩
    | true =>
      have hm : Marked entries k := ⟨e, he, hk, ho, hm⟩
      exact .inr ⟨hm, fun hd => not_marked_of_documented valid hd hm⟩
  · rintro (⟨⟨e, he, hk, ho, -⟩, -⟩ | ⟨⟨e, he, hk, ho, -⟩, -⟩) <;> exact ⟨e, he, hk, ho⟩

/-- Summaries are read without white space at their ends, so the page shows them as they are. -/
theorem IsTypePage.showsType {style : Style} {x : Export} {page : Page}
    (h : IsTypePage style x.entries k page) : ShowsType style x.entries k page := by
  obtain ⟨e, hfirst, rfl, hid⟩ := h
  obtain ⟨element, -, helement⟩ := List.mem_filterMap.mp (of_firstType? hfirst).1
  refine ⟨hid, e, hfirst, rfl, ?_⟩
  rw [Page.ofType_body, Entry.trimEnd_summary helement]

theorem forall₂_showsType (style : Style) (x : Export) :
    List.Forall₂ (ShowsType style x.entries)
      ((owners x.entries).filter fun k =>
        ∃ e ∈ x.entries, e.kind = .type ∧ e.owningType = k ∧ ¬ e.NamesNamespace)
      (typePages style x.entries) := by
  have h := forall₂_typePages style fun _ => Export.valid_of_mem (x := x)
  simp only [documented_iff] at h
  exact h.imp fun _ _ => IsTypePage.showsType

theorem forall₂_showsNamespace (style : Style) (entries : List Entry) :
    List.Forall₂ (ShowsNamespace style)
      (entries.filter fun e => e.kind = .type ∧ e.NamesNamespace)
      (namespacePages style entries) := by
  have hmarkers : (entries.filter fun e => e.kind = .type ∧ e.NamesNamespace) =
      entries.filter Entry.isNamespaceMarker :=
    List.filter_congr fun e _ => by
      rw [Bool.eq_iff_iff, decide_eq_true_iff, Entry.isNamespaceMarker_iff]
  rw [hmarkers]
  exact List.forall₂_map_right_iff.mpr (List.forall₂_same.mpr fun _ _ => ⟨rfl, rfl, rfl⟩)

/-- Each documented type has its page, once and in the right family. -/
theorem generate_covers (options : SiteOptions) (p : Package) (x : Export) :
    Covers options.style x.entries (generate options p x) where
  types := forall₂_showsType options.style x
  namespaces := forall₂_showsNamespace options.style x.entries
  apart k := by
    rw [← documented_iff, ← marked_iff]
    exact documented_xor_marked (fun _ => Export.valid_of_mem) k

end Site

end RefSite
