import RefSite.Proofs.Accepted
import RefSite.Proofs.Markdown
import RefSite.Proofs.Site

namespace RefSite

/-- Neither of the characters that end a line of Markdown is in the text. -/
def Text.OneLine (t : Text) : Prop := '\n' ∉ t ∧ '\r' ∉ t

instance : DecidablePred Text.OneLine := fun t =>
  inferInstanceAs (Decidable ('\n' ∉ t ∧ '\r' ∉ t))

open Text (OneLine)

variable {s t title description : Text} {c : Char} {e : Entry} {page : Page}

namespace Text

theorem oneLine_append : OneLine (s ++ t) ↔ OneLine s ∧ OneLine t := by
  simp only [OneLine, List.mem_append, not_or]
  tauto

theorem OneLine.of_subset (h : OneLine t) (hsub : s ⊆ t) : OneLine s :=
  ⟨fun hc => h.1 (hsub hc), fun hc => h.2 (hsub hc)⟩

theorem oneLine_congr (hfeed : '\n' ∈ s ↔ '\n' ∈ t) (hreturn : '\r' ∈ s ↔ '\r' ∈ t) :
    OneLine s ↔ OneLine t := by
  rw [OneLine, OneLine, hfeed, hreturn]

end Text

theorem Markdown.oneLine_escapeHtml_iff : OneLine (escapeHtml t) ↔ OneLine t :=
  Text.oneLine_congr (mem_escapeHtml_iff (by decide)) (mem_escapeHtml_iff (by decide))

theorem NameForm.oneLine_display_iff : OneLine (display t) ↔ OneLine t :=
  Text.oneLine_congr (mem_replaceArity_iff (by decide) (by decide) (by decide))
    (mem_replaceArity_iff (by decide) (by decide) (by decide))

/-- A last segment that is left out has letters only. -/
theorem Route.mem_namespaceOf_iff (hdot : c ≠ '.') (hc : c.toLower ∉ "namespace".toList) :
    c ∈ namespaceOf t ↔ c ∈ t := by
  unfold namespaceOf
  split
  · rename_i outer houter
    split
    · rename_i hlast
      have hrest : c ∉ Text.afterLast '.' t := by
        intro hmem
        exact hc (hlast ▸ List.mem_map_of_mem hmem)
      conv_rhs => rw [Text.beforeLast?_eq houter]
      simp [hdot, hrest]
    · rfl
  · rfl

theorem Route.oneLine_namespaceId_iff : OneLine (namespaceId t) ↔ OneLine t := by
  rw [namespaceId_eq]
  apply Text.oneLine_congr
  · rw [Text.mem_lower_iff (by decide), mem_namespaceOf_iff (by decide) (by decide)]
  · rw [Text.mem_lower_iff (by decide), mem_namespaceOf_iff (by decide) (by decide)]

/-- The page begins with front matter of two lines, a title and a description. -/
structure Page.Headed (page : Page) (title description : Text) : Prop where
  opening : (Text.lines page.body).take 4 =
    ["---".toList, "title : ".toList ++ title, "description: ".toList ++ description, "---".toList]
  title : OneLine title
  description : OneLine description

/-- Line breaks in the texts of the front matter make lines of their own. -/
theorem Markdown.lines_frontMatter (title description rest : Text) :
    Text.lines (frontMatter title description ++ rest) =
      "---".toList :: (Text.lines ("title : ".toList ++ title) ++
        (Text.lines ("description: ".toList ++ description) ++
          "---".toList :: [] :: [] :: Text.lines rest)) := by
  have hopening : "---\ntitle : ".toList = "---".toList ++ '\n' :: "title : ".toList := by decide
  have hmiddle : "\ndescription: ".toList = '\n' :: "description: ".toList := by decide
  have hclosing : "\n---\n\n\n".toList = '\n' :: ("---".toList ++ ['\n', '\n', '\n']) := by
    decide
  have hform : frontMatter title description ++ rest =
      "---".toList ++ '\n' :: (("title : ".toList ++ title) ++
        '\n' :: (("description: ".toList ++ description) ++
          '\n' :: ("---".toList ++ '\n' :: '\n' :: '\n' :: rest))) := by
    unfold frontMatter
    rw [hopening, hmiddle, hclosing]
    simp only [List.append_assoc, List.cons_append, List.nil_append]
  have hline : Text.split '\n' "---".toList = ["---".toList] := by decide
  rw [hform]
  simp only [Text.lines, Text.split_append_sep, hline, Text.split, if_true, List.cons_append,
    List.nil_append]

/-- Front matter of one-line texts is all that stands before its closing line. -/
theorem Page.headed_iff_oneLine {rest : Text}
    (hbody : page.body = Markdown.frontMatter title description ++ rest) :
    page.Headed title description ↔ OneLine title ∧ OneLine description := by
  refine ⟨fun h => ⟨h.title, h.description⟩, ?_⟩
  rintro ⟨htitle, hdescription⟩
  refine ⟨?_, htitle, hdescription⟩
  have hfirst : '\n' ∉ "title : ".toList ++ title := by simp [htitle.1]
  have hsecond : '\n' ∉ "description: ".toList ++ description := by simp [hdescription.1]
  rw [hbody, Markdown.lines_frontMatter, Text.lines, Text.split_of_notMem hfirst, Text.lines,
    Text.split_of_notMem hsecond]
  rfl

namespace Site

/-- The title and the description in the front matter of a page, with the texts that the page takes
them from. -/
inductive Fronted (style : Style) (p : Package) (entries : List Entry) :
    Page → List Text → Text → Text → Prop
  | ofPackage : Fronted style p entries (Page.ofPackage style p) [p.title, p.description]
    ("package ".toList ++ Markdown.escapeHtml p.title) p.description
  | ofMarker {e : Entry} : e ∈ entries → e.isNamespaceMarker = true →
    Fronted style p entries (Page.ofNamespace style e) [e.owningType]
      (Markdown.escapeHtml (Page.ofNamespace style e).title)
      (Markdown.escapeHtml (Page.ofNamespace style e).id)
  | ofType {e : Entry} : firstType? entries e.owningType = some e → e.isNamespaceMarker = false →
    Fronted style p entries (Page.ofType style (Family.ofOwner entries e.owningType) e)
      [e.owningType] (Markdown.escapeHtml e.name)
      (Markdown.escapeHtml (NameForm.display e.owningType))

variable {options : SiteOptions} {style : Style} {p : Package} {x : Export} {entries : List Entry}
  {sources : List Text}

theorem exists_fronted (h : page ∈ (generate options p x).pages) :
    ∃ sources title description,
      Fronted options.style p x.entries page sources title description := by
  rcases List.mem_cons.mp h with rfl | h
  · exact ⟨_, _, _, .ofPackage⟩
  · obtain ⟨e, hpage⟩ :=
      (exists_builtFrom_iff options.style (fun _ => Export.valid_of_mem) page).mpr h
    cases hpage with
    | ofMarker he hm => exact ⟨_, _, _, .ofMarker he hm⟩
    | ofType hfirst hm => exact ⟨_, _, _, .ofType hfirst hm⟩

theorem Fronted.prefix_body (h : Fronted style p entries page sources title description) :
    Markdown.frontMatter title description <+: page.body := by
  cases h with
  | ofPackage =>
    simp only [Page.ofPackage, List.append_assoc]
    exact List.prefix_append _ _
  | ofMarker _ _ =>
    simp only [Page.ofNamespace, List.append_assoc]
    exact List.prefix_append _ _
  | ofType _ _ =>
    simp only [Page.ofType, List.append_assoc]
    exact List.prefix_append _ _

theorem name_subset (valid : e.id.Valid) (hk : e.kind = .type) : e.id.name ⊆ e.owningType := by
  have hmem : e.id.name ∈ e.id.owner := Identifier.name_of_type hk ▸ valid.typeName_mem
  exact (Text.infix_join hmem _).subset

theorem Fronted.oneLine_iff (valid : ∀ e ∈ entries, e.id.Valid)
    (h : Fronted style p entries page sources title description) :
    OneLine title ∧ OneLine description ↔ ∀ t ∈ sources, OneLine t := by
  cases h with
  | ofPackage =>
    have hword : OneLine "package ".toList := by decide
    rw [Text.oneLine_append, Markdown.oneLine_escapeHtml_iff, and_iff_right hword,
      List.forall_mem_cons, List.forall_mem_singleton]
  | @ofMarker e _ _ =>
    have hid : OneLine (Page.ofNamespace style e).id ↔ OneLine e.owningType :=
      Route.oneLine_namespaceId_iff
    rw [Markdown.oneLine_escapeHtml_iff, Markdown.oneLine_escapeHtml_iff, List.forall_mem_singleton,
      hid, and_iff_right_iff_imp]
    intro h
    exact (hid.mpr h).of_subset fun _ => Text.mem_of_mem_afterLast
  | @ofType e hfirst _ =>
    obtain ⟨he, hk, -⟩ := of_firstType? hfirst
    rw [Markdown.oneLine_escapeHtml_iff, Markdown.oneLine_escapeHtml_iff, List.forall_mem_singleton,
      NameForm.oneLine_display_iff, and_iff_right_iff_imp]
    intro h
    exact NameForm.oneLine_display_iff.mpr (h.of_subset (name_subset (valid e he) hk))

/-- Each page of a site has front matter of a title and a description, and it begins with them in
two lines just if there is no line break in the texts of the project or the export that they are
taken from. -/
theorem headed_iff (hpage : page ∈ (generate options p x).pages) :
    (∃ sources title description,
        Fronted options.style p x.entries page sources title description) ∧
      ∀ sources title description,
        Fronted options.style p x.entries page sources title description →
          (page.Headed title description ↔ ∀ t ∈ sources, OneLine t) := by
  refine ⟨exists_fronted hpage, ?_⟩
  intro sources title description h
  obtain ⟨rest, hbody⟩ := h.prefix_body
  rw [Page.headed_iff_oneLine hbody.symm, h.oneLine_iff fun _ => Export.valid_of_mem]

/-- The page of a type begins with the type's name in two forms. -/
theorem exists_headed :
    ∃ (x : Export) (page : Page), page ∈ (generate {} { title := "A", id := "a" } x).pages ∧
      page.Headed "List&lt;T&gt;" "Acme.List&lt;T&gt;" := by
  let x : Export := ⟨[{ tag := "member", attributes := [("name", "T:Acme.List\x601")] }]⟩
  obtain ⟨e, hfirst, hm, hname⟩ : ∃ e, firstType? x.entries "Acme.List\x601" = some e ∧
      e.isNamespaceMarker = false ∧ e.name = "List<T>" := ⟨_, by cbv, by cbv, by cbv⟩
  obtain ⟨-, -, ho⟩ := of_firstType? hfirst
  have hfirst : firstType? x.entries e.owningType = some e := ho.symm ▸ hfirst
  have built : BuiltFrom (SiteOptions.style {}) x.entries e _ := .ofType hfirst hm
  have hpage : _ ∈ (generate {} { title := "A", id := "a" } x).pages := built.mem_pages _
  have hheaded := ((headed_iff hpage).2 _ _ _ (.ofType hfirst hm)).mpr (by rw [ho]; decide)
  have htitle : Markdown.escapeHtml e.name = "List&lt;T&gt;" := by
    rw [hname]
    decide
  have hdescription : Markdown.escapeHtml (NameForm.display e.owningType) =
      "Acme.List&lt;T&gt;" := by
    rw [ho]
    decide
  exact ⟨x, _, hpage, htitle ▸ hdescription ▸ hheaded⟩

/-- The description of an accepted package can break the front matter of its page. -/
theorem exists_not_headed :
    ∃ (t : Text) (p : Package), Project.read t = .ok p ∧
      ∀ (options : SiteOptions) (x : Export) (title description : Text),
        ¬ (generate options p x).package.Headed title description := by
  let p : Package := { title := "A", id := "a", description := "First line.\nSecond line." }
  refine ⟨"<Project><PropertyGroup><title>A</title><id>a</id>".toList ++
    "<description>First line.\nSecond line.</description></PropertyGroup></Project>".toList, p,
    by cbv, ?_⟩
  intro options x title description h
  have hfronted : Fronted options.style p x.entries (generate options p x).package _ _ _ :=
    .ofPackage
  obtain ⟨rest, hbody⟩ := hfronted.prefix_body
  have hopening := h.opening
  rw [← hbody, Markdown.lines_frontMatter] at hopening
  have htitle : Text.lines ("title : ".toList ++ ("package ".toList ++
      Markdown.escapeHtml p.title)) = ["title : package A".toList] := by cbv
  have hdescription : Text.lines ("description: ".toList ++ p.description) =
      ["description: First line.".toList, "Second line.".toList] := by cbv
  rw [htitle, hdescription] at hopening
  have hclosing : "Second line.".toList = "---".toList := by
    simpa using congrArg (·.getLast?) hopening
  exact absurd hclosing (by decide)

end Site

end RefSite
