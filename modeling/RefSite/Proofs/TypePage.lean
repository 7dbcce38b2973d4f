import RefSite.Page
import RefSite.Proofs.Fence

namespace RefSite

variable {f g : Family} {e type : Entry} {es : List Entry} {k : Kind} {w : Wording}

theorem Markdown.trimEnd_unlines_normalLines (t : Text) :
    Text.trimEnd (Text.unlines (normalLines t)) = Text.unlines (normalLines t) := by
  cases h : (normalLines t).getLast? with
  | none =>
    rw [List.getLast?_eq_none_iff.mp h]
    rfl
  | some l =>
    have hmem : l ∈ trimLines false (Text.lines t) :=
      Text.mem_of_mem_dropOuterEmpty (List.mem_of_getLast? h)
    exact Text.trimEnd_of_suffix (Text.suffix_join _ h) (trimEnd_of_mem_trimLines hmem)
      (Text.ne_nil_of_getLast?_dropOuterEmpty h)

/-- What is read as a summary has no white space at its end. -/
theorem Entry.trimEnd_summary {x : Xml.Element} (h : ofElement? x = some e) :
    Text.trimEnd (Text.unlines e.summary) = Text.unlines e.summary := by
  obtain ⟨id, -, he⟩ := Option.bind_eq_some_iff.mp h
  obtain rfl := Option.some.inj he
  dsimp only [section?]
  split
  · exact Markdown.trimEnd_unlines_normalLines _
  · rfl

namespace Family

/-- The members of a kind are not lost when other kinds are left out first. -/
theorem filter_kind_filter {q : Kind → Prop} [DecidablePred q] (hk : q k) (f : Family) :
    (f.entries.filter (q ·.kind)).filter (·.kind = k) = f.ofKind k := by
  rw [ofKind, List.filter_filter]
  refine List.filter_congr fun e _ => ?_
  by_cases he : e.kind = k
  · simp [he, hk]
  · simp [he]

/-- The members of some kinds, kind by kind. -/
theorem flatMap_ofKind_perm {ks : List Kind} (distinct : ks.Nodup) (f : Family) :
    (ks.flatMap f.ofKind).Perm (f.entries.filter (·.kind ∈ ks)) := by
  induction ks with
  | nil => simp
  | cons k ks ih =>
    obtain ⟨hk, distinct⟩ := List.nodup_cons.mp distinct
    have hsplit := List.filter_append_perm (fun e => decide (e.kind = k))
      (f.entries.filter (·.kind ∈ k :: ks))
    have hrest : (f.entries.filter (·.kind ∈ k :: ks)).filter (fun e => !decide (e.kind = k)) =
        f.entries.filter (·.kind ∈ ks) := by
      rw [List.filter_filter]
      refine List.filter_congr fun e _ => ?_
      by_cases he : e.kind = k <;> simp [he, hk]
    rw [filter_kind_filter (q := (· ∈ k :: ks)) List.mem_cons_self, hrest] at hsplit
    rw [List.flatMap_cons]
    exact ((ih distinct).append_left _).trans hsplit

end Family

namespace Page

/-- A section of members: their kind, its title and what it shows if there are none. -/
structure MemberSection where
  kind : Kind
  title : Phrase
  placeholder : Phrase

def memberSections : List MemberSection :=
  [⟨.constructor, .constructors, .noConstructors⟩, ⟨.method, .functions, .noFunctions⟩,
    ⟨.property, .properties, .noProperties⟩, ⟨.constant, .constants, .noConstants⟩]

/-- All members of the kind in order, without white space behind the last, or else the
placeholder. -/
def MemberSection.content (style : Style) (f : Family) (s : MemberSection) : Text :=
  if f.ofKind s.kind = [] then style.wording s.placeholder
  else Text.trimEnd (fragments style.wording (f.ofKind s.kind))

def header (style : Style) (type : Entry) : Text :=
  Markdown.frontMatter (Markdown.escapeHtml type.name)
      (Markdown.escapeHtml (NameForm.display type.owningType)) ++
    signatureBlock style type.name

def titled (title content : Text) : Text := "## " ++ title ++ "\n\n" ++ content ++ "\n\n"

/-- The mark of a heading, which each member has. -/
def headingMark : Text := "###"

variable {style : Style} {s : MemberSection}

theorem mem_memberSections_kind : k ∈ memberSections.map (·.kind) ↔ k ≠ .type := by
  cases k <;> decide

theorem headingMark_prefix_fragments (h : es ≠ []) : headingMark <+: fragments w es := by
  obtain ⟨e, es, rfl⟩ := List.exists_cons_of_ne_nil h
  have hheading : headingMark <+: "### " ++ Markdown.escapeHtml e.caption :=
    ⟨' ' :: Markdown.escapeHtml e.caption, rfl⟩
  exact hheading.trans (Text.prefix_join _ _ _)

/-- A caption may be blank, and then only the mark of its heading is left. -/
theorem headingMark_prefix_trimEnd (h : es ≠ []) :
    headingMark <+: Text.trimEnd (fragments w es) :=
  Text.prefix_trimEnd (headingMark_prefix_fragments h) (by decide)

/-- What is rendered of some members is empty just if there are none. -/
theorem trimEnd_fragments_eq_nil_iff : Text.trimEnd (fragments w es) = [] ↔ es = [] := by
  constructor
  · intro hempty
    by_contra hmembers
    have hmark := headingMark_prefix_trimEnd (w := w) hmembers
    rw [hempty, List.prefix_nil] at hmark
    exact absurd hmark (by decide)
  · rintro rfl
    rfl

theorem MemberSection.headingMark_prefix_content (h : f.ofKind s.kind ≠ []) :
    headingMark <+: s.content style f := by
  rw [content, if_neg h]
  exact headingMark_prefix_trimEnd h

theorem sectionText_eq (title content placeholder : Text) :
    sectionText title content placeholder =
      titled title
        (if Text.trimEnd content = [] then placeholder else Text.trimEnd content) := rfl

theorem sectionText_description (title content : Text) :
    sectionText title content [] = titled title (Text.trimEnd content) := by
  rw [sectionText_eq]
  split_ifs with h
  · rw [h]
  · rfl

theorem MemberSection.kindSection_eq (style : Style) (f : Family) (s : MemberSection) :
    kindSection style f s.kind s.title s.placeholder =
      titled (style.wording s.title) (s.content style f) := by
  rw [kindSection, sectionText_eq, content]
  simp only [trimEnd_fragments_eq_nil_iff]

theorem ofType_body (style : Style) (f : Family) (type : Entry) :
    (ofType style f type).body = header style type ++
      titled (style.wording .description) (Text.trimEnd (Text.unlines type.summary)) ++
      memberSections.flatMap fun s => titled (style.wording s.title) (s.content style f) := by
  simp only [← MemberSection.kindSection_eq, ← sectionText_description, memberSections,
    List.flatMap_cons, List.flatMap_nil, List.append_nil, header, ofType, List.append_assoc]

theorem MemberSection.content_congr (hs : s ∈ memberSections)
    (h : g.entries.filter (·.kind ≠ .type) = f.entries.filter (·.kind ≠ .type)) :
    s.content style g = s.content style f := by
  have hkind : s.kind ≠ .type := mem_memberSections_kind.mp (List.mem_map_of_mem hs)
  have hf := Family.filter_kind_filter (q := (· ≠ .type)) hkind f
  have hg := Family.filter_kind_filter (q := (· ≠ .type)) hkind g
  rw [content, content, ← hg, h, hf]

theorem memberSections_perm (f : Family) :
    (memberSections.flatMap fun s => f.ofKind s.kind).Perm (f.entries.filter (·.kind ≠ .type)) := by
  have distinct : (memberSections.map (·.kind)).Nodup := by decide
  have hperm := Family.flatMap_ofKind_perm distinct f
  simpa only [List.flatMap_map, mem_memberSections_kind] using hperm

/-- Below the header and the description, the page of a type has the four sections, and in them each
member that is not a type once. The text of the members is empty just if there are none, and else it
begins with the heading of the first. So a section shows its placeholder just if it has no members,
and the two can be confused only if the placeholder is worded like a heading. Types add nothing. -/
theorem ofFamily_sections (style : Style) (h : f.page? = some type) :
    (∃ page, ofFamily? style f = some page ∧
      page.body = header style type ++
        titled (style.wording .description) (Text.trimEnd (Text.unlines type.summary)) ++
        memberSections.flatMap fun s => titled (style.wording s.title) (s.content style f)) ∧
    (∀ x, Entry.ofElement? x = some type →
      Text.trimEnd (Text.unlines type.summary) = Text.unlines type.summary) ∧
    (∀ s ∈ memberSections,
      (Text.trimEnd (fragments style.wording (f.ofKind s.kind)) = [] ↔ f.ofKind s.kind = []) ∧
      (f.ofKind s.kind ≠ [] → headingMark <+: s.content style f) ∧
      (¬ headingMark <+: style.wording s.placeholder →
        (s.content style f = style.wording s.placeholder ↔ f.ofKind s.kind = []))) ∧
    (memberSections.flatMap fun s => f.ofKind s.kind).Perm (f.entries.filter (·.kind ≠ .type)) ∧
    ∀ g : Family, g.entries.filter (·.kind ≠ .type) = f.entries.filter (·.kind ≠ .type) →
      ∀ s ∈ memberSections, s.content style g = s.content style f := by
  refine ⟨⟨ofType style f type, ?_, ofType_body style f type⟩, fun x => Entry.trimEnd_summary, ?_,
    memberSections_perm f, fun g hg s hs => MemberSection.content_congr hs hg⟩
  · rw [ofFamily?, h]
    rfl
  · refine fun s _ => ⟨trimEnd_fragments_eq_nil_iff, MemberSection.headingMark_prefix_content,
      fun hplaceholder => ?_⟩
    constructor
    · intro hcontent
      by_contra hmembers
      exact hplaceholder (hcontent ▸ MemberSection.headingMark_prefix_content hmembers)
    · intro hnone
      rw [MemberSection.content, if_pos hnone]

/-- A type between two methods, and a property whose name does not show. -/
theorem exists_ofFamily_sections : ∃ (f : Family) (type : Entry) (page : Page),
    f.page? = some type ∧ ofFamily? {} f = some page ∧
      page.body = header {} type ++ titled "Descripción" "Shows things." ++
        memberSections.flatMap (fun s => titled (Phrase.spanish s.title) (s.content {} f)) ∧
      memberSections.map (·.content {} f) =
        ["no existen constructores".toList, "### Show()\n\nAt once.\n\n### Hide()", "###",
          "no existen campos"] := by
  let entry (kind : Kind) (path summary : List Text) : Entry :=
    { id := { kind, path, params := none }, summary, params := [], typeParams := []
      exceptions := [], returns := [], value := [], remarks := [], examples := [] }
  let type := entry .type ["Acme", "Widget"] ["Shows things."]
  let f : Family :=
    { owningType := "Acme.Widget"
      entries :=
        [entry .method ["Acme", "Widget", "Show"] ["At once."], type,
         entry .property ["Acme", "Widget", " "] [], entry .method ["Acme", "Widget", "Hide"] []] }
  have hdescription : Text.trimEnd (Text.unlines type.summary) = "Shows things.".toList := by
    decide
  obtain ⟨⟨page, hpage, hbody⟩, -⟩ := ofFamily_sections {} (show f.page? = some type by decide)
  rw [hdescription] at hbody
  exact ⟨f, type, page, rfl, hpage, hbody, by decide⟩

/-- A placeholder worded like a heading is what the section shows for a member, too. -/
theorem exists_placeholder_shown_for_members :
    ∃ (style : Style) (f : Family) (type : Entry) (s : MemberSection), f.page? = some type ∧
      s ∈ memberSections ∧ f.ofKind s.kind ≠ [] ∧
        kindSection style f s.kind s.title s.placeholder =
          titled (style.wording s.title) (style.wording s.placeholder) := by
  let entry (kind : Kind) (path : List Text) : Entry :=
    { id := { kind, path, params := none }, summary := [], params := [], typeParams := []
      exceptions := [], returns := [], value := [], remarks := [], examples := [] }
  let style : Style :=
    { wording := fun p => if p = .noConstructors then "### Widget()" else p.spanish }
  let f : Family :=
    { owningType := "Widget"
      entries := [entry .type ["Widget"], entry .constructor ["Widget", "#ctor"]] }
  let s : MemberSection := ⟨.constructor, .constructors, .noConstructors⟩
  have hshown : s.content style f = style.wording s.placeholder := by decide
  refine ⟨style, f, entry .type ["Widget"], s, by decide, List.mem_cons_self, by decide, ?_⟩
  rw [MemberSection.kindSection_eq, hshown]

end Page

end RefSite
