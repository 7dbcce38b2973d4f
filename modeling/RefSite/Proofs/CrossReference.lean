import Mathlib
import RefSite.Proofs.Markdown
import RefSite.Proofs.SiteMenu

namespace RefSite

open Xml (Element)

variable {t : Text} {id : Identifier} {ref : Element} {page : Page} {k : Text}

theorem NameForm.display_ne_nil (h : t ≠ []) : display t ≠ [] :=
  (sameDots_replaceArity (by decide) (by decide) t).ne_nil h

theorem Identifier.Valid.label_ne_nil (h : id.Valid) : id.label ≠ [] := by
  have hname : id.typeName ≠ [] :=
    (h.segments _ (mem_path_of_mem_owner h.typeName_mem)).1
  unfold label
  split
  · exact hname
  · exact hname
  · rw [Identifier.dotted, Text.join_cons _ _ (List.cons_ne_nil _ _), List.append_assoc]
    exact List.append_ne_nil_of_left_ne_nil hname _

namespace Comment

/-- The element refers to a member, and neither to a keyword nor to an address. -/
structure RefersTo (ref : Element) (id : Identifier) : Prop where
  tag : ref.tag = "see" ∨ ref.tag = "seealso"
  cref : ∃ cref, ref.attribute? "cref" = some cref ∧ Identifier.parse? cref = some id
  langword : ref.attribute? "langword" = none
  href : ref.attribute? "href" = none

/-- A reference shows its own content, or the name of the member if it has none. -/
def shown (ref : Element) (id : Identifier) : Text :=
  if Text.trim (content ref) = [] then Markdown.escapeHtml (NameForm.display id.label)
  else Text.trim (content ref)

theorem RefersTo.valid (h : RefersTo ref id) : id.Valid := by
  obtain ⟨cref, -, hparse⟩ := h.cref
  exact Identifier.valid_of_parse? hparse

theorem RefersTo.shown_ne_nil (h : RefersTo ref id) : shown ref id ≠ [] := by
  unfold shown
  split_ifs with hblank
  · exact Markdown.escapeHtml_ne_nil (NameForm.display_ne_nil h.valid.label_ne_nil)
  · exact hblank

theorem inline_of_reference (h : ref.tag = "see" ∨ ref.tag = "seealso") :
    inline ref = reference ref.attributes (content ref) := by
  obtain ⟨tag, attributes, text, children, tail⟩ := ref
  have hrole : Role.of tag = .reference := if_pos h
  rw [inline, hrole, content]

/-- A reference to a member is a link, whether it has content of its own or not. -/
theorem RefersTo.inline_eq (h : RefersTo ref id) :
    inline ref = Markdown.link (shown ref id) id.target := by
  obtain ⟨cref, hcref, hparse⟩ := h.cref
  have hword : ref.attributes.lookup "langword".toList = none := h.langword
  have haddress : ref.attributes.lookup "href".toList = none := h.href
  have hmember : ref.attributes.lookup "cref".toList = some cref := hcref
  rw [inline_of_reference h.tag, reference, hword, haddress, hmember, shown]
  dsimp only
  split_ifs with hblank
  · rw [memberLink, hparse]
  · rw [hparse]

end Comment

namespace Site

open Comment (RefersTo)

variable {options : SiteOptions} {p : Package} {x : Export}

/-- A reference to a type or to one of its members is a link with a label, and the type's page is in
the menu at the place that the link leads to. -/
theorem reference_lands (hpage : page ∈ (generate options p x).types)
    (htype : IsTypePage options.style x.entries k page) (href : RefersTo ref id)
    (howner : id.owningType = k) :
    (Comment.inline ref = Markdown.link (Comment.shown ref id) ("../" ++ page.id ++ "/") ∧
        Comment.shown ref id ≠ []) ∧
      ∃ l ∈ (generate options p x).menu.pages,
        l.path = Route.base options.destination p.id ++ page.id ++ "/" := by
  obtain ⟨e, -, -, hid⟩ := htype
  have htarget : id.target = "../" ++ page.id ++ "/" := by
    rw [Identifier.target, Identifier.pageId, howner, hid]
  exact ⟨⟨htarget ▸ href.inline_eq, href.shown_ne_nil⟩,
    exists_link (List.mem_append_right _ hpage)⟩

/-- A method of a generic type, by its own name. -/
theorem exists_reference_lands :
    ∃ (x : Export) (page : Page) (ref : Element) (id : Identifier),
      page ∈ (generate {} { title := "A", id := "a" } x).types ∧
        IsTypePage {} x.entries "Acme.List\x601" page ∧ RefersTo ref id ∧
          id.owningType = "Acme.List\x601" ∧
            Comment.inline ref = "[List&lt;T&gt;.Add](../Acme.List_T/)" ∧
              ∃ l ∈ (generate {} { title := "A", id := "a" } x).menu.pages,
                l.path = "/docs/a/Acme.List_T/" := by
  let x : Export := ⟨[{ tag := "member", attributes := [("name", "T:Acme.List\x601")] }]⟩
  let ref : Element :=
    { tag := "see", attributes := [("cref", "M:Acme.List\x601.Add(System.Int32)")] }
  obtain ⟨id, hparse, hlabel, howner⟩ : ∃ id,
      Identifier.parse? "M:Acme.List\x601.Add(System.Int32)" = some id ∧
        id.label = "List\x601.Add" ∧ id.owningType = "Acme.List\x601" :=
    ⟨_, by cbv, by cbv, by cbv⟩
  have href : RefersTo ref id := ⟨.inl rfl, ⟨_, rfl, hparse⟩, rfl, rfl⟩
  obtain ⟨e, hfirst, hm⟩ : ∃ e, firstType? x.entries "Acme.List\x601" = some e ∧
      e.isNamespaceMarker = false := ⟨_, by cbv, by cbv⟩
  obtain ⟨-, -, ho⟩ := of_firstType? hfirst
  have hpage : _ ∈ (generate {} { title := "A", id := "a" } x).types :=
    mem_typePages {} (fun _ => Export.valid_of_mem) hfirst hm
  have htype : IsTypePage {} x.entries "Acme.List\x601" _ :=
    ⟨e, hfirst, rfl, congrArg NameForm.escaped ho⟩
  obtain ⟨⟨hlink, -⟩, l, hl, hpath⟩ := reference_lands hpage htype href howner
  have hid : (Page.ofType {} (Family.ofOwner x.entries "Acme.List\x601") e).id = "Acme.List_T" :=
    (congrArg NameForm.escaped ho).trans (by decide)
  have hshown : Comment.shown ref id = "List&lt;T&gt;.Add" := by
    have hcontent : Comment.content ref = [] := by rw [Comment.content, Comment.run]; rfl
    have hname : Markdown.escapeHtml (NameForm.display "List\x601.Add") = "List&lt;T&gt;.Add" := by
      decide +kernel
    rw [Comment.shown, if_pos (by rw [hcontent]; rfl), hlabel, hname]
  have htext : Markdown.link "List&lt;T&gt;.Add"
      ("../".toList ++ "Acme.List_T".toList ++ "/".toList) =
        "[List&lt;T&gt;.Add](../Acme.List_T/)" := by cbv
  rw [hshown, hid, htext] at hlink
  refine ⟨x, _, ref, id, hpage, htype, href, howner, hlink, l, hl, ?_⟩
  rw [hpath, hid]
  cbv

end Site

end RefSite
