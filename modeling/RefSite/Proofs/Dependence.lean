import Mathlib
import RefSite.Proofs.SiteMenu
import RefSite.Proofs.Site

namespace RefSite

open Xml (Element)

variable {x x' : Export} {entries entries' : List Entry} {k : Text}

def Entry.owner? (e : Element) : Option Text :=
  (e.attribute? "name" >>= Identifier.parse?).map Identifier.owningType

theorem Entry.owner?_eq (e : Element) : owner? e = (ofElement? e).map Entry.owningType := by
  unfold owner? ofElement?
  cases e.attribute? "name" >>= Identifier.parse? <;> rfl

namespace Export

def ofOwner (x : Export) (k : Text) : List Element :=
  x.members.filter fun e => Entry.owner? e = some k

theorem filter_entries (x : Export) (k : Text) :
    x.entries.filter (fun e => e.owningType = k) = (x.ofOwner k).filterMap Entry.ofElement? := by
  rw [entries, ofOwner, List.filter_filterMap, List.filterMap_filter]
  apply List.filterMap_congr
  intro e _
  rw [Entry.owner?_eq]
  cases Entry.ofElement? e with
  | none => rfl
  | some entry => by_cases hk : entry.owningType = k <;> simp [hk]

theorem entries_perm (h : x.members.Perm x'.members) : x.entries.Perm x'.entries :=
  h.filterMap _

end Export

theorem owners_perm (h : entries.Perm entries') : (owners entries).Perm (owners entries') := by
  refine (List.perm_ext_iff_of_nodup (Family.nodup_owners _) (Family.nodup_owners _)).mpr ?_
  intro k
  simp only [Family.mem_owners, h.mem_iff]

theorem documented_congr (h : entries.Perm entries') :
    Documented entries k ↔ Documented entries' k := by
  simp only [Documented, h.mem_iff]

theorem Family.find?_gather (entries : List Entry) (k : Text) :
    (gather entries).find? (fun f => f.owningType = k) =
      if k ∈ owners entries then some (ofOwner entries k) else none := by
  rw [gather_eq]
  induction owners entries with
  | nil => rfl
  | cons l ks ih =>
    by_cases hl : l = k
    · subst hl
      simp [ofOwner]
    · have hkl : k ∈ l :: ks ↔ k ∈ ks := by simp [Ne.symm hl]
      have hother : decide ((ofOwner entries l).owningType = k) = false := by simp [ofOwner, hl]
      rw [List.map_cons, List.find?_cons, hother, ih]
      simp only [hkl]

namespace Site

def typePage? (style : Style) (entries : List Entry) (k : Text) : Option Page :=
  ((Family.gather entries).find? fun f => f.owningType = k).bind (Page.ofFamily? style)

/-- The page is made of the family of the type, and of nothing else. -/
theorem typePage?_eq (style : Style) (entries : List Entry) (k : Text) :
    typePage? style entries k = Page.ofFamily? style (Family.ofOwner entries k) := by
  rw [typePage?, Family.find?_gather]
  split
  · rfl
  · rename_i hk
    have hpage : (Family.ofOwner entries k).page? = none := by
      rw [Family.page?, Family.ofOwner_of_not_mem hk]
      rfl
    rw [Page.ofFamily?, hpage]
    rfl

theorem types_eq (options : SiteOptions) (p : Package) (x : Export) :
    (generate options p x).types =
      (owners x.entries).filterMap (typePage? options.style x.entries) := by
  have htypes : (generate options p x).types = typePages options.style x.entries := rfl
  rw [htypes, typePages_eq]
  exact List.filterMap_congr fun k _ => (typePage?_eq _ _ _).symm

theorem ids_typePages (style : Style) (valid : ∀ e ∈ entries, e.id.Valid) :
    (typePages style entries).map Page.id =
      ((owners entries).filter fun k => Documented entries k).map NameForm.escaped := by
  have hpages := forall₂_typePages style valid
  generalize (owners entries).filter (fun k => Documented entries k) = ks at hpages ⊢
  generalize typePages style entries = pages at hpages ⊢
  induction hpages with
  | nil => rfl
  | cons hpage _ ih =>
    obtain ⟨-, -, -, hid⟩ := hpage
    rw [List.map_cons, List.map_cons, hid, ih]

theorem ids_namespacePages (style : Style) (entries : List Entry) :
    (namespacePages style entries).map Page.id =
      (entries.filter Entry.isNamespaceMarker).map fun e => Route.namespaceId e.owningType :=
  List.map_map

/-- The order of the entries changes the order of the ids only. -/
theorem ids_perm (style : Style) (valid : ∀ e ∈ entries, e.id.Valid)
    (h : entries.Perm entries') :
    ((namespacePages style entries ++ typePages style entries).map Page.id).Perm
      ((namespacePages style entries' ++ typePages style entries').map Page.id) := by
  have valid' : ∀ e ∈ entries', e.id.Valid := fun e he => valid e (h.mem_iff.mpr he)
  have hdocumented : (owners entries').filter (fun k => Documented entries k) =
      (owners entries').filter fun k => Documented entries' k :=
    List.filter_congr fun _ _ => by simp only [documented_congr h]
  rw [List.map_append, List.map_append, ids_namespacePages, ids_namespacePages,
    ids_typePages style valid, ids_typePages style valid', ← hdocumented]
  exact ((h.filter _).map _).append (((owners_perm h).filter _).map _)

theorem menu_congr {options : SiteOptions} {p : Package}
    (h : (((generate options p x).namespaces ++ (generate options p x).types).map Page.id).Perm
      (((generate options p x').namespaces ++ (generate options p x').types).map Page.id)) :
    (generate options p x).menu = (generate options p x').menu := by
  refine Navigation.toMenu_congr ?_ ?_ p.title
  · exact (menu_path options p x).trans (menu_path options p x').symm
  · intro l
    let linkOfId : Text → Link := fun id =>
      { title := Route.title id, path := Route.page (Route.base options.destination p.id) id }
    have hmap : ∀ pages : List Page,
        pages.map (linkOf (Route.base options.destination p.id)) =
          (pages.map Page.id).map linkOfId := fun pages => by rw [List.map_map]; rfl
    rw [navigation_links, navigation_links, hmap, hmap, List.mem_cons, List.mem_cons]
    exact or_congr_right (h.map linkOfId).mem_iff

/-- A site has at most one page for an owning type, which the members of that type tell. The order of
the members changes neither the menu nor which ids there are. -/
theorem generate_depends (options : SiteOptions) (p : Package) (x x' : Export) :
    (generate options p x).types =
        (owners x.entries).filterMap (typePage? options.style x.entries) ∧
      (∀ k, x.ofOwner k = x'.ofOwner k →
        typePage? options.style x.entries k = typePage? options.style x'.entries k) ∧
      (x.members.Perm x'.members →
        (generate options p x).menu = (generate options p x').menu ∧
          ((generate options p x).pages.map Page.id).Perm
            ((generate options p x').pages.map Page.id)) := by
  refine ⟨types_eq options p x, ?_, ?_⟩
  · intro k hk
    rw [typePage?_eq, typePage?_eq, Family.ofOwner, Family.ofOwner, x.filter_entries,
      x'.filter_entries, hk]
  · intro hperm
    have hids := ids_perm options.style (fun _ => Export.valid_of_mem) (Export.entries_perm hperm)
    exact ⟨menu_congr hids, hids.cons _⟩

/-- The members of one type come behind those of others, and a page for a namespace before them. -/
theorem exists_generate_depends :
    ∃ x x' : Export, x.ofOwner "Acme.Widget" ≠ [] ∧
      x.ofOwner "Acme.Widget" = x'.ofOwner "Acme.Widget" ∧ x.members.Perm x'.members ∧
      typePage? {} x.entries "Acme.Widget" = typePage? {} x'.entries "Acme.Widget" ∧
        (generate {} { title := "A", id := "a" } x).menu =
            (generate {} { title := "A", id := "a" } x').menu ∧
          ((generate {} { title := "A", id := "a" } x).pages.map Page.id).Perm
            ((generate {} { title := "A", id := "a" } x').pages.map Page.id) := by
  let widget : List Element := [{ tag := "member", attributes := [("name", "T:Acme.Widget")] },
    { tag := "member", attributes := [("name", "M:Acme.Widget.Do")] }]
  let others : List Element := [{ tag := "member", attributes := [("name", "T:Acme.Gadget")] },
    { tag := "member", attributes := [("name", "T:Acme.Namespace")] }]
  let x : Export := ⟨widget ++ others⟩
  let x' : Export := ⟨others ++ widget⟩
  have hself : x.ofOwner "Acme.Widget" = widget := by cbv
  have hself' : x'.ofOwner "Acme.Widget" = widget := by cbv
  have hperm : x.members.Perm x'.members := List.perm_append_comm
  have hsame : x.ofOwner "Acme.Widget" = x'.ofOwner "Acme.Widget" := hself.trans hself'.symm
  have hne : x.ofOwner "Acme.Widget" ≠ [] := by
    rw [hself]
    exact List.cons_ne_nil _ _
  obtain ⟨-, hpage, hmenu⟩ := generate_depends {} { title := "A", id := "a" } x x'
  exact ⟨x, x', hne, hsame, hperm, hpage "Acme.Widget" hsame, hmenu hperm⟩

end Site

end RefSite
