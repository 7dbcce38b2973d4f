import RefSite.Export
import RefSite.Proofs.Text.Blank
import RefSite.Proofs.Text.Split

namespace RefSite

namespace Text

variable {sep : Char} {s t : Text}

/-- Trimming a text takes white space only off what stands before a separator. -/
theorem exists_before_trim (hsep : isBlank sep = false) (t : Text) :
    ∃ v w, Blank v ∧ Blank w ∧ before sep t = v ++ (before sep (trim t) ++ w) := by
  have hblank : ∀ w, Blank w → sep ∉ w := by
    intro w hw hmem
    rw [hw sep hmem] at hsep
    cases hsep
  obtain ⟨v, hv, hstart⟩ := exists_trimStart t
  obtain ⟨w, hw, hend⟩ := exists_trimEnd (trimStart t)
  have hbefore : before sep t = v ++ before sep (trimStart t) := by
    conv_lhs => rw [← hstart]
    exact List.takeWhile_append_of_pos (ne_of_not_mem (hblank v hv))
  by_cases hmem : sep ∈ trim t
  · refine ⟨v, [], hv, List.forall_mem_nil _, ?_⟩
    obtain ⟨a, b, htrim, ha⟩ := List.eq_append_cons_of_mem hmem
    have hform : trimStart t = a ++ sep :: (b ++ w) := by
      rw [← hend, show trimEnd (trimStart t) = _ from htrim, List.append_assoc, List.cons_append]
    rw [hbefore, hform, before_append ha, htrim, before_append ha, List.append_nil]
  · refine ⟨v, w, hv, hw, ?_⟩
    rw [hbefore, before_of_not_mem hmem, ← hend, before_of_not_mem]
    · rfl
    · exact List.not_mem_append hmem (hblank w hw)

/-- White space around a text is not taken for a part of its last segment. -/
theorem afterLast_before_trim (hdot : '.' ∈ before '(' (trim t))
    (hlast : afterLast '.' (before '(' t) = s) (hs : trimEnd s = s) :
    afterLast '.' (before '(' (trim t)) = s := by
  obtain ⟨v, w, -, hw, he⟩ := exists_before_trim (show isBlank '(' = false by decide) t
  obtain ⟨a, b, hform, hb⟩ := exists_append_last hdot
  have hdot : '.' ∉ b ++ w := List.not_mem_append hb fun hmem => absurd (hw _ hmem) (by decide)
  rw [he, hform, List.append_assoc, List.cons_append, ← List.append_assoc,
    afterLast_append _ hdot] at hlast
  rw [hform, afterLast_append a hb]
  rw [← hlast, trimEnd_append_of_blank hw] at hs
  have hlength := (List.rdropWhile_prefix isBlank (l := b)).length_le
  rw [← trimEnd_eq, hs, List.length_append] at hlength
  rw [← hlast, List.eq_nil_of_length_eq_zero (by omega : w.length = 0), List.append_nil]

end Text

namespace Identifier

/-- What reading an identifier makes sure of. -/
structure Valid (id : Identifier) : Prop where
  nonempty : id.path ≠ []
  segments : ∀ s ∈ id.path, s ≠ [] ∧ '.' ∉ s
  owned : id.kind ≠ .type → 2 ≤ id.path.length

variable {id id' : Identifier}

theorem of_parse? {t : Text} (h : parse? t = some id) :
    Kind.of? t = some id.kind ∧
      id.path = Text.split '.' (Text.before '(' (Text.trim (t.drop 2))) ∧
      [] ∉ id.path ∧ (id.kind ≠ .type → 2 ≤ id.path.length) := by
  obtain ⟨kind, hkind, h⟩ := Option.bind_eq_some_iff.mp h
  dsimp only at h
  split at h
  · cases h
  split at h
  · cases h
  · rename_i hseg howned
    obtain rfl := Option.some.inj h
    exact ⟨hkind, rfl, hseg, fun hk => Nat.le_of_not_lt fun hlt => howned ⟨hk, hlt⟩⟩

theorem valid_of_parse? {t : Text} (h : parse? t = some id) : id.Valid := by
  obtain ⟨-, hpath, hseg, howned⟩ := of_parse? h
  refine ⟨hpath ▸ Text.split_ne_nil _ _, fun s hs => ⟨?_, ?_⟩, howned⟩
  · rintro rfl
    exact hseg hs
  · exact Text.notMem_of_mem_split (hpath ▸ hs)

/-- Segments are read off the text as they stand. -/
theorem subset_of_parse? {t s : Text} (h : parse? t = some id) (hs : s ∈ id.path) : s ⊆ t := by
  rw [(of_parse? h).2.1] at hs
  have hbody := ((Text.infix_of_mem_split hs).trans (List.takeWhile_prefix _).isInfix).subset
  exact fun c hc => List.drop_subset 2 t (Text.trim_subset _ (hbody hc))

/-- A method is a constructor by the last segment of its path, which ends where the text does. -/
theorem segment_of_constructor {t : Text} (h : parse? t = some id) (hk : id.kind = .constructor) :
    id.segment = "#ctor" := by
  obtain ⟨hkind, hpath, -, howned⟩ := of_parse? h
  have hlength := howned (by simp [hk])
  obtain ⟨rest, rfl, hlast⟩ : ∃ rest, t = 'M' :: ':' :: rest ∧
      Text.afterLast '.' (Text.before '(' rest) = "#ctor" := by
    rw [hk] at hkind
    unfold Kind.of? at hkind
    split at hkind
    · cases hkind
    · rename_i rest
      split at hkind
      · rename_i hctor
        exact ⟨rest, rfl, hctor⟩
      · cases hkind
    · cases hkind
    · cases hkind
    · cases hkind
  have hpath : id.path = Text.split '.' (Text.before '(' (Text.trim rest)) := hpath
  rw [hpath] at hlength
  rw [segment, hpath, Text.split_eq_concat, List.getLastD_concat]
  apply Text.afterLast_before_trim _ hlast (by decide)
  by_contra hdot
  rw [Text.split_of_notMem hdot, List.length_singleton] at hlength
  exact absurd hlength (by decide)

theorem owner_eq_ite (id : Identifier) :
    id.owner = if id.kind = .type then id.path else id.path.dropLast := by
  unfold owner
  cases id.kind <;> rfl

theorem mem_path_of_mem_owner {s : Text} (hs : s ∈ id.owner) : s ∈ id.path := by
  unfold owner at hs
  split at hs
  · exact hs
  · exact List.mem_of_mem_dropLast hs

theorem Valid.owner_ne_nil (h : id.Valid) : id.owner ≠ [] := by
  unfold owner
  split
  · exact h.nonempty
  · rename_i hk
    have := h.owned hk
    intro hnil
    have hlen : id.path.dropLast.length = 0 := by rw [hnil]; rfl
    rw [List.length_dropLast] at hlen
    omega

theorem Valid.typeName_mem (h : id.Valid) : id.typeName ∈ id.owner := by
  rw [typeName, List.getLastD_eq_getLast?, List.getLast?_eq_some_getLast h.owner_ne_nil]
  exact List.getLast_mem h.owner_ne_nil

theorem Valid.segment_mem (h : id.Valid) : id.segment ∈ id.path := by
  rw [segment, List.getLastD_eq_getLast?, List.getLast?_eq_some_getLast h.nonempty]
  exact List.getLast_mem h.nonempty

theorem path_eq (h : id.path ≠ []) : id.path = id.path.dropLast ++ [id.segment] := by
  rw [segment, List.getLastD_eq_getLast?, List.getLast?_eq_some_getLast h]
  exact (List.dropLast_concat_getLast h).symm

theorem dotted_cons (n : Text) {ns : List Text} (h : ns ≠ []) :
    dotted (n :: ns) = n ++ '.' :: dotted ns := by
  rw [dotted, Text.join_cons _ _ h, List.append_assoc]
  rfl

theorem dotted_append {ns : List Text} (h : ns ≠ []) (n : Text) :
    dotted (ns ++ [n]) = dotted ns ++ '.' :: n := by
  induction ns with
  | nil => exact absurd rfl h
  | cons m ms ih =>
    cases ms with
    | nil => simp [dotted, Text.join, List.intercalate]
    | cons k ks =>
      rw [List.cons_append, dotted_cons m (by simp), ih (by simp), dotted_cons m (by simp),
        List.append_assoc, List.cons_append]

/-- The last segment is all of a dotted name, or stands behind its last dot. -/
theorem dotted_concat (ns : List Text) (n : Text) :
    dotted (ns ++ [n]) = n ∨ ∃ s, dotted (ns ++ [n]) = s ++ '.' :: n := by
  by_cases hns : ns = []
  · subst hns
    exact .inl (by simp [dotted, Text.join, List.intercalate])
  · exact .inr ⟨dotted ns, dotted_append hns n⟩

theorem Valid.split_owningType (h : id.Valid) : Text.split '.' id.owningType = id.owner :=
  Text.split_join h.owner_ne_nil fun s hs => (h.segments s (mem_path_of_mem_owner hs)).2

theorem Valid.dotted (h : id.Valid) : Text.Dotted id.owningType := by
  unfold Text.Dotted
  rw [h.split_owningType]
  exact fun hnil => (h.segments [] (mem_path_of_mem_owner hnil)).1 rfl

/-- The name of the owning type tells its segments. -/
theorem Valid.owner_eq (h : id.Valid) (h' : id'.Valid) (he : id.owningType = id'.owningType) :
    id.owner = id'.owner := by
  rw [← h.split_owningType, ← h'.split_owningType, he]

/-- A type's short name is its owning type's last segment. -/
theorem name_of_type (hk : id.kind = .type) : id.name = id.owner.getLastD [] := by
  simp [name, typeName, hk]

end Identifier

variable {e e' : Entry}

theorem Entry.valid_of_ofElement? {x : Xml.Element} (h : Entry.ofElement? x = some e) :
    e.id.Valid := by
  obtain ⟨id, hid, h⟩ := Option.bind_eq_some_iff.mp h
  obtain ⟨t, -, hparse⟩ := Option.bind_eq_some_iff.mp hid
  obtain rfl := Option.some.inj h
  exact Identifier.valid_of_parse? hparse

theorem Export.valid_of_mem {x : Export} (h : e ∈ x.entries) : e.id.Valid := by
  obtain ⟨el, -, hel⟩ := List.mem_filterMap.mp h
  exact Entry.valid_of_ofElement? hel

/-- Types of one owning type have one short name, so either all of them mark a namespace or none. -/
theorem Entry.isNamespaceMarker_eq (h : e.id.Valid) (h' : e'.id.Valid) (hk : e.kind = .type)
    (hk' : e'.kind = .type) (he : e.owningType = e'.owningType) :
    e.isNamespaceMarker = e'.isNamespaceMarker := by
  have hname : e.name = e'.name := by
    unfold Entry.name
    rw [Identifier.name_of_type hk, Identifier.name_of_type hk', h.owner_eq h' he]
  simp only [Entry.isNamespaceMarker, hk, hk', hname]

end RefSite
