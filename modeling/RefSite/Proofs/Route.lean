import RefSite.Proofs.NameForm
import RefSite.Proofs.Path
import RefSite.Proofs.Text.Lowercase

namespace RefSite

theorem Text.beforeLast?_eq {sep : Char} {s t : Text} (h : beforeLast? sep t = some s) :
    t = s ++ sep :: afterLast sep t := by
  obtain ⟨r, hr, rfl⟩ := Option.map_eq_some_iff.mp h
  have := congrArg List.reverse (before_append_after hr)
  simpa [afterLast] using this.symm

namespace Route

variable {t : Text}

/-- The namespace that a marker of the given type stands for, as it is written. -/
def namespaceOf (owningType : Text) : Text :=
  match Text.beforeLast? '.' owningType with
  | some outer =>
    if (Text.afterLast '.' owningType).map Char.toLower = "namespace" then outer else owningType
  | none => owningType

theorem namespaceId_eq (t : Text) : namespaceId t = Text.lower (namespaceOf t) := rfl

theorem dotted_namespaceOf (h : Text.Dotted t) : Text.Dotted (namespaceOf t) := by
  unfold namespaceOf
  split
  · rename_i outer houter
    split
    · rw [Text.beforeLast?_eq houter] at h
      exact h.of_append.1
    · exact h
  · exact h

theorem dotted_namespaceId (h : Text.Dotted t) : Text.Dotted (namespaceId t) :=
  (Text.sameDots_lower _).dotted (dotted_namespaceOf h)

/-- Escaping and lower case make no slash at the start, and take none away. -/
theorem isAbsolute_escaped (t : Text) :
    Path.isAbsolute (NameForm.escaped t) = Path.isAbsolute t := by
  unfold NameForm.escaped
  induction t using NameForm.replaceArity.induct with
  | case1 => rfl
  | case2 t ht =>
    rw [NameForm.replaceArity, if_pos ht]
    rfl
  | case3 t ht =>
    rw [NameForm.replaceArity, if_neg ht]
    rfl
  | case4 t ht =>
    rw [NameForm.replaceArity, if_pos ht]
    rfl
  | case5 t ht =>
    rw [NameForm.replaceArity, if_neg ht]
    rfl
  | case6 c t h₁ h₂ =>
    rw [NameForm.replaceArity.eq_4 _ _ _ h₁ h₂]
    rfl

theorem isAbsolute_lower (t : Text) : Path.isAbsolute (Text.lower t) = Path.isAbsolute t := by
  cases t with
  | nil => rfl
  | cons c t =>
    obtain ⟨d, ds, hd⟩ := List.exists_cons_of_ne_nil (@Text.lowerChar_ne_nil [] t c)
    have hlower : Text.lower (c :: t) = d :: (ds ++ Text.lower.go [c] t) := by
      rw [Text.lower, Text.lower.go, hd, List.cons_append]
    have hcd : d = '/' ↔ c = '/' := by
      constructor
      · rintro rfl
        have hmem : '/' ∈ Text.lowerChar [] c t := hd ▸ List.mem_cons_self
        exact (Text.eq_of_mem_lowerChar hmem (by decide)).1.symm
      · rintro rfl
        rw [Text.lowerChar_of_lt (by decide)] at hd
        exact (List.cons.inj hd).1.symm
    simp [hlower, Path.isAbsolute, hcd]

theorem isAbsolute_namespaceOf (h : Text.Dotted t) :
    Path.isAbsolute (namespaceOf t) = Path.isAbsolute t := by
  unfold namespaceOf
  split
  · rename_i outer houter
    split
    · have ht := Text.beforeLast?_eq houter
      rw [ht] at h ⊢
      exact (Path.isAbsolute_append h.of_append.1.ne_nil _).symm
    · rfl
  · rfl

theorem isAbsolute_namespaceId (h : Text.Dotted t) :
    Path.isAbsolute (namespaceId t) = Path.isAbsolute t := by
  rw [namespaceId_eq, isAbsolute_lower, isAbsolute_namespaceOf h]

/-- The id of a type is that of a namespace only if the type has the namespace's name in lower case:
lower case leaves no letter of a mark. -/
theorem escaped_eq_namespaceId_iff {k l : Text} :
    NameForm.escaped k = namespaceId l ↔
      .mark ∉ NameForm.pieces k ∧ k = Text.lower (namespaceOf l) := by
  rw [namespaceId_eq]
  constructor
  · intro h
    have hmark : .mark ∉ NameForm.pieces k := by
      intro hmark
      have hmem := NameForm.mem_write_of_mark hmark
      rw [← NameForm.escaped_eq, h] at hmem
      exact Text.not_mem_lower (by decide) hmem
    rw [NameForm.escaped_of_not_mem hmark] at h
    exact ⟨hmark, h⟩
  · intro ⟨hmark, h⟩
    rw [NameForm.escaped_of_not_mem hmark, h]

theorem page_injective {base id id' : Text} (h : page base id = page base id') : id = id' :=
  List.append_cancel_left (List.append_cancel_right h)

theorem steps_base (destination packageId : Text) :
    Path.steps (base destination packageId) =
      Path.steps destination ++ Path.steps packageId := by
  have hslash : "/".toList = ['/'] := rfl
  rw [← Path.steps_trimSlashes destination]
  unfold base
  split
  · rename_i hnil
    simp [hnil, hslash]
  · simp [hslash]

theorem steps_page (destination packageId id : Text) :
    Path.steps (page (base destination packageId) id) =
      Path.steps destination ++ Path.steps packageId ++ Path.steps id := by
  have hslash : "/".toList = ['/'] := rfl
  have hbase : ∃ r, base destination packageId = r ++ ['/'] := by
    unfold base
    split
    · exact ⟨"/" ++ packageId, rfl⟩
    · exact ⟨_, rfl⟩
  obtain ⟨r, hr⟩ := hbase
  have hsteps := steps_base destination packageId
  rw [hr] at hsteps
  simp only [Path.steps_append_slash, Path.steps_nil, List.append_nil] at hsteps
  simp [page, hr, hslash, hsteps]

end Route

end RefSite
