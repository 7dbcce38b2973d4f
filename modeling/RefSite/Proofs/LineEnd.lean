import RefSite.CrossReference
import RefSite.Proofs.Fence
import RefSite.Proofs.Identifier
import RefSite.Proofs.NameForm
import RefSite.Proofs.Text.LineEnd

namespace RefSite

open Text (Returned)

variable {s t u v : Text}

namespace Markdown

theorem trimLines_map_trimEnd (b : Bool) (ls : List Text) :
    trimLines b (ls.map Text.trimEnd) = trimLines b ls := by
  induction ls generalizing b with
  | nil => rfl
  | cons l ls ih =>
    have hfence : IsFence (Text.trimEnd l) ↔ IsFence l := by
      rw [IsFence, Text.trim_trimEnd, IsFence]
    simp only [List.map_cons, trimLines_cons, trimLine, turn, hfence, Text.trim_trimEnd,
      Text.trimEnd_trimEnd, ih]

/-- Only the trimmed lines of a text are read. -/
theorem normalLines_eq_of_returned (h : Returned s t) : normalLines s = normalLines t := by
  have hlines : trimLines false (Text.lines s) = trimLines false (Text.lines t) := by
    rw [← trimLines_map_trimEnd, h.map_trimEnd_lines, trimLines_map_trimEnd]
  rw [normalLines, hlines, normalLines]

theorem dedent_eq_of_returned (h : Returned s t) : dedent s = dedent t := by
  simp only [dedent, h.map_trimEnd_lines]

theorem returned_codeBlock (h : Returned s t) : Returned (codeBlock s) (codeBlock t) := by
  unfold codeBlock
  rw [dedent_eq_of_returned h]
  exact .refl _

theorem returned_escapeTicks (h : Returned s t) : Returned (escapeTicks s) (escapeTicks t) := by
  apply h.map rfl
  rintro c (rfl | rfl) u v <;> simp [escapeTicks, Text.replace]

theorem returned_escapeHtml (h : Returned s t) : Returned (escapeHtml s) (escapeHtml t) := by
  apply h.map rfl
  rintro c (rfl | rfl) u v <;> simp [escapeHtml]

theorem returned_codeSpan (h : Returned s t) : Returned (codeSpan s) (codeSpan t) := by
  have htick : '\x60' ≠ '\r' := by decide
  simp only [codeSpan, h.trim.eq_nil_iff, h.trim.mem_iff htick]
  split_ifs
  · exact .nil
  · exact ((Returned.refl _).append h.trim).append (.refl _)
  · exact ((Returned.refl _).append h.trim).append (.refl _)

theorem returned_emphasize (mark : Text) (h : Returned s t) :
    Returned (emphasize mark s) (emphasize mark t) := by
  simp only [emphasize, h.trim.eq_nil_iff]
  split_ifs
  · exact .nil
  · exact ((Returned.refl mark).append h.trim).append (.refl mark)

theorem returned_link (hlabel : Returned s t) (htarget : Returned u v) :
    Returned (link s u) (link t v) :=
  ((((Returned.refl _).append hlabel).append (.refl _)).append htarget).append (.refl _)

end Markdown

/-- No word goes on over a line end, so no arity mark does. -/
theorem NameForm.returned_replaceArity (mark : Text) (h : Returned s t) :
    Returned (replaceArity mark s) (replaceArity mark t) := by
  apply h.map (by rw [replaceArity])
  rintro c (rfl | rfl)
  · exact replaceArity_append_sep (by decide +kernel) (by decide) mark
  · exact replaceArity_append_sep (by decide +kernel) (by decide) mark

namespace Kind

theorem of?_of_ne {c d : Char} (hd : d ≠ ':') (t : Text) : of? (c :: d :: t) = none := by
  unfold of?
  split <;> simp_all

theorem of?_cons (c : Char) (h : Returned s t) : of? (c :: ':' :: s) = of? (c :: ':' :: t) := by
  have hpath : Returned (Text.before '(' s) (Text.before '(' t) := h.before (by decide)
  have hlast : Returned (Text.afterLast '.' (Text.before '(' s))
      (Text.afterLast '.' (Text.before '(' t)) :=
    Text.returned_afterLast (by decide) hpath
  have hctor := hlast.eq_iff (show '\n' ∉ "#ctor".toList by decide)
  by_cases hc : c = 'M'
  · subst hc
    simp only [of?, hctor]
  · unfold of?
    split <;> simp_all

/-- A scheme is in one line, so both texts have it, and it stands before texts with the same line
ends. -/
theorem of_returned (h : Returned s t) :
    of? s = of? t ∧ (of? s ≠ none → Returned (s.drop 2) (t.drop 2)) := by
  cases h with
  | nil => exact ⟨rfl, absurd rfl⟩
  | lineEnd _ => exact ⟨rfl, absurd rfl⟩
  | char c h =>
    cases h with
    | nil => exact ⟨rfl, fun _ => .nil⟩
    | lineEnd _ =>
      rw [of?_of_ne (by decide), of?_of_ne (by decide)]
      exact ⟨rfl, absurd rfl⟩
    | char d h =>
      refine ⟨?_, fun _ => h⟩
      by_cases hd : d = ':'
      · subst hd
        exact of?_cons c h
      · rw [of?_of_ne hd, of?_of_ne hd]

end Kind

namespace Identifier

variable {id id' : Identifier}

/-- The second identifier has the path of the first, with carriage returns in it. -/
structure ReturnedPath (id id' : Identifier) : Prop where
  kind : id.kind = id'.kind
  path : List.Forall₂ Returned id.path id'.path

theorem returned_parse? (h : Returned s t) : Option.Rel ReturnedPath (parse? s) (parse? t) := by
  obtain ⟨hkind, hbehind⟩ := Kind.of_returned h
  unfold parse?
  rw [← hkind]
  cases hk : Kind.of? s with
  | none => exact .none
  | some kind =>
    have hbody : Returned (s.drop 2) (t.drop 2) := hbehind (by simp [hk])
    have hbefore : Returned (Text.before '(' (Text.trim (s.drop 2)))
        (Text.before '(' (Text.trim (t.drop 2))) := hbody.trim.before (by decide)
    have hpath : List.Forall₂ Returned
        (Text.split '.' (Text.before '(' (Text.trim (s.drop 2))))
        (Text.split '.' (Text.before '(' (Text.trim (t.drop 2)))) :=
      hbefore.split (by decide)
    simp only [Option.bind_eq_bind, Option.bind_some, Text.nil_mem_iff_of_returned hpath,
      hpath.length_eq]
    split_ifs
    · exact .none
    · exact .none
    · exact .some ⟨rfl, hpath⟩

theorem ReturnedPath.owner (h : ReturnedPath id id') :
    List.Forall₂ Returned id.owner id'.owner := by
  rw [owner_eq_ite, owner_eq_ite, h.kind]
  split_ifs
  · exact h.path
  · rw [List.dropLast_eq_take, List.dropLast_eq_take, h.path.length_eq]
    exact List.forall₂_take _ h.path

theorem ReturnedPath.owningType (h : ReturnedPath id id') :
    Returned id.owningType id'.owningType :=
  Returned.join h.owner _

theorem ReturnedPath.typeName (h : ReturnedPath id id') :
    Returned id.typeName id'.typeName :=
  Text.forall₂_getLastD h.owner .nil

theorem ReturnedPath.segment (h : ReturnedPath id id') :
    Returned id.segment id'.segment :=
  Text.forall₂_getLastD h.path .nil

theorem ReturnedPath.label (h : ReturnedPath id id') :
    Returned id.label id'.label := by
  unfold Identifier.label
  rw [h.kind]
  split
  · exact h.typeName
  · exact h.typeName
  · exact Returned.join (.cons h.typeName (.cons h.segment .nil)) _

theorem ReturnedPath.target (h : ReturnedPath id id') :
    Returned id.target id'.target :=
  ((Returned.refl _).append (NameForm.returned_replaceArity _ h.owningType)).append (.refl _)

end Identifier

theorem returned_memberLink (h : Returned s t) : Returned (memberLink s) (memberLink t) := by
  have hid := Identifier.returned_parse? h
  unfold memberLink
  generalize Identifier.parse? s = a, Identifier.parse? t = b at hid ⊢
  cases hid with
  | some hid =>
    exact Markdown.returned_link
      (Markdown.returned_escapeHtml (NameForm.returned_replaceArity _ hid.label)) hid.target
  | none =>
    exact Markdown.returned_codeSpan (Text.returned_getD (h.after? (by decide)) h)

end RefSite
