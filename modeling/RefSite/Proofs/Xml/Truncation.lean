import Mathlib
import RefSite.Export
import RefSite.Proofs.Xml.Prefix
import RefSite.Proofs.Xml.RoundTrip

namespace RefSite

namespace Xml

namespace Element

def opening (e : Element) : Text × Attributes := (e.tag, e.attributes)

/-- The element alone, whatever follows it. -/
def alone (e : Element) : Element := { e with tail := [] }

/-- The first element is the second with its end lost: the end of its text and all children, or of
the last child's tail, or of the last child itself. -/
inductive Truncated : Element → Element → Prop
  | text {a b : Element} :
    a.opening = b.opening → a.children = [] → a.text <+: b.text → Truncated a b
  | tail {a b last other : Element} {es fs : List Element} :
    a.opening = b.opening → a.text = b.text →
    a.children = es ++ [last] → b.children = es ++ other :: fs →
    last.alone = other.alone → last.tail <+: other.tail → Truncated a b
  | child {a b last other : Element} {es fs : List Element} :
    a.opening = b.opening → a.text = b.text →
    a.children = es ++ [last] → b.children = es ++ other :: fs →
    last.tail = [] → Truncated last other → Truncated a b

variable {a b c : Element}

theorem eq_of_alone (h : a.alone = b.alone) :
    a.opening = b.opening ∧ a.text = b.text ∧ a.children = b.children := by
  refine ⟨?_, ?_, ?_⟩
  · exact show a.alone.opening = b.alone.opening from congrArg opening h
  · exact show a.alone.text = b.alone.text from congrArg Element.text h
  · exact show a.alone.children = b.alone.children from congrArg children h

theorem append_singleton_eq {es es' fs : List Element} {x y : Element}
    (h : es ++ x :: fs = es' ++ [y]) : (es = es' ∧ x = y) ∨ ∃ gs, es' = es ++ x :: gs := by
  rcases List.eq_nil_or_concat fs with rfl | ⟨gs, z, rfl⟩
  · obtain ⟨hes, hxy⟩ := List.append_inj' h rfl
    exact .inl ⟨hes, (List.cons.inj hxy).1⟩
  · right
    refine ⟨gs, ?_⟩
    rw [List.concat_eq_append, ← List.cons_append, ← List.append_assoc] at h
    exact (List.append_inj' h rfl).1.symm

namespace Truncated

theorem opening_eq (h : Truncated a b) : a.opening = b.opening := by
  cases h <;> assumption

theorem tag_eq (h : Truncated a b) : a.tag = b.tag := congrArg Prod.fst h.opening_eq

theorem refl (e : Element) : Truncated e e := by
  rcases List.eq_nil_or_concat e.children with hnil | ⟨es, last, hlast⟩
  · exact .text rfl hnil (List.prefix_refl _)
  · rw [List.concat_eq_append] at hlast
    exact .tail rfl rfl hlast hlast rfl (List.prefix_refl _)

/-- The tails of the elements themselves do not matter. -/
theorem congr {a' b' : Element} (h : Truncated a b) (ha : a.alone = a'.alone)
    (hb : b.alone = b'.alone) : Truncated a' b' := by
  obtain ⟨hao, hat, hac⟩ := eq_of_alone ha
  obtain ⟨hbo, hbt, hbc⟩ := eq_of_alone hb
  have hopen : a'.opening = b'.opening := hao.symm.trans (h.opening_eq.trans hbo)
  cases h with
  | text _ hnil htext =>
    rw [hat, hbt] at htext
    exact .text hopen (hac.symm.trans hnil) htext
  | tail _ htext ha hb hlast hpre =>
    rw [hat, hbt] at htext
    exact .tail hopen htext (hac.symm.trans ha) (hbc.symm.trans hb) hlast hpre
  | child _ htext ha hb hnil hrest =>
    rw [hat, hbt] at htext
    exact .child hopen htext (hac.symm.trans ha) (hbc.symm.trans hb) hnil hrest

theorem trans (h : Truncated a b) (h' : Truncated b c) : Truncated a c := by
  induction h generalizing c with
  | @text a b hopen hnil htext =>
    have hpre : b.text <+: c.text := by
      cases h' with
      | text _ _ hpre => exact hpre
      | tail _ heq => rw [heq]
      | child _ heq => rw [heq]
    exact .text (hopen.trans h'.opening_eq) hnil (htext.trans hpre)
  | @tail a b last other es fs hopen htext ha hb hlast hpre =>
    have hopen' := hopen.trans h'.opening_eq
    cases h' with
    | text _ hnil => simp [hb] at hnil
    | tail _ htext' hb' hc hlast' hpre' =>
      rcases append_singleton_eq (hb.symm.trans hb') with ⟨rfl, rfl⟩ | ⟨gs, rfl⟩
      · exact .tail hopen' (htext.trans htext') ha hc (hlast.trans hlast') (hpre.trans hpre')
      · rw [List.append_assoc, List.cons_append] at hc
        exact .tail hopen' (htext.trans htext') ha hc hlast hpre
    | child _ htext' hb' hc hnil' hrest =>
      rcases append_singleton_eq (hb.symm.trans hb') with ⟨rfl, rfl⟩ | ⟨gs, rfl⟩
      · have hnil : last.tail = [] := List.prefix_nil.mp (hnil' ▸ hpre)
        exact .child hopen' (htext.trans htext') ha hc hnil (hrest.congr hlast.symm rfl)
      · rw [List.append_assoc, List.cons_append] at hc
        exact .tail hopen' (htext.trans htext') ha hc hlast hpre
  | @child a b last other es fs hopen htext ha hb hnil hrest ih =>
    have hopen' := hopen.trans h'.opening_eq
    cases h' with
    | text _ hnil' => simp [hb] at hnil'
    | tail _ htext' hb' hc hlast' hpre' =>
      rcases append_singleton_eq (hb.symm.trans hb') with ⟨rfl, rfl⟩ | ⟨gs, rfl⟩
      · exact .child hopen' (htext.trans htext') ha hc hnil (hrest.congr rfl hlast')
      · rw [List.append_assoc, List.cons_append] at hc
        exact .child hopen' (htext.trans htext') ha hc hnil hrest
    | child _ htext' hb' hc hnil' hrest' =>
      rcases append_singleton_eq (hb.symm.trans hb') with ⟨rfl, rfl⟩ | ⟨gs, rfl⟩
      · exact .child hopen' (htext.trans htext') ha hc hnil (ih hrest')
      · rw [List.append_assoc, List.cons_append] at hc
        exact .child hopen' (htext.trans htext') ha hc hnil hrest

/-- All children but the last are the same, and the last has lost its end at most. -/
theorem children (h : Truncated a b) : a.children = [] ∨ ∃ es fs last other,
    a.children = es ++ [last] ∧ b.children = es ++ other :: fs ∧ Truncated last other := by
  cases h with
  | text _ hnil => exact .inl hnil
  | tail _ _ ha hb hlast =>
    exact .inr ⟨_, _, _, _, ha, hb, (refl _).congr rfl hlast⟩
  | child _ _ ha hb _ hrest => exact .inr ⟨_, _, _, _, ha, hb, hrest⟩

end Truncated

theorem innerTexts_append (es fs : List Element) :
    innerTexts (es ++ fs) = innerTexts es ++ innerTexts fs := by
  induction es with
  | nil => rfl
  | cons e es ih => simp [innerTexts, ih]

/-- What is lost is the end of the text too. -/
theorem Truncated.innerText_prefix (h : Truncated a b) : a.innerText <+: b.innerText := by
  induction h with
  | @text a b _ hnil htext =>
    rw [innerText_eq a, innerText_eq b, hnil]
    simpa [innerTexts] using htext.trans (List.prefix_append _ _)
  | @tail a b last other es fs _ htext ha hb hlast hpre =>
    have hinner : last.innerText = other.innerText := by
      obtain ⟨-, ht, hc⟩ := eq_of_alone hlast
      rw [innerText_eq, innerText_eq, ht, hc]
    obtain ⟨w, hw⟩ := hpre
    refine ⟨w ++ innerTexts fs, ?_⟩
    rw [innerText_eq a, innerText_eq b, ha, hb, innerTexts_append, innerTexts_append,
      innerTexts_cons, innerTexts_cons, hinner, htext, ← hw]
    simp [innerTexts]
  | @child a b last other es fs _ htext ha hb hnil _ ih =>
    obtain ⟨w, hw⟩ := ih
    refine ⟨w ++ other.tail ++ innerTexts fs, ?_⟩
    rw [innerText_eq a, innerText_eq b, ha, hb, innerTexts_append, innerTexts_append,
      innerTexts_cons, innerTexts_cons, hnil, htext, ← hw]
    simp [innerTexts]

theorem Truncated.childrenTagged_prefix (h : Truncated a b) (tag : Text) :
    (a.childrenTagged tag).dropLast <+: b.childrenTagged tag := by
  rcases h.children with hnil | ⟨es, fs, last, other, ha, hb, -⟩
  · simp [childrenTagged, hnil]
  · have hkept : (a.childrenTagged tag).dropLast <+: es.filter (·.tag = tag) := by
      rw [childrenTagged, ha, List.filter_append]
      by_cases hlast : last.tag = tag
      · simp [hlast]
      · simpa [hlast] using List.dropLast_prefix _
    rw [childrenTagged, childrenTagged] at *
    rw [hb, List.filter_append]
    exact hkept.trans (List.prefix_append _ _)

/-- The first child with a tag may have lost its end, if there is one left. -/
theorem Truncated.child? (h : Truncated a b) {tag : Text} {e : Element}
    (he : a.child? tag = some e) : ∃ e', b.child? tag = some e' ∧ Truncated e e' := by
  rcases h.children with hnil | ⟨es, fs, last, other, ha, hb, hlast⟩
  · simp [Element.child?, hnil] at he
  · rw [Element.child?, ha, List.find?_append] at he
    rw [Element.child?, hb, List.find?_append]
    cases hes : es.find? (·.tag = tag) with
    | some first =>
      rw [hes] at he
      exact ⟨first, rfl, Option.some.inj he ▸ refl _⟩
    | none =>
      rw [hes, Option.none_or, List.find?_singleton] at he
      split at he
      · rename_i htag
        obtain rfl := Option.some.inj he
        refine ⟨other, ?_, hlast⟩
        rw [hlast.tag_eq] at htag
        rw [Option.none_or]
        exact List.find?_cons_of_pos (p := fun x : Element => x.tag = tag) htag
      · cases he

end Element

open Element (Truncated)

namespace Frame

theorem truncated_addText (f : Frame) (t : Text) : Truncated f.close (f.addText t).close := by
  cases hc : f.children with
  | nil =>
    have hadd : f.addText t = { f with text := f.text ++ t } := by rw [addText, hc]
    rw [hadd]
    exact .text rfl (congrArg List.reverse hc) (List.prefix_append f.text t)
  | cons last others =>
    have hadd : f.addText t =
        { f with children := { last with tail := last.tail ++ t } :: others } := by
      rw [addText, hc]
    have hclose : f.close.children = others.reverse ++ [last] := by
      rw [close, hc, List.reverse_cons]
    rw [hadd]
    exact .tail rfl rfl hclose (List.reverse_cons ..) rfl (List.prefix_append last.tail t)

theorem truncated_addChild (f : Frame) (child : Element) :
    Truncated f.close (f.addChild child).close := by
  cases hc : f.children with
  | nil => exact .text rfl (congrArg List.reverse hc) (List.prefix_refl f.text)
  | cons last others =>
    have hclose : f.close.children = others.reverse ++ [last] := by
      rw [close, hc, List.reverse_cons]
    have hadd : (f.addChild child).close.children = others.reverse ++ last :: [child] := by
      rw [close, addChild, hc, List.reverse_cons, List.reverse_cons, List.append_assoc]
      rfl
    exact .tail rfl rfl hclose hadd rfl (List.prefix_refl last.tail)

/-- An element that has lost its end leaves those around it without theirs. -/
theorem truncated_closeAll {f g : Frame} (h : Truncated f.close g.close) (outer : List Frame) :
    Truncated (f.closeAll outer) (g.closeAll outer) := by
  induction outer generalizing f g with
  | nil => exact h
  | cons o outer ih =>
    apply ih
    exact .child rfl rfl (List.reverse_cons ..) (List.reverse_cons ..) rfl h

end Frame

variable {f : Frame} {outer : List Frame} {e e' : Element} {ts us : List (Except Fault Token)}

/-- Reading on only adds to the end. -/
theorem truncated_readInside (h : readInside f outer ts = .ok e) :
    Truncated (f.closeAll outer) e := by
  induction ts generalizing f outer with
  | nil => exact Except.ok.inj h ▸ .refl _
  | cons token ts ih =>
    -- an added child or text comes behind what was lost
    have hchild := fun child => Frame.truncated_closeAll (Frame.truncated_addChild f child) outer
    have htext := fun t => Frame.truncated_closeAll (Frame.truncated_addText f t) outer
    match token, h with
    | .ok (.start tag attributes), h =>
      have hrest := ih h
      exact (hchild _).trans hrest
    | .ok (.empty tag attributes), h => exact (hchild _).trans (ih h)
    | .ok (.stop tag), h =>
      unfold readInside at h
      split at h
      · cases outer with
        | nil => exact Except.ok.inj h ▸ .refl _
        | cons parent outer =>
          have hrest := ih h
          exact hrest
      · cases h
    | .ok (.text t), h => exact (htext _).trans (ih h)
    | .ok (.reference name), h => exact (htext _).trans (ih h)
    | .ok (.cdata t), h => exact (htext _).trans (ih h)
    | .ok .aside, h => exact ih h

/-- Two readings that go on alike until the first text ends. -/
theorem truncated_of_cutShort (cut : CutShort ts us) (h : readInside f outer ts = .ok e)
    (h' : readInside f outer us = .ok e') : Truncated e e' := by
  induction cut generalizing f outer with
  | nil =>
    obtain rfl := Except.ok.inj h
    exact truncated_readInside h'
  | fault => cases h
  | text huv =>
    obtain ⟨w, rfl⟩ := huv
    obtain rfl := Except.ok.inj h
    rw [readInside, Frame.addText_append] at h'
    have hrest := truncated_readInside h'
    exact (Frame.truncated_closeAll (Frame.truncated_addText _ w) outer).trans hrest
  | @cons token ts us _ ih =>
    match token, h, h' with
    | .start tag attributes, h, h' => exact ih h h'
    | .empty tag attributes, h, h' => exact ih h h'
    | .stop tag, h, h' =>
      unfold readInside at h h'
      split at h
      · rename_i htag
        rw [if_pos htag] at h'
        cases outer with
        | nil =>
          obtain rfl := Except.ok.inj h
          exact Except.ok.inj h' ▸ .refl _
        | cons parent outer => exact ih h h'
      · cases h
    | .text t, h, h' => exact ih h h'
    | .reference name, h, h' => exact ih h h'
    | .cdata t, h, h' => exact ih h h'
    | .aside, h, h' => exact ih h h'

theorem truncated_readRoot (cut : CutShort ts us) (h : readRoot ts = .ok e)
    (h' : readRoot us = .ok e') : Truncated e e' := by
  induction cut with
  | nil => cases h
  | fault => cases h
  | text => cases h
  | @cons token ts us cut ih =>
    match token, h, h' with
    | .start tag attributes, h, h' => exact truncated_of_cutShort cut h h'
    | .empty tag attributes, h, h' =>
      obtain rfl := Except.ok.inj h
      exact Except.ok.inj h' ▸ .refl _
    | .text t, h, h' => exact ih h h'
    | .reference name, h, h' => exact ih h h'
    | .cdata t, h, h' => exact ih h h'
    | .aside, h, h' => exact ih h h'

end Xml

/-- The entries of an export that is cut short are the first of the whole export's, but for the
last one. -/
theorem Export.dropLast_members_prefix {a b : Xml.Element} (h : a.Truncated b) {x y : Export}
    (ha : ofRoot a = .ok x) (hb : ofRoot b = .ok y) : x.members.dropLast <+: y.members := by
  unfold ofRoot at ha hb
  split at ha
  · rename_i members hmembers
    obtain ⟨members', hmembers', hrest⟩ := h.child? hmembers
    rw [hmembers'] at hb
    obtain rfl := Except.ok.inj ha
    obtain rfl := Except.ok.inj hb
    exact hrest.childrenTagged_prefix _
  · cases ha

/-- What is read from a prefix of a text is what is read from the text, with its end lost. -/
theorem Xml.truncated_of_prefix {p s : Text} {e e' : Element} (cut : p <+: s)
    (he : read p = .ok e) (he' : read s = .ok e') :
    e.Truncated e' ∧ e.innerText <+: e'.innerText ∧
      ∀ x x' : Export, Export.read p = .ok x → Export.read s = .ok x' →
        x.members.dropLast <+: x'.members := by
  obtain ⟨rest, rfl⟩ := cut
  have htrunc : e.Truncated e' := by
    apply truncated_readRoot (cutShort_tokens p rest)
    · rw [← read_eq, he]
    · rw [← read_eq, he']
  refine ⟨htrunc, htrunc.innerText_prefix, ?_⟩
  intro x x' hx hx'
  rw [Export.read, he] at hx
  rw [Export.read, he'] at hx'
  exact Export.dropLast_members_prefix htrunc hx hx'

/-- A document cut within the text of its second entry, which the whole text follows by a third. -/
theorem Xml.exists_truncated_of_prefix :
    ∃ (e e' : Element) (x x' : Export),
      Export.read "<d><members><member/>x<member>on" = .ok x ∧
        Export.read "<d><members><member/>x<member>one&amp;</member><member/>t</members></d>" =
          .ok x' ∧
        e.innerText = "xon" ∧ e'.innerText = "xone&t" ∧ x.members.length = 2 ∧
        x'.members.length = 3 ∧
        e.Truncated e' ∧ e.innerText <+: e'.innerText ∧ x.members.dropLast <+: x'.members := by
  let first : Element := { tag := "member", tail := "x" }
  let short : Element := { tag := "member", text := "on" }
  let long : Element := { tag := "member", text := "one&" }
  let third : Element := { tag := "member", tail := "t" }
  have he : read "<d><members><member/>x<member>on" =
      .ok { tag := "d", children := [{ tag := "members", children := [first, short] }] } := by
    cbv
  have he' : read "<d><members><member/>x<member>one&amp;</member><member/>t</members></d>" =
      .ok { tag := "d", children := [{ tag := "members", children := [first, long, third] }] } := by
    cbv
  have hx : Export.read "<d><members><member/>x<member>on" = .ok ⟨[first, short]⟩ := by
    rw [Export.read, he]
    rfl
  have hx' : Export.read "<d><members><member/>x<member>one&amp;</member><member/>t</members></d>" =
      .ok ⟨[first, long, third]⟩ := by
    rw [Export.read, he']
    rfl
  have cut : "<d><members><member/>x<member>on".toList <+:
      "<d><members><member/>x<member>one&amp;</member><member/>t</members></d>".toList :=
    ⟨"e&amp;</member><member/>t</members></d>".toList, rfl⟩
  obtain ⟨htrunc, hprefix, hmembers⟩ := truncated_of_prefix cut he he'
  exact ⟨_, _, _, _, hx, hx', rfl, rfl, rfl, rfl, htrunc, hprefix, hmembers _ _ hx hx'⟩

end RefSite
