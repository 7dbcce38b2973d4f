import Mathlib.Data.Nat.Digits.Defs
import RefSite.Proofs.Comment.Pieces
import RefSite.Proofs.Identifier
import RefSite.Proofs.Markdown
import RefSite.Proofs.NameForm

namespace RefSite

open Xml (Element)

variable {t cref mark target : Text} {id : Identifier}

theorem Markdown.tick_not_mem_link {label : Text} (hlabel : '\x60' ∉ label) (h : '\x60' ∉ target) :
    '\x60' ∉ link label target := by
  have hopening : '\x60' ∉ "[".toList ++ label := List.not_mem_append (by decide) hlabel
  have hmiddle : '\x60' ∉ "[".toList ++ label ++ "](".toList :=
    List.not_mem_append hopening (by decide)
  exact List.not_mem_append (List.not_mem_append hmiddle h) (by decide)

namespace Identifier

theorem tick_not_mem_dotted {ns : List Text} (h : ∀ n ∈ ns, '\x60' ∉ n) : '\x60' ∉ dotted ns := by
  intro hmem
  rcases Text.exists_of_mem_join hmem with hdot | ⟨n, hn, hmem⟩
  · exact absurd hdot (by decide)
  · exact h n hn hmem

theorem tick_not_mem_target (h : ∀ s ∈ id.path, '\x60' ∉ s) : '\x60' ∉ id.target := by
  have howner : '\x60' ∉ id.owningType :=
    tick_not_mem_dotted fun n hn => h n (mem_path_of_mem_owner hn)
  rw [target, pageId, NameForm.escaped, NameForm.replaceArity_of_not_mem _ howner]
  exact List.not_mem_append (List.not_mem_append (by decide) howner) (by decide)

theorem tick_not_mem_label (valid : id.Valid) (h : ∀ s ∈ id.path, '\x60' ∉ s) :
    '\x60' ∉ id.label := by
  have htype : '\x60' ∉ id.typeName := h _ (mem_path_of_mem_owner valid.typeName_mem)
  unfold label
  split
  · exact htype
  · exact htype
  · exact tick_not_mem_dotted (by simpa using ⟨htype, h _ valid.segment_mem⟩)

end Identifier

namespace Comment

variable {a : Piece} {ps qs : List Piece} {code : Text} {e : Element}
  {attributes : Xml.Attributes}

/-- No text, tail or value of an attribute has a backtick. -/
inductive TickFree : Element → Prop
  | intro {e : Element} : '\x60' ∉ e.text → '\x60' ∉ e.tail → (∀ a ∈ e.attributes, '\x60' ∉ a.2) →
    (∀ child ∈ e.children, TickFree child) → TickFree e

theorem TickFree.tail_free (h : TickFree e) : '\x60' ∉ e.tail := by
  cases h
  assumption

theorem TickFree.around (tag : Text) (h : TickFree e) : TickFree { tag, children := [e] } :=
  .intro List.not_mem_nil List.not_mem_nil (List.forall_mem_nil _) (List.forall_mem_singleton.mpr h)

/-- A block is without backticks if its code is. -/
def Piece.TickFree : Piece → Prop
  | .char c => c ≠ '\x60'
  | .block code => '\x60' ∉ code

/-- Backticks stand around code spans, and code spans are not empty. -/
inductive Spanned : List Piece → Prop
  | nil : Spanned []
  | cons {a : Piece} {ps : List Piece} : a.TickFree → Spanned ps → Spanned (a :: ps)
  | span {code : Text} {ps : List Piece} : code ≠ [] → '\x60' ∉ code → Spanned ps →
    Spanned (.char '\x60' :: (plain code ++ .char '\x60' :: ps))

theorem Spanned.append (hp : Spanned ps) (hq : Spanned qs) : Spanned (ps ++ qs) := by
  induction hp with
  | nil => exact hq
  | cons ha _ ih => exact .cons ha ih
  | span hne hcode _ ih =>
    rw [List.cons_append, List.append_assoc, List.cons_append]
    exact .span hne hcode ih

theorem spanned_plain (h : '\x60' ∉ t) : Spanned (plain t) := by
  induction t with
  | nil => exact .nil
  | cons c t ih =>
    obtain ⟨hc, ht⟩ : '\x60' ≠ c ∧ '\x60' ∉ t := by simpa using h
    exact .cons (Ne.symm hc) (ih ht)

theorem spanned_codeSpan (h : '\x60' ∉ t) : Spanned (plain (Markdown.codeSpan t)) := by
  have htrim : '\x60' ∉ Text.trim t := fun hmem => h (Text.trim_subset t hmem)
  rw [Markdown.codeSpan, if_neg htrim]
  split_ifs with hne
  · exact .nil
  · have htick : "\x60".toList = ['\x60'] := by decide
    rw [htick, plain, List.map_append, List.map_append]
    exact .span hne htrim .nil

theorem plain_reverse (t : Text) : (plain t).reverse = plain t.reverse := List.map_reverse.symm

theorem Spanned.reverse (h : Spanned ps) : Spanned ps.reverse := by
  induction h with
  | nil => exact .nil
  | cons ha _ ih =>
    rw [List.reverse_cons]
    exact ih.append (.cons ha .nil)
  | @span code ps hne hcode _ ih =>
    have hspan : Spanned (.char '\x60' :: (plain code.reverse ++ [.char '\x60'])) :=
      .span (by simpa using hne) (by simpa using hcode) .nil
    rw [List.reverse_cons, List.reverse_append, List.reverse_cons, plain_reverse, List.append_assoc,
      List.append_assoc]
    exact ih.append hspan

theorem Spanned.dropWhile (h : Spanned ps) : Spanned (ps.dropWhile Piece.isBlank) := by
  induction h with
  | nil => exact .nil
  | @cons a ps ha hps ih =>
    rw [List.dropWhile_cons]
    split_ifs
    · exact ih
    · exact .cons ha hps
  | span hne hcode hps _ =>
    rw [List.dropWhile_cons_of_neg (by decide)]
    exact .span hne hcode hps

theorem Spanned.trimPieces (h : Spanned ps) : Spanned (trimPieces ps) :=
  h.dropWhile.reverse.dropWhile.reverse

theorem Spanned.code_of_mem (h : Spanned ps) (hmem : .block code ∈ ps) : '\x60' ∉ code := by
  induction h with
  | nil => cases hmem
  | @cons a ps ha _ ih =>
    rcases List.mem_cons.mp hmem with rfl | hmem
    · exact ha
    · exact ih hmem
  | span _ _ _ ih =>
    apply ih
    simpa [plain] using hmem

theorem Spanned.not_isPrefix (h : Spanned ps) : ¬ [.char '\x60', .char '\x60'] <+: ps := by
  intro hpre
  cases h with
  | nil => simp at hpre
  | cons ha _ =>
    obtain ⟨rfl, -⟩ := List.cons_prefix_cons.mp hpre
    exact ha rfl
  | span hne hcode _ =>
    obtain ⟨c, code, rfl⟩ := List.exists_cons_of_ne_nil hne
    obtain ⟨hc, -⟩ := List.cons_prefix_cons.mp (List.cons_prefix_cons.mp hpre).2
    exact hcode (Piece.char.inj hc ▸ List.mem_cons_self)

/-- What begins with a backtick does not begin within text that has none. -/
theorem infix_of_infix_plain (h : '\x60' ∉ t)
    (hpart : .char '\x60' :: qs <:+: plain t ++ ps) : .char '\x60' :: qs <:+: ps := by
  induction t with
  | nil => exact hpart
  | cons c t ih =>
    obtain ⟨hc, ht⟩ : '\x60' ≠ c ∧ '\x60' ∉ t := by simpa using h
    rcases List.infix_cons_iff.mp hpart with hpre | hpart
    · exact absurd (Piece.char.inj (List.cons_prefix_cons.mp hpre).1) hc
    · exact ih ht hpart

/-- No three backticks follow each other. -/
theorem Spanned.not_isInfix (h : Spanned ps) : ¬ plain Markdown.closingFence <:+: ps := by
  have hfence : plain Markdown.closingFence = [.char '\x60', .char '\x60', .char '\x60'] := by
    decide
  rw [hfence]
  induction h with
  | nil => simp
  | cons ha _ ih =>
    intro hpart
    rcases List.infix_cons_iff.mp hpart with hpre | hpart
    · obtain ⟨rfl, -⟩ := List.cons_prefix_cons.mp hpre
      exact ha rfl
    · exact ih hpart
  | span hne hcode hps ih =>
    intro hpart
    rcases List.infix_cons_iff.mp hpart with hpre | hpart
    · have htwo : [Piece.char '\x60', .char '\x60'] <+:
          [.char '\x60', .char '\x60', .char '\x60'] := ⟨[.char '\x60'], rfl⟩
      exact (Spanned.span hne hcode hps).not_isPrefix (htwo.trans hpre)
    · rcases List.infix_cons_iff.mp (infix_of_infix_plain hcode hpart) with hpre | hpart
      · exact hps.not_isPrefix (List.cons_prefix_cons.mp hpre).2
      · exact ih hpart

theorem spanned_linkPieces (hp : Spanned ps) (h : '\x60' ∉ target) :
    Spanned (linkPieces ps target) := by
  have hopening : Spanned (plain "[") := spanned_plain (by decide)
  have hmiddle : Spanned (plain "](") := spanned_plain (by decide)
  have hclosing : Spanned (plain ")") := spanned_plain (by decide)
  exact (((hopening.append hp).append hmiddle).append (spanned_plain h)).append hclosing

theorem spanned_emphasizePieces (h : '\x60' ∉ mark) (hp : Spanned ps) :
    Spanned (emphasizePieces mark ps) := by
  unfold emphasizePieces
  split_ifs
  · exact .nil
  · exact ((spanned_plain h).append hp.trimPieces).append (spanned_plain h)

theorem spanned_itemPieces {term : Option (List Piece)} (hterm : ∀ ps ∈ term, Spanned ps)
    (hp : Spanned ps) : Spanned (itemPieces term ps) := by
  have hterm : Spanned (term.getD []) := by
    cases term with
    | none => exact .nil
    | some ps => exact hterm ps rfl
  unfold itemPieces
  split_ifs
  · exact hp.trimPieces
  · have hopening : Spanned (plain "**") := spanned_plain (by decide)
    have hclosing : Spanned (plain "**: ") := spanned_plain (by decide)
    exact ((hopening.append hterm.trimPieces).append hclosing).append hp.trimPieces

theorem spanned_memberLink (h : '\x60' ∉ cref) : Spanned (plain (memberLink cref)) := by
  unfold memberLink
  split
  · rename_i id hparse
    have hpath : ∀ s ∈ id.path, '\x60' ∉ s := fun s hs hmem =>
      h (Identifier.subset_of_parse? hparse hs hmem)
    have hlabel := Identifier.tick_not_mem_label (Identifier.valid_of_parse? hparse) hpath
    apply spanned_plain
    apply Markdown.tick_not_mem_link _ (Identifier.tick_not_mem_target hpath)
    rwa [Markdown.mem_escapeHtml_iff (by decide), NameForm.display,
      NameForm.replaceArity_of_not_mem _ hlabel]
  · apply spanned_codeSpan
    cases hafter : Text.after? ':' cref with
    | none => exact h
    | some rest =>
      intro hmem
      rw [← Text.before_append_after hafter] at h
      exact h (List.mem_append_right _ (List.mem_cons_of_mem _ hmem))

theorem tick_not_mem_of_lookup {name value : Text} (h : ∀ a ∈ attributes, '\x60' ∉ a.2)
    (hlookup : attributes.lookup name = some value) : '\x60' ∉ value := by
  obtain ⟨_, _, rfl, -⟩ := List.lookup_eq_some_iff.mp hlookup
  exact h (name, value) (List.mem_append_right _ List.mem_cons_self)

theorem spanned_referencePieces (h : ∀ a ∈ attributes, '\x60' ∉ a.2) (hp : Spanned ps) :
    Spanned (referencePieces attributes ps) := by
  unfold referencePieces
  split
  · rename_i hword
    exact spanned_codeSpan (tick_not_mem_of_lookup h hword)
  · rename_i haddress
    have htarget := tick_not_mem_of_lookup h haddress
    apply spanned_linkPieces _ htarget
    split_ifs
    · exact spanned_plain htarget
    · exact hp.trimPieces
  · rename_i hmember
    have hcref := tick_not_mem_of_lookup h hmember
    split_ifs
    · exact spanned_memberLink hcref
    · split
      · rename_i id hparse
        apply spanned_linkPieces hp.trimPieces
        exact Identifier.tick_not_mem_target fun s hs hmem =>
          hcref (Identifier.subset_of_parse? hparse hs hmem)
      · exact hp.trimPieces
  · exact hp.trimPieces

theorem tick_not_mem_itemMarker (numbered : Bool) (n : Nat) : '\x60' ∉ itemMarker numbered n := by
  unfold itemMarker
  split_ifs
  · refine List.not_mem_append ?_ (by decide)
    intro hmem
    exact absurd (Nat.isDigit_of_mem_toDigits (by decide) (by decide) hmem) (by decide)
  · decide

mutual

theorem tick_not_mem_innerText : ∀ e : Element, TickFree e → '\x60' ∉ e.innerText
  | ⟨_, _, text, children, _⟩, h => by
    cases h with
    | intro htext _ _ hchildren =>
      rw [Element.innerText]
      exact List.not_mem_append htext (tick_not_mem_innerTexts children hchildren)

theorem tick_not_mem_innerTexts :
    ∀ es : List Element, (∀ e ∈ es, TickFree e) → '\x60' ∉ Element.innerTexts es
  | [], _ => by
    rw [Element.innerTexts]
    exact List.not_mem_nil
  | e :: es, h => by
    obtain ⟨he, hes⟩ := List.forall_mem_cons.mp h
    rw [Element.innerTexts]
    exact List.not_mem_append (List.not_mem_append (tick_not_mem_innerText e he) he.tail_free)
      (tick_not_mem_innerTexts es hes)

end

theorem spanned_escapeTicks (h : '\x60' ∉ t) : Spanned (plain (Markdown.escapeTicks t)) := by
  rw [Markdown.escapeTicks_of_not_mem h]
  exact spanned_plain h

mutual

theorem TickFree.pieces : ∀ {e : Element}, TickFree e → Spanned (pieces e)
  | ⟨_, _, text, children, _⟩, .intro htext _ _ hchildren => by
    rw [Comment.pieces]
    exact (spanned_escapeTicks htext).append (spanned_runPieces hchildren)

theorem spanned_runPieces : ∀ {es : List Element}, (∀ e ∈ es, TickFree e) → Spanned (runPieces es)
  | [], _ => by
    rw [runPieces]
    exact .nil
  | e :: es, h => by
    obtain ⟨he, hes⟩ := List.forall_mem_cons.mp h
    rw [runPieces]
    exact ((spanned_inlinePieces he).append (spanned_escapeTicks he.tail_free)).append
      (spanned_runPieces hes)

theorem spanned_inlinePieces : ∀ {e : Element}, TickFree e → Spanned (inlinePieces e)
  | ⟨tag, attributes, text, children, _⟩, .intro htext _ hattributes hchildren => by
    have hcontent : Spanned (plain (Markdown.escapeTicks text) ++ runPieces children) :=
      (spanned_escapeTicks htext).append (spanned_runPieces hchildren)
    have hinner : '\x60' ∉ text ++ Element.innerTexts children :=
      List.not_mem_append htext (tick_not_mem_innerTexts children hchildren)
    have hbreak : Spanned (plain "\n") := spanned_plain (by decide)
    rw [inlinePieces]
    cases Role.of tag with
    | reference => exact spanned_referencePieces hattributes hcontent
    | parameterName =>
      apply spanned_codeSpan
      cases hname : attributes.lookup "name".toList with
      | none => exact List.not_mem_nil
      | some name => exact tick_not_mem_of_lookup hattributes hname
    | code => exact spanned_codeSpan hinner
    | codeBlock =>
      have hblock : Piece.TickFree (.block (text ++ Element.innerTexts children)) := hinner
      exact (hbreak.append (.cons hblock .nil)).append hbreak
    | paragraph => exact (hbreak.append hcontent).append hbreak
    | lineBreak => exact hbreak
    | strong => exact spanned_emphasizePieces (by decide) hcontent
    | emphasis => exact spanned_emphasizePieces (by decide) hcontent
    | list => exact hbreak.append (spanned_itemsPieces _ _ hchildren)
    | plain => exact hcontent

theorem spanned_itemsPieces (numbered : Bool) (n : Nat) :
    ∀ {es : List Element}, (∀ e ∈ es, TickFree e) → Spanned (itemsPieces numbered n es)
  | [], _ => by
    rw [itemsPieces]
    exact .nil
  | ⟨tag, _, text, children, _⟩ :: es, h => by
    obtain ⟨he, hes⟩ := List.forall_mem_cons.mp h
    obtain ⟨htext, -, -, hchildren⟩ := he
    rw [itemsPieces]
    split_ifs
    · have hmarker : Spanned (plain (itemMarker numbered n)) :=
        spanned_plain (tick_not_mem_itemMarker numbered n)
      have hdescription : Spanned ((piecesOf "description" children).getD
          (plain (Markdown.escapeTicks text) ++ runPieces children)) := by
        cases hfirst : piecesOf "description" children with
        | none => exact (spanned_escapeTicks htext).append (spanned_runPieces hchildren)
        | some ps => exact spanned_piecesOf _ hchildren ps hfirst
      have hitem := spanned_itemPieces (spanned_piecesOf "term" hchildren) hdescription
      exact ((hmarker.append hitem).append (spanned_plain (by decide))).append
        (spanned_itemsPieces numbered (n + 1) hes)
    · exact spanned_itemsPieces numbered n hes

theorem spanned_piecesOf (tag : Text) :
    ∀ {es : List Element}, (∀ e ∈ es, TickFree e) → ∀ ps ∈ piecesOf tag es, Spanned ps
  | [], _ => by
    rw [piecesOf]
    exact fun _ hps => nomatch hps
  | e :: es, h => by
    obtain ⟨he, hes⟩ := List.forall_mem_cons.mp h
    rw [piecesOf]
    split_ifs
    · rintro ps hps
      exact Option.mem_some_iff.mp hps ▸ he.pieces
    · exact spanned_piecesOf tag hes

end

end Comment

end RefSite
