import RefSite.Proofs.Comment.Blocks
import RefSite.Proofs.Comment.Ticks

namespace RefSite.Comment

open Xml (Element)
open Markdown (Alone Flush IsFence fenced fences linesAbove)

variable {e : Element} {as bs ps : List Piece} {code t : Text}

theorem lines_eq (h : pieces e = as ++ .block code :: bs) :
    lines e = Markdown.normalLines (write as ++ fenced code ++ write bs) := by
  rw [lines, ← write_pieces, h, write_append, write_cons, Piece.text, List.append_assoc]

/-- Text of a comment is not taken for a fence. -/
theorem Spanned.not_isFence (h : Spanned ps) (hpart : plain t <:+: ps) :
    ∀ l ∈ Text.lines t, ¬ IsFence l := by
  intro l hl hfence
  have hfence : Markdown.closingFence <:+: l :=
    (List.isPrefixOf_iff_prefix.mp hfence).isInfix.trans (Text.trim_isInfix l)
  have htext := hfence.trans (Text.infix_of_mem_split hl)
  exact h.not_isInfix ((htext.map Piece.char).trans hpart)

theorem plain_or_block (as : List Piece) :
    (∃ t, as = plain t) ∨ ∃ as' code t, as = as' ++ .block code :: plain t := by
  induction as with
  | nil => exact .inl ⟨[], rfl⟩
  | cons a as ih =>
    rcases ih with ⟨t, rfl⟩ | ⟨as', code, t, rfl⟩
    · cases a with
      | char c => exact .inl ⟨c :: t, rfl⟩
      | block code => exact .inr ⟨[], code, t, rfl⟩
    · exact .inr ⟨a :: as', code, t, rfl⟩

/-- If all blocks have lines of their own, each is closed again. -/
theorem Spanned.even_fences (h : Spanned ps)
    (alone : ∀ as code bs, ps = as ++ .block code :: bs → Alone (write as) (write bs))
    (as : List Piece) (code : Text) (bs : List Piece) (hblock : ps = as ++ .block code :: bs) :
    Even (fences (Text.lines (write as))) := by
  -- on the last block above, which has an even number of fences above itself and adds two
  rcases plain_or_block as with ⟨t, rfl⟩ | ⟨as', code', t, rfl⟩
  · have hnone := h.not_isFence (t := t) ⟨[], .block code :: bs, hblock.symm⟩
    rw [write_plain, Markdown.fences_eq_zero hnone]
    exact Even.zero
  · have hblock' : ps = as' ++ .block code' :: (plain t ++ .block code :: bs) := by
      rw [hblock, List.append_assoc, List.cons_append]
    have ih := Spanned.even_fences h alone as' code' _ hblock'
    have hcode : '\x60' ∉ code' := h.code_of_mem (hblock' ▸ by simp)
    have hnone := h.not_isFence (t := t)
      ⟨as' ++ [.block code'], .block code :: bs, by simp [hblock']⟩
    have htail : fences (Text.lines t).tail = 0 :=
      Markdown.fences_eq_zero fun l hl => hnone l (List.mem_of_mem_tail hl)
    rw [write_append, write_cons, write_plain, Piece.text, ← List.append_assoc,
      Markdown.fences_fenced t hcode (alone _ _ _ hblock').1, htail]
    exact ih.add even_two
termination_by as.length

/-- The block of code that stands behind some pieces comes out as it is: its opening fence, the
lines of the dedented code and its closing fence follow what comes out of the pieces. -/
def Verbatim (e : Element) (as : List Piece) (code : Text) : Prop :=
  ∃ below, lines e = linesAbove (write as) ++ Markdown.openingFence ::
    (Text.lines (Markdown.dedent code) ++ Markdown.closingFence :: below)

theorem verbatim_iff (tickFree : TickFree e) (h : pieces e = as ++ .block code :: bs) :
    Verbatim e as code ↔
      Alone (write as) (write bs) ∧ (Even (fences (Text.lines (write as))) ∨ Flush code) := by
  have hcode : '\x60' ∉ code := tickFree.pieces.code_of_mem (h ▸ by simp)
  rw [Verbatim, lines_eq h]
  exact Markdown.verbatim_iff hcode

/-- In a comment without backticks, each block of code that is shown comes out as it is just if its
fences have lines of their own, and if in addition no block above is still open or the code has no
indentation to lose. If all blocks have lines of their own, all of them come out as they are. -/
theorem blocks_verbatim (tickFree : TickFree e) :
    (∀ child ∈ e.children, ∀ code, Shows child code →
        ∃ as bs, pieces e = as ++ .block code :: bs) ∧
      (∀ as code bs, pieces e = as ++ .block code :: bs →
        (Verbatim e as code ↔
          Alone (write as) (write bs) ∧
            (Even (fences (Text.lines (write as))) ∨ Flush code))) ∧
      ((∀ as code bs, pieces e = as ++ .block code :: bs → Alone (write as) (write bs)) →
        ∀ as code bs, pieces e = as ++ .block code :: bs → Verbatim e as code) := by
  refine ⟨fun _ hchild _ => exists_pieces_eq hchild, fun _ _ _ => verbatim_iff tickFree, ?_⟩
  intro alone as code bs h
  have heven := tickFree.pieces.even_fences alone as code bs h
  exact (verbatim_iff tickFree h).mpr ⟨alone as code bs h, .inl heven⟩

/-- Code in a paragraph. -/
theorem exists_blocks_verbatim :
    ∃ (e : Element) (as bs : List Piece), TickFree e ∧
      pieces e = as ++ .block "if (a)\n    b();" :: bs ∧ Verbatim e as "if (a)\n    b();" ∧
        lines e = ["Like", "", "\x60\x60\x60csharp", "if (a)", "    b();", "\x60\x60\x60"] := by
  let code : Element := { tag := "code", text := "if (a)\n    b();" }
  let para : Element := { tag := "para", children := [code] }
  let e : Element := { tag := "remarks", text := "Like ", children := [para] }
  have tickFree : TickFree e := by
    have hcode : TickFree code :=
      .intro (by decide) List.not_mem_nil (List.forall_mem_nil _) (List.forall_mem_nil _)
    exact .intro (by decide) List.not_mem_nil (List.forall_mem_nil _)
      (List.forall_mem_singleton.mpr (hcode.around _))
  have hpieces : pieces e =
      plain "Like \n\n" ++ .block "if (a)\n    b();" :: plain "\n\n" := rfl
  have hverbatim := ((blocks_verbatim tickFree).2.1 _ _ _ hpieces).mpr ⟨by decide, by decide⟩
  refine ⟨e, _, _, tickFree, hpieces, hverbatim, ?_⟩
  rw [lines_eq hpieces]
  decide

/-- Code that begins the description of a list item shares a line with the marker of the item. -/
theorem exists_not_verbatim :
    ∃ (e child : Element) (code : Text), TickFree e ∧ child ∈ e.children ∧ Shows child code ∧
      ¬ Text.Blank code ∧
        lines e = ["- \x60\x60\x60csharp", "if (a)", "b();", "\x60\x60\x60"] ∧
          ∀ above below, lines e ≠ above ++ Markdown.openingFence ::
            (Text.lines (Markdown.dedent code) ++ Markdown.closingFence :: below) := by
  let code : Element := { tag := "code", text := "if (a)\n    b();" }
  let description : Element := { tag := "description", children := [code] }
  let item : Element := { tag := "item", children := [description] }
  let list : Element := { tag := "list", attributes := [("type", "bullet")], children := [item] }
  let e : Element := { tag := "remarks", children := [list] }
  have tickFree : TickFree e := by
    have hcode : TickFree code :=
      .intro (by decide) List.not_mem_nil (List.forall_mem_nil _) (List.forall_mem_nil _)
    have hitem : TickFree item := (hcode.around _).around _
    have hlist : TickFree list := .intro List.not_mem_nil List.not_mem_nil (by decide)
      (List.forall_mem_singleton.mpr hitem)
    exact hlist.around _
  have hpieces : pieces e = plain "\n- " ++ .block "if (a)\n    b();" :: plain "\n" := rfl
  have hlines : lines e = ["- \x60\x60\x60csharp", "if (a)", "b();", "\x60\x60\x60"] := by
    rw [lines_eq hpieces]
    decide
  have hshows : Shows list code.innerText :=
    .item (by decide) List.mem_cons_self rfl List.mem_cons_self List.mem_cons_self (.code (by decide))
  refine ⟨e, list, _, tickFree, List.mem_cons_self, hshows, by decide, hlines, ?_⟩
  intro above below h
  have hmem : Markdown.openingFence ∈ lines e := h ▸ by simp
  rw [hlines] at hmem
  exact absurd hmem (by decide)

end RefSite.Comment
