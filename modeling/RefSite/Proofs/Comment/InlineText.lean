import RefSite.Comment
import RefSite.Proofs.Letters

namespace RefSite.Comment

open Xml (Element)

variable {p : Char → Bool} {e : Element} {es : List Element}

/-- The element shows all of its text, or it breaks the line and has none. -/
structure ShowsText (e : Element) : Prop where
  role : Role.of e.tag ∉ [.reference, .parameterName, .codeBlock, .list]
  empty : Role.of e.tag = .lineBreak → e.text = [] ∧ e.children = []

/-- Every element within shows its text. -/
inductive InlineMarkup : Element → Prop
  | intro {e : Element} : (∀ child ∈ e.children, ShowsText child) →
    (∀ child ∈ e.children, InlineMarkup child) → InlineMarkup e

/-- The marks around emphasis and code spans, and those before backticks of the text. -/
def inlineMarks : Text := "*`\\"

mutual

theorem InlineMarkup.filter_content (hp : Excludes p inlineMarks) :
    ∀ {e : Element}, InlineMarkup e → (content e).filter p = e.innerText.filter p
  | ⟨_, _, text, children, _⟩, .intro hshows hchildren => by
    rw [content, Element.innerText, List.filter_append, List.filter_append,
      hp.filter_escapeTicks (by decide), filter_run hp hshows hchildren]

theorem filter_run (hp : Excludes p inlineMarks) :
    ∀ {es : List Element}, (∀ e ∈ es, ShowsText e) → (∀ e ∈ es, InlineMarkup e) →
      (run es).filter p = (Element.innerTexts es).filter p
  | [], _, _ => by
    rw [run, Element.innerTexts]
  | e :: es, hshows, h => by
    obtain ⟨hshow, hshows⟩ := List.forall_mem_cons.mp hshows
    obtain ⟨he, hes⟩ := List.forall_mem_cons.mp h
    simp only [run, Element.innerTexts, List.filter_append, filter_inline hp hshow he,
      hp.filter_escapeTicks (show '\\' ∈ inlineMarks by decide), filter_run hp hshows hes]

theorem filter_inline (hp : Excludes p inlineMarks) :
    ∀ {e : Element}, ShowsText e → InlineMarkup e → (inline e).filter p = e.innerText.filter p
  | ⟨tag, attributes, text, children, tail⟩, hshow, .intro hshows hchildren => by
    have hcontent : (Markdown.escapeTicks text ++ run children).filter p =
        (text ++ Element.innerTexts children).filter p := by
      rw [List.filter_append, List.filter_append, hp.filter_escapeTicks (by decide),
        filter_run hp hshows hchildren]
    have hbreak : "\n".toList.filter p = [] := hp.filter_of_blank (by decide)
    obtain ⟨hrole, hempty⟩ := hshow
    rw [inline, Element.innerText]
    dsimp only at hrole hempty
    cases hof : Role.of tag with
    | code => exact hp.filter_codeSpan (by decide) _
    | paragraph =>
      rw [List.filter_append, List.filter_append, hbreak, hcontent, List.nil_append,
        List.append_nil]
    | lineBreak =>
      obtain ⟨rfl, rfl⟩ := hempty hof
      exact hbreak
    | strong => exact (hp.filter_emphasize (by decide) _).trans hcontent
    | emphasis => exact (hp.filter_emphasize (by decide) _).trans hcontent
    | plain => exact hcontent
    | reference | parameterName | codeBlock | list =>
      rw [hof] at hrole
      exact absurd (by decide) hrole

end

/-- All letters and digits of the comment are in its lines and in its one line, each once and in
their order. The class of characters can be any that has no white space and no marks in it. -/
theorem InlineMarkup.text_kept (h : InlineMarkup e) (hp : Excludes p inlineMarks) :
    (lines e).flatten.filter p = e.innerText.filter p ∧
      (oneLine e).filter p = e.innerText.filter p := by
  have hlines : (lines e).flatten.filter p = e.innerText.filter p := by
    rw [lines, hp.filter_normalLines, h.filter_content hp]
  have hspace : Text.Blank " ".toList := by decide
  refine ⟨hlines, ?_⟩
  rw [oneLine, hp.filter_join hspace, List.flatten_filter_ne_nil, hlines]

/-- A code span within bold text, a line break, an element of another kind and an empty span. -/
theorem exists_text_kept :
    ∃ e : Element, InlineMarkup e ∧ Excludes Text.isWord inlineMarks ∧
      lines e = ["Größe **der `` a`b ``** \\`m", "x 3"] ∧
        (lines e).flatten.filter Text.isWord = e.innerText.filter Text.isWord ∧
          (oneLine e).filter Text.isWord = e.innerText.filter Text.isWord := by
  let code : Element := { tag := "c", text := " a`b " }
  let bold : Element := { tag := "b", text := "\nder ", children := [code], tail := " `m" }
  let br : Element := { tag := "br", tail := "x " }
  let empty : Element := { tag := "c", text := " " }
  let other : Element := { tag := "value", text := "3", children := [empty] }
  let e : Element := { tag := "summary", text := "Größe ", children := [bold, br, other] }
  have hleaf (e : Element) (h : e.children = []) : InlineMarkup e := by
    constructor <;> simp [h]
  have hbold : InlineMarkup bold :=
    .intro (List.forall_mem_singleton.mpr ⟨by decide, nofun⟩)
      (List.forall_mem_singleton.mpr (hleaf code rfl))
  have hother : InlineMarkup other :=
    .intro (List.forall_mem_singleton.mpr ⟨by decide, nofun⟩)
      (List.forall_mem_singleton.mpr (hleaf empty rfl))
  have hchild {q : Element → Prop} (hq : q bold ∧ q br ∧ q other) : ∀ child ∈ e.children, q child :=
    by simpa [e] using hq
  have hinline : InlineMarkup e :=
    .intro (hchild ⟨⟨by decide, nofun⟩, ⟨by decide, fun _ => ⟨rfl, rfl⟩⟩, ⟨by decide, nofun⟩⟩)
      (hchild ⟨hbold, hleaf br rfl, hother⟩)
  have hword : Excludes Text.isWord inlineMarks :=
    excludes_of_isWord (fun _ => id) (by decide +kernel)
  obtain ⟨hlines, hline⟩ := hinline.text_kept hword
  exact ⟨e, hinline, hword, by decide +kernel, hlines, hline⟩

end RefSite.Comment
