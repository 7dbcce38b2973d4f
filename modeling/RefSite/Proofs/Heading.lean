import Mathlib.Data.List.Infix
import RefSite.Proofs.TypePage

namespace RefSite

namespace Markdown

variable {c : Char} {s t : Text}

/-- What stands behind the ampersand of an entity. -/
def entityTails : List Text := ["amp;", "lt;", "gt;"]

/-- Decodes the entities from left to right, each once; all other text is kept. -/
def unescapeHtml : Text → Text
  | '&' :: 'a' :: 'm' :: 'p' :: ';' :: t => '&' :: unescapeHtml t
  | '&' :: 'l' :: 't' :: ';' :: t => '<' :: unescapeHtml t
  | '&' :: 'g' :: 't' :: ';' :: t => '>' :: unescapeHtml t
  | c :: t => c :: unescapeHtml t
  | [] => []

/-- The text has no brackets of tags, and each of its ampersands begins an entity. -/
structure Escaped (t : Text) : Prop where
  less : '<' ∉ t
  greater : '>' ∉ t
  entities : ∀ rest, '&' :: rest <:+ t → ∃ tail ∈ entityTails, tail <+: rest

/-- A text and its escaped form, character by character. -/
inductive EscapesTo : Text → Text → Prop
  | nil : EscapesTo [] []
  | ampersand {s t : Text} : EscapesTo s t → EscapesTo ('&' :: s) ("&amp;" ++ t)
  | less {s t : Text} : EscapesTo s t → EscapesTo ('<' :: s) ("&lt;" ++ t)
  | greater {s t : Text} : EscapesTo s t → EscapesTo ('>' :: s) ("&gt;" ++ t)
  | plain {c : Char} {s t : Text} :
    c ≠ '&' → c ≠ '<' → c ≠ '>' → EscapesTo s t → EscapesTo (c :: s) (c :: t)

theorem escapesTo_escapeHtml (t : Text) : EscapesTo t (escapeHtml t) := by
  induction t with
  | nil => exact .nil
  | cons c t ih =>
    rw [escapeHtml, List.flatMap_cons]
    split_ifs with h₁ h₂ h₃
    · subst h₁
      exact .ampersand ih
    · subst h₂
      exact .less ih
    · subst h₃
      exact .greater ih
    · exact .plain h₁ h₂ h₃ ih

theorem unescapeHtml_cons (h : c ≠ '&') (t : Text) :
    unescapeHtml (c :: t) = c :: unescapeHtml t := by
  rw [unescapeHtml] <;> simp [h]

/-- An ampersand that was written for one does not make an entity with what follows it. -/
theorem EscapesTo.unescapeHtml (h : EscapesTo s t) : unescapeHtml t = s := by
  induction h with
  | nil => rfl
  | ampersand _ ih => exact congrArg ('&' :: ·) ih
  | less _ ih => exact congrArg ('<' :: ·) ih
  | greater _ ih => exact congrArg ('>' :: ·) ih
  | plain hc _ _ _ ih => rw [unescapeHtml_cons hc, ih]

theorem escaped_nil : Escaped [] := ⟨by simp, by simp, by simp⟩

theorem Escaped.cons (h : Escaped t) (hand : c ≠ '&') (hless : c ≠ '<') (hgreater : c ≠ '>') :
    Escaped (c :: t) := by
  refine ⟨by simp [h.less, hless.symm], by simp [h.greater, hgreater.symm], fun rest hrest => ?_⟩
  rcases List.suffix_cons_iff.mp hrest with heq | hrest
  · exact absurd (List.cons.inj heq).1.symm hand
  · exact h.entities rest hrest

theorem Escaped.append (h : Escaped t) (hand : '&' ∉ s) (hless : '<' ∉ s) (hgreater : '>' ∉ s) :
    Escaped (s ++ t) := by
  induction s with
  | nil => exact h
  | cons c s ih =>
    simp only [List.mem_cons, not_or] at hand hless hgreater
    exact (ih hand.2 hless.2 hgreater.2).cons (Ne.symm hand.1) (Ne.symm hless.1)
      (Ne.symm hgreater.1)

theorem Escaped.entity {tail : Text} (h : Escaped t) (htail : tail ∈ entityTails) :
    Escaped ('&' :: (tail ++ t)) := by
  obtain ⟨hand, hless, hgreater⟩ : '&' ∉ tail ∧ '<' ∉ tail ∧ '>' ∉ tail := by
    simp only [entityTails, List.mem_cons, List.not_mem_nil, or_false] at htail
    rcases htail with rfl | rfl | rfl <;> decide
  have hrest := h.append hand hless hgreater
  refine ⟨by simpa using hrest.less, by simpa using hrest.greater, fun rest hsuffix => ?_⟩
  rcases List.suffix_cons_iff.mp hsuffix with heq | hsuffix
  · obtain rfl := (List.cons.inj heq).2
    exact ⟨tail, htail, List.prefix_append _ _⟩
  · exact hrest.entities rest hsuffix

theorem EscapesTo.escaped (h : EscapesTo s t) : Escaped t := by
  induction h with
  | nil => exact escaped_nil
  | ampersand _ ih => exact ih.entity (show "amp;".toList ∈ entityTails by decide)
  | less _ ih => exact ih.entity (show "lt;".toList ∈ entityTails by decide)
  | greater _ ih => exact ih.entity (show "gt;".toList ∈ entityTails by decide)
  | plain hand hless hgreater _ ih => exact ih.cons hand hless hgreater

/-- The characters may be replaced one after the other, the ampersand first. -/
theorem escapeHtml_eq_replace (t : Text) :
    escapeHtml t =
      Text.replace '>' "&gt;" (Text.replace '<' "&lt;" (Text.replace '&' "&amp;" t)) := by
  rw [Text.replace, Text.replace, Text.replace, List.flatMap_assoc, List.flatMap_assoc]
  refine List.flatMap_congr fun c _ => ?_
  split_ifs with h₁ h₂ h₃
  · rfl
  · rw [h₂]
    rfl
  · rw [h₃]
    rfl
  · rw [List.flatMap_singleton, if_neg h₂, List.flatMap_singleton, if_neg h₃]

theorem unescapeHtml_escapeHtml (t : Text) : unescapeHtml (escapeHtml t) = t :=
  (escapesTo_escapeHtml t).unescapeHtml

theorem escapeHtml_injective : Function.Injective escapeHtml :=
  Function.LeftInverse.injective unescapeHtml_escapeHtml

end Markdown

namespace Page

open Markdown (Escaped escapeHtml unescapeHtml)

/-- The texts at the top of the page of a type: those of the front matter, the heading and the
signature in its code block. -/
structure Top where
  title : Text
  description : Text
  heading : Text
  signature : Text

def Top.write (style : Style) (top : Top) : Text :=
  Markdown.frontMatter top.title top.description ++
    ("# " ++ top.heading ++
      "\n\n<CodeBlock slots = 'heading, code' repeat = '1' languages = '" ++ style.codeLanguage ++
      "' />\n\n#### " ++ style.wording .signature ++ "\n```\n" ++ top.signature ++ "\n```\n\n")

/-- The code block alone has the name as it is. -/
def topOf (type : Entry) : Top where
  title := escapeHtml type.name
  description := escapeHtml (NameForm.display type.owningType)
  heading := escapeHtml type.name
  signature := type.name

theorem write_topOf (style : Style) (type : Entry) :
    (topOf type).write style = header style type := rfl

theorem write_topOf_prefix (style : Style) (f : Family) (type : Entry) :
    (topOf type).write style <+: (ofType style f type).body := by
  rw [ofType_body, List.append_assoc, write_topOf]
  exact List.prefix_append _ _

/-- Escaped text has no tags, its ampersands are those of entities, and decoding it gives back what
was escaped. On the page of a type both the title of the front matter and the heading decode to the
signature in the code block, so that different signatures have different headings. -/
theorem heading_lossless :
    (∀ t, Escaped (escapeHtml t) ∧ unescapeHtml (escapeHtml t) = t ∧
      escapeHtml t =
        Text.replace '>' "&gt;" (Text.replace '<' "&lt;" (Text.replace '&' "&amp;" t))) ∧
    (∀ style f page, ofFamily? style f = some page →
      ∃ type, f.page? = some type ∧ page.title = (topOf type).signature ∧
        (topOf type).write style <+: page.body ∧
        unescapeHtml (topOf type).title = (topOf type).signature ∧
        unescapeHtml (topOf type).heading = (topOf type).signature) ∧
    ∀ type other : Entry, (topOf type).signature ≠ (topOf other).signature →
      (topOf type).heading ≠ (topOf other).heading := by
  refine ⟨fun t => ?_, fun style f page hpage => ?_, fun type other hne heading => ?_⟩
  · exact ⟨(Markdown.escapesTo_escapeHtml t).escaped, Markdown.unescapeHtml_escapeHtml t,
      Markdown.escapeHtml_eq_replace t⟩
  · obtain ⟨type, htype, rfl⟩ := Option.map_eq_some_iff.mp hpage
    exact ⟨type, htype, rfl, write_topOf_prefix style f type,
      Markdown.unescapeHtml_escapeHtml type.name, Markdown.unescapeHtml_escapeHtml type.name⟩
  · exact hne (Markdown.escapeHtml_injective heading)

/-- A generic type whose name has the text of an entity. -/
theorem exists_heading_lossless : ∃ (f : Family) (type : Entry) (page : Page),
    ofFamily? {} f = some page ∧ page.title = "A&lt;<T>" ∧
      (topOf type).heading = "A&amp;lt;&lt;T&gt;" ∧ (topOf type).write {} <+: page.body ∧
      unescapeHtml (topOf type).heading = page.title := by
  let type : Entry :=
    { id := { kind := .type, path := ["Acme", "A&lt;\x601"], params := none }, summary := []
      params := [], typeParams := [], exceptions := [], returns := [], value := [], remarks := []
      examples := [] }
  let f : Family := { owningType := "Acme.A&lt;\x601", entries := [type] }
  obtain ⟨-, hpages, -⟩ := heading_lossless
  obtain ⟨found, hfound, htitle, hwrite, -, hheading⟩ := hpages {} f _ rfl
  obtain rfl : type = found := Option.some.inj hfound
  exact ⟨f, type, _, rfl, htitle.trans (by decide), by decide, hwrite, hheading.trans htitle.symm⟩

end Page

end RefSite
