import RefSite.Comment
import RefSite.Proofs.Backslash

namespace RefSite.Comment

open Xml (Element)
open Markdown (TicksEscaped escapeTicks)

variable {e : Element} {es : List Element}

/-- The element shows its content, on lines of its own or with marks around it. -/
def Role.showsText : Role → Bool
  | .paragraph | .strong | .emphasis | .plain => true
  | _ => false

inductive PlainText : Element → Prop
  | intro {e : Element} : (∀ child ∈ e.children, (Role.of child.tag).showsText) →
    (∀ child ∈ e.children, PlainText child) → PlainText e

mutual

/-- The content of plain text, with its backticks as they are. -/
def unescaped : Element → Text
  | ⟨_, _, text, children, _⟩ => text ++ unescapedRun children

def unescapedRun : List Element → Text
  | [] => []
  | e :: es => unescapedInline e ++ e.tail ++ unescapedRun es

def unescapedInline : Element → Text
  | ⟨tag, _, text, children, _⟩ =>
    match Role.of tag with
    | .paragraph => "\n" ++ (text ++ unescapedRun children) ++ "\n"
    | .strong => Markdown.emphasize "**" (text ++ unescapedRun children)
    | .emphasis => Markdown.emphasize "*" (text ++ unescapedRun children)
    | _ => text ++ unescapedRun children

end

mutual

/-- Lines and marks have no backticks, so those of the text can be escaped last. -/
theorem PlainText.content_eq : ∀ {e : Element}, PlainText e → content e = escapeTicks (unescaped e)
  | ⟨_, _, text, children, _⟩, .intro hroles hchildren => by
    rw [content, unescaped, Markdown.escapeTicks_append, run_eq hroles hchildren]

theorem run_eq : ∀ {es : List Element}, (∀ e ∈ es, (Role.of e.tag).showsText) →
    (∀ e ∈ es, PlainText e) → run es = escapeTicks (unescapedRun es)
  | [], _, _ => by
    rw [run, unescapedRun]
    rfl
  | e :: es, hroles, h => by
    obtain ⟨hrole, hroles⟩ := List.forall_mem_cons.mp hroles
    obtain ⟨he, hes⟩ := List.forall_mem_cons.mp h
    rw [run, unescapedRun, inline_eq hrole he, run_eq hroles hes, Markdown.escapeTicks_append,
      Markdown.escapeTicks_append]

theorem inline_eq : ∀ {e : Element}, (Role.of e.tag).showsText → PlainText e →
    inline e = escapeTicks (unescapedInline e)
  | ⟨tag, attributes, text, children, _⟩, hrole, .intro hroles hchildren => by
    have hcontent : escapeTicks text ++ run children =
        escapeTicks (text ++ unescapedRun children) := by
      rw [Markdown.escapeTicks_append, run_eq hroles hchildren]
    have hlines (t : Text) : escapeTicks ("\n" ++ t ++ "\n") = "\n" ++ escapeTicks t ++ "\n" := by
      rw [Markdown.escapeTicks_append, Markdown.escapeTicks_append]
      rfl
    rw [inline, unescapedInline]
    dsimp only at hrole
    cases hof : Role.of tag with
    | paragraph => exact hcontent ▸ (hlines _).symm
    | strong => exact hcontent ▸ Markdown.escapeTicks_emphasize (by decide) _
    | emphasis => exact hcontent ▸ Markdown.escapeTicks_emphasize (by decide) _
    | plain => exact hcontent
    | reference | parameterName | code | codeBlock | lineBreak | list =>
      rw [hof] at hrole
      cases hrole

end

/-- In plain text, each backtick that comes out is behind an odd number of backslashes just if each
of the comment was behind an even number. -/
theorem PlainText.lines_escaped_iff (h : PlainText e) :
    (∀ l ∈ lines e, TicksEscaped l) ↔ Text.RunsBefore Even '\\' '\x60' (unescaped e) := by
  rw [lines, h.content_eq]
  exact (Markdown.forall_mem_normalLines _).trans Markdown.ticksEscaped_escapeTicks_iff

/-- Two backslashes before a backtick in bold, and one before the bold text. -/
theorem exists_lines_escaped :
    ∃ e : Element, PlainText e ∧ Text.RunsBefore Even '\\' '\x60' (unescaped e) ∧
      (∀ l ∈ lines e, TicksEscaped l) ∧ lines e = ["C:\\**\\\\\\`a\\`**"] := by
  let bold : Element := { tag := "b", text := "\\\\`a`" }
  let e : Element := { tag := "summary", text := "C:\\", children := [bold] }
  have hplain : PlainText e := by
    have hbold : PlainText bold := .intro (List.forall_mem_nil _) (List.forall_mem_nil _)
    exact .intro (List.forall_mem_singleton.mpr (by decide)) (List.forall_mem_singleton.mpr hbold)
  have hunescaped : unescaped e = "C:\\**\\\\`a`**" := rfl
  have heven : Text.RunsBefore Even '\\' '\x60' (unescaped e) := by
    rw [hunescaped, Text.runsBefore_iff (by decide)]
    decide
  have hlines : lines e = ["C:\\**\\\\\\`a\\`**".toList] := by
    rw [lines, hplain.content_eq, hunescaped]
    decide
  exact ⟨e, hplain, heven, hplain.lines_escaped_iff.mpr heven, hlines⟩

/-- A backslash of the text and the one that is written make a pair, so the backtick is bare. -/
theorem exists_line_not_escaped :
    ∃ e : Element, PlainText e ∧ e.text = "\\`" ∧ lines e = ["\\\\`"] ∧
      ∃ l ∈ lines e, ¬ TicksEscaped l := by
  let e : Element := { tag := "summary", text := "\\`" }
  have hplain : PlainText e := .intro (List.forall_mem_nil _) (List.forall_mem_nil _)
  have hlines : lines e = ["\\\\`".toList] := by
    have hunescaped : unescaped e = "\\`" := rfl
    rw [lines, hplain.content_eq, hunescaped]
    decide
  refine ⟨e, hplain, rfl, hlines, _, hlines ▸ List.mem_cons_self, by decide⟩

end RefSite.Comment
