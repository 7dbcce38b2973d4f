import RefSite.Proofs.Backslash
import RefSite.Proofs.Identifier
import RefSite.Proofs.NameForm

namespace RefSite

open Text (RunsBefore RunsBehind runsBehind_append runsBehind_append_cons)

variable {p : Nat → Prop} {n : Nat} {c : Char} {u s t cref label target : Text} {ns : List Text}
  {id : Identifier}

namespace Markdown

theorem runsBehind_cons_of_ne (hslash : c ≠ '\\') (htick : c ≠ '\x60') (n : Nat) (t : Text) :
    RunsBehind p '\\' '\x60' n (c :: t) ↔ RunsBehind p '\\' '\x60' 0 t :=
  runsBehind_append (List.cons_ne_nil c []) (by simpa using Ne.symm hslash)
    (by simpa using Ne.symm htick) n t

theorem runsBehind_escapeHtml (n : Nat) (t : Text) :
    RunsBehind p '\\' '\x60' n (escapeHtml t) ↔ RunsBehind p '\\' '\x60' n t := by
  induction t generalizing n with
  | nil => exact Iff.rfl
  | cons c t ih =>
    have hentity (u : Text) (hu : u ≠ [] ∧ '\\' ∉ u ∧ '\x60' ∉ u) (hc : c ≠ '\\' ∧ c ≠ '\x60') :
        RunsBehind p '\\' '\x60' n (u ++ escapeHtml t) ↔ RunsBehind p '\\' '\x60' n (c :: t) := by
      rw [runsBehind_append hu.1 hu.2.1 hu.2.2, runsBehind_cons_of_ne hc.1 hc.2, ih]
    rw [escapeHtml, List.flatMap_cons, ← escapeHtml]
    split_ifs with hand hless hgreater
    · exact hentity "&amp;" (by decide) (by simp [hand])
    · exact hentity "&lt;" (by decide) (by simp [hless])
    · exact hentity "&gt;" (by decide) (by simp [hgreater])
    · rw [List.singleton_append, RunsBehind, RunsBehind, ih, ih]

theorem runsBehind_link (label folder : Text) :
    RunsBehind p '\\' '\x60' 0 (link label ("../" ++ folder ++ "/")) ↔
      RunsBehind p '\\' '\x60' 0 label ∧ RunsBehind p '\\' '\x60' 0 folder := by
  have hform : link label ("../" ++ folder ++ "/") =
      '[' :: (label ++ ']' :: (['(', '.', '.', '/'] ++ (folder ++ '/' :: [')']))) := by
    simp [link]
  have hend : RunsBehind p '\\' '\x60' 0 [')'] := Text.runsBehind_of_not_mem (by decide) 0
  rw [hform, runsBehind_cons_of_ne (by decide) (by decide),
    runsBehind_append_cons (by decide) (by decide),
    runsBehind_append (by decide) (by decide) (by decide),
    runsBehind_append_cons (by decide) (by decide), and_iff_left hend]

end Markdown

namespace NameForm

/-- The pieces of a name in which each backtick stands behind an odd number of backslashes, but for
those of arity marks. -/
def TicksEscaped (ps : List Piece) : Prop := RunsBefore Odd (.char '\\') (.char '\x60') ps

theorem ticksEscaped_iff {ps : List Piece} :
    TicksEscaped ps ↔ RunsBehind Odd (.char '\\') (.char '\x60') 0 ps :=
  Text.runsBefore_iff (by decide)

instance : DecidablePred TicksEscaped := fun _ => decidable_of_iff' _ ticksEscaped_iff

/-- The text of a mark neither has a backtick nor stands behind backslashes as one. -/
theorem runsBehind_writeWith {mark : Text} (hmark : mark ≠ []) (hslash : '\\' ∉ mark)
    (htick : '\x60' ∉ mark) (n : Nat) (ps : List Piece) :
    RunsBehind p '\\' '\x60' n (writeWith mark ps) ↔
      RunsBehind p (.char '\\') (.char '\x60') n ps := by
  induction ps generalizing n with
  | nil => exact Iff.rfl
  | cons a ps ih =>
    cases a with
    | mark => simp [writeWith, runsBehind_append hmark hslash htick, ih, RunsBehind]
    | char c => simp only [writeWith, RunsBehind, ih, Piece.char.injEq]

theorem ticksEscaped_display_iff : Markdown.TicksEscaped (display t) ↔ TicksEscaped (pieces t) := by
  rw [Markdown.ticksEscaped_iff, ticksEscaped_iff, display_eq]
  exact runsBehind_writeWith (by decide) (by decide) (by decide) 0 _

theorem ticksEscaped_escaped_iff : Markdown.TicksEscaped (escaped t) ↔ TicksEscaped (pieces t) := by
  rw [Markdown.ticksEscaped_iff, ticksEscaped_iff, escaped_eq, write_eq]
  exact runsBehind_writeWith (by decide) (by decide) (by decide) 0 _

theorem ticksEscaped_append_dot :
    TicksEscaped (pieces (s ++ '.' :: t)) ↔ TicksEscaped (pieces s) ∧ TicksEscaped (pieces t) := by
  simp only [ticksEscaped_iff]
  rw [pieces_append_dot, runsBehind_append_cons (by decide) (by decide)]

end NameForm

namespace Identifier

open NameForm (pieces TicksEscaped)

theorem ticksEscaped_dotted :
    TicksEscaped (pieces (dotted ns)) ↔ ∀ s ∈ ns, TicksEscaped (pieces s) := by
  induction ns with
  | nil => exact iff_of_true (by decide) (List.forall_mem_nil _)
  | cons s ns ih =>
    by_cases hns : ns = []
    · subst hns
      simp [dotted, Text.join]
    · rw [dotted_cons s hns, NameForm.ticksEscaped_append_dot, ih, List.forall_mem_cons]

theorem label_of_member (htype : id.kind ≠ .type) (hctor : id.kind ≠ .constructor) :
    id.label = dotted [id.typeName, id.segment] := by
  unfold label
  split
  · contradiction
  · contradiction
  · rfl

/-- Behind a type's name without bare backticks, those of the label are those of the segment. The
segment of a constructor is not in its label, and has none. -/
theorem ticksEscaped_label_iff (h : parse? cref = some id) (hk : id.kind ≠ .type)
    (htype : TicksEscaped (pieces id.typeName)) :
    TicksEscaped (pieces id.label) ↔ TicksEscaped (pieces id.segment) := by
  by_cases hctor : id.kind = .constructor
  · have hlabel : id.label = id.typeName := by simp [label, hctor]
    have hbare : TicksEscaped (pieces "#ctor") := by decide
    rw [hlabel, segment_of_constructor h hctor]
    exact iff_of_true htype hbare
  · rw [label_of_member hk hctor, ticksEscaped_dotted]
    simp [htype]

/-- The two names in a link have the backticks of the path. -/
theorem ticksEscaped_names_iff (h : parse? cref = some id) :
    TicksEscaped (pieces id.label) ∧ TicksEscaped (pieces id.owningType) ↔
      TicksEscaped (pieces (dotted id.path)) := by
  have hvalid := valid_of_parse? h
  have htype (howner : ∀ s ∈ id.owner, TicksEscaped (pieces s)) :
      TicksEscaped (pieces id.typeName) := howner _ hvalid.typeName_mem
  rw [owningType, ticksEscaped_dotted, ticksEscaped_dotted]
  by_cases hk : id.kind = .type
  · have hlabel : id.label = id.typeName := by simp [label, hk]
    have howner : id.owner = id.path := by rw [owner_eq_ite, if_pos hk]
    rw [hlabel, and_iff_right_of_imp htype, howner]
  · have hpath : id.path = id.owner ++ [id.segment] := by
      rw [owner_eq_ite, if_neg hk, ← path_eq hvalid.nonempty]
    rw [hpath, List.forall_mem_append, List.forall_mem_singleton, and_comm]
    exact and_congr_right fun howner => ticksEscaped_label_iff h hk (htype howner)

end Identifier

open NameForm (pieces)

/-- A link to a member shows its name and leads to the folder of its type. No backtick of it can
begin a code span just if each backtick of the path belongs to an arity mark of a single parameter
or stands behind an odd number of backslashes. -/
theorem memberLink_escaped_iff (h : Identifier.parse? cref = some id) :
    memberLink cref = Markdown.link (Markdown.escapeHtml (NameForm.display id.label))
        ("../" ++ id.pageId ++ "/") ∧
      (Markdown.TicksEscaped (memberLink cref) ↔
        NameForm.TicksEscaped (pieces (Identifier.dotted id.path))) := by
  have hlink : memberLink cref = Markdown.link (Markdown.escapeHtml (NameForm.display id.label))
      ("../" ++ id.pageId ++ "/") := by
    rw [memberLink, h]
    rfl
  refine ⟨hlink, ?_⟩
  rw [hlink, Markdown.ticksEscaped_iff, Markdown.runsBehind_link, Markdown.runsBehind_escapeHtml,
    ← Markdown.ticksEscaped_iff, ← Markdown.ticksEscaped_iff, Identifier.pageId,
    NameForm.ticksEscaped_display_iff, NameForm.ticksEscaped_escaped_iff]
  exact Identifier.ticksEscaped_names_iff h

/-- A generic method of a generic type. -/
theorem exists_memberLink_escaped : ∃ (cref : Text) (id : Identifier),
    Identifier.parse? cref = some id ∧ id.path = ["Acme".toList, "List`1", "Map``1"] ∧
      memberLink cref = "[List&lt;T&gt;.Map&lt;T&gt;](../Acme.List_T/)" ∧
        Markdown.TicksEscaped (memberLink cref) := by
  obtain ⟨id, hparse, hpath⟩ : ∃ id,
      Identifier.parse? "M:Acme.List`1.Map``1(System.Int32)" = some id ∧
        id.path = ["Acme".toList, "List`1", "Map``1"] := ⟨_, rfl, rfl⟩
  have hlink : memberLink "M:Acme.List`1.Map``1(System.Int32)" =
      "[List&lt;T&gt;.Map&lt;T&gt;](../Acme.List_T/)" := by decide +kernel
  have hbare : NameForm.TicksEscaped (pieces (Identifier.dotted id.path)) := by
    rw [hpath]
    decide +kernel
  exact ⟨_, id, hparse, hpath, hlink, (memberLink_escaped_iff hparse).2.mpr hbare⟩

/-- A type of two parameters keeps its mark, once in the label and once in the target. -/
theorem exists_memberLink_not_escaped : ∃ (cref : Text) (id : Identifier),
    Identifier.parse? cref = some id ∧ memberLink cref = "[Map`2](../Acme.Map`2/)" ∧
      ¬ Markdown.TicksEscaped (memberLink cref) := by
  have hlink : memberLink "T:Acme.Map`2" = "[Map`2](../Acme.Map`2/)" := by decide +kernel
  refine ⟨"T:Acme.Map`2", _, rfl, hlink, ?_⟩
  rw [hlink]
  decide

end RefSite
