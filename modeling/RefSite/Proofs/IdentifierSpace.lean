import RefSite.Proofs.ComposedIdentifier

namespace RefSite

namespace Text

variable {sep stop c : Char} {t u v : Text}

theorem mem_trim_iff (hc : isBlank c = false) : c ∈ trim t ↔ c ∈ t := by
  constructor
  · exact fun h => trim_subset t h
  · exact fun h => mem_rdropWhile (mem_dropWhile h hc) hc

theorem Blank.not_mem (h : Blank t) (hc : isBlank c = false) : c ∉ t := by
  intro hmem
  simp [h c hmem] at hc

/-- White space in front of the text is not part of its last segment, and white space behind it is
part of it only where the segment ends with the text. -/
theorem afterLast_before_pad (hu : Blank u) (hv : Blank v) (hsep : isBlank sep = false)
    (hstop : isBlank stop = false) (h : sep ∈ before stop t) :
    afterLast sep (before stop (u ++ t ++ v)) =
      afterLast sep (before stop t) ++ if stop ∈ t then [] else v := by
  obtain ⟨p, q, hlast, hq⟩ := exists_append_last h
  by_cases hmem : stop ∈ t
  · obtain ⟨x, y, rfl, hx⟩ := List.eq_append_cons_of_mem hmem
    rw [before_append hx] at hlast ⊢
    have hux : stop ∉ u ++ x := List.not_mem_append (hu.not_mem hstop) hx
    have hpad : before stop (u ++ (x ++ stop :: y) ++ v) = u ++ x := by
      simpa using before_append hux (y ++ v)
    have hcut := afterLast_append (u ++ p) hq
    rw [hpad, if_pos hmem, hlast, afterLast_append p hq, List.append_nil]
    simpa using hcut
  · have hpad : stop ∉ u ++ t ++ v :=
      List.not_mem_append (List.not_mem_append (hu.not_mem hstop) hmem) (hv.not_mem hstop)
    rw [before_of_not_mem hmem] at hlast ⊢
    have hcut := afterLast_append (u ++ p) (List.not_mem_append hq (hv.not_mem hsep))
    rw [before_of_not_mem hpad, if_neg hmem, hlast, afterLast_append p hq]
    simpa using hcut

end Text

namespace Identifier

open Text (Blank)

variable {s : Scheme} {b t u v : Text} {id : Identifier}

theorem Scheme.of?_letter (s : Scheme) (t : Text) :
    Kind.of? (s.letter :: ':' :: t) =
      some (s.kindFor (Text.afterLast '.' (Text.before '(' t))) := by
  cases s with
  | method =>
    simp only [Scheme.letter, Kind.of?, Scheme.kindFor, true_and]
    split <;> rfl
  | type | property | field => rfl

/-- What is read behind a scheme: the path and the parameters from the trimmed body, the kind from
the body as it stands. -/
theorem parse?_letter (s : Scheme) (t : Text) :
    parse? (s.letter :: ':' :: t) =
      let path := Text.split '.' (Text.before '(' (Text.trim t))
      if [] ∈ path ∨ path.length < s.fewest then none
      else some
        { kind := s.kindFor (Text.afterLast '.' (Text.before '(' t))
          path
          params := params? (Text.trim t) } := by
  have hlong : 0 < (Text.split '.' (Text.before '(' (Text.trim t))).length :=
    List.length_pos_iff.mpr (Text.split_ne_nil _ _)
  simp only [parse?, Scheme.of?_letter, Option.bind_eq_bind, Option.bind_some, List.drop_succ_cons,
    List.drop_zero, ne_eq, Scheme.kindFor_eq_type]
  generalize Text.split '.' (Text.before '(' (Text.trim t)) = path at hlong ⊢
  have hfew : ¬ s = .type ∧ path.length < 2 ↔ path.length < s.fewest := by
    cases s <;> simp [Scheme.fewest, Nat.pos_iff_ne_zero.mp hlong]
  simp only [hfew, ite_or]

/-- A constructor without parameters, whose last segment ends with the text. -/
def Bare (id : Identifier) : Prop := id.kind = .constructor ∧ id.params = none

instance : DecidablePred Bare := fun id =>
  inferInstanceAs (Decidable (id.kind = .constructor ∧ id.params = none))

theorem params?_trim_eq_none_iff : params? (Text.trim t) = none ↔ '(' ∉ t := by
  rw [params?, Option.map_eq_none_iff, Text.after?_eq_none_iff, Text.mem_trim_iff (by decide)]

theorem Scheme.kindFor_append (s : Scheme) (n : Text) (hv : Blank v) (hne : v ≠ []) :
    s.kindFor (n ++ v) = s.kind := by
  have hctor : n ++ v ≠ "#ctor" := by
    intro he
    have hlast : 'r' ∈ v.getLast? := by
      rw [← List.getLast?_append_of_ne_nil n hne, he]
      rfl
    exact hv.not_mem (by decide) (List.mem_of_getLast? hlast)
  exact if_neg fun h => hctor h.2

theorem Scheme.kind_eq_method (h : s.kindFor t = .constructor) : s.kind = .method := by
  unfold kindFor at h
  split at h
  · rename_i hs
    rw [hs.1]
    rfl
  · cases s <;> cases h

theorem Scheme.kindFor_eq_kind (h : s.kindFor t ≠ .constructor) : s.kindFor t = s.kind := by
  unfold kindFor at h ⊢
  split at h
  · exact absurd rfl h
  · rename_i hs
    rw [if_neg hs]

/-- The kind tells whether white space follows, if there are no parameters between. -/
theorem Scheme.kindFor_pad (s : Scheme) (hu : Blank u) (hv : Blank v)
    (hdot : '.' ∈ Text.before '(' b) :
    s.kindFor (Text.afterLast '.' (Text.before '(' (u ++ b ++ v))) =
      if v ≠ [] ∧ '(' ∉ b then s.kind
      else s.kindFor (Text.afterLast '.' (Text.before '(' b)) := by
  rw [Text.afterLast_before_pad hu hv (by decide) (by decide) hdot]
  by_cases hmem : '(' ∈ b
  · simp [hmem]
  · by_cases hne : v = []
    · simp [hne]
    · simp [hmem, hne, s.kindFor_append _ hv hne]

/-- A path of two segments has a dot, also before it was trimmed. -/
theorem dot_mem_of_length (h : 2 ≤ (Text.split '.' (Text.before '(' (Text.trim b))).length) :
    '.' ∈ Text.before '(' b := by
  obtain ⟨_, _, _, _, hbefore⟩ := Text.exists_before_trim (show Text.isBlank '(' = false by decide) b
  by_contra hdot
  rw [hbefore, List.mem_append, List.mem_append, not_or, not_or] at hdot
  rw [Text.split_of_notMem hdot.2.1] at h
  exact absurd h (by simp)

/-- White space behind a constructor without parameters turns it into a method, and all other white
space around a body changes nothing. -/
theorem parse?_pad (s : Scheme) (b : Text) (hu : Blank u) (hv : Blank v) :
    parse? (s.letter :: ':' :: (u ++ b ++ v)) =
      (parse? (s.letter :: ':' :: b)).map fun id =>
        if v ≠ [] ∧ id.Bare then { id with kind := .method } else id := by
  have htrim : Text.trim (u ++ b ++ v) = Text.trim b := by
    rw [Text.trim_append_right hv, Text.trim_append_left hu]
  simp only [parse?_letter, htrim]
  split_ifs with hbad
  · rfl
  obtain ⟨-, hlong⟩ := not_or.mp hbad
  simp only [Option.map_some, Bare, params?_trim_eq_none_iff]
  by_cases htype : s = .type
  · subst htype
    simp [Scheme.kindFor, Scheme.kind]
  have hdot : '.' ∈ Text.before '(' b := by
    apply dot_mem_of_length
    cases s with
    | type => exact absurd rfl htype
    | method | property | field => exact Nat.le_of_not_lt hlong
  rw [s.kindFor_pad hu hv hdot]
  by_cases hend : v ≠ [] ∧ '(' ∉ b
  · by_cases hctor : s.kindFor (Text.afterLast '.' (Text.before '(' b)) = .constructor
    · simp [hend, hctor, Scheme.kind_eq_method hctor]
    · rw [if_pos hend, if_neg fun h => hctor h.2.1, Scheme.kindFor_eq_kind hctor]
  · have hbare : ¬ (v ≠ [] ∧ s.kindFor (Text.afterLast '.' (Text.before '(' b)) = .constructor ∧
        '(' ∉ b) := fun h => hend ⟨h.1, h.2.2⟩
    rw [if_neg hend, if_neg hbare]

/-- White space around a body does not count, except behind a constructor without parameters. -/
theorem padded_eq_iff (s : Scheme) (b : Text) (hu : Blank u) (hv : Blank v) :
    parse? (s.letter :: ':' :: (u ++ b ++ v)) = parse? (s.letter :: ':' :: b) ↔
      v = [] ∨ ∀ id, parse? (s.letter :: ':' :: b) = some id → ¬ id.Bare := by
  rw [parse?_pad s b hu hv]
  cases hid : parse? (s.letter :: ':' :: b) with
  | none => simp
  | some id =>
    by_cases hend : v ≠ [] ∧ id.Bare
    · have hkind : ({ id with kind := .method } : Identifier) ≠ id := by
        intro he
        have := congrArg Identifier.kind he
        rw [hend.2.1] at this
        cases this
      simp [hend, hkind]
    · refine iff_of_true (by rw [Option.map_some, if_neg hend]) ?_
      rcases not_and_or.mp hend with hne | hbare
      · exact .inl (not_not.mp hne)
      · right
        rintro _ ⟨⟩
        exact hbare

/-- A constructor with parameters, in an ideographic space and a line end. -/
theorem exists_padded_eq : ∃ u v b : Text, u = "\u3000" ∧ v = "\n" ∧ b = "A.#ctor(B)" ∧
    Blank u ∧ Blank v ∧
      (∀ id, parse? ('M' :: ':' :: b) = some id → id.kind = .constructor ∧ ¬ id.Bare) ∧
        parse? ('M' :: ':' :: (u ++ b ++ v)) = parse? ('M' :: ':' :: b) := by
  have hu : Blank "\u3000" := by decide
  have hv : Blank "\n" := by decide
  have hid : ∀ id, parse? "M:A.#ctor(B)" = some id → id.kind = .constructor ∧ ¬ id.Bare := by
    rintro _ ⟨⟩
    decide
  have hbare : ∀ id, parse? "M:A.#ctor(B)" = some id → ¬ id.Bare := fun id h => (hid id h).2
  exact ⟨_, _, _, rfl, rfl, rfl, hu, hv, hid,
    (padded_eq_iff .method "A.#ctor(B)" hu hv).mpr (.inr hbare)⟩

/-- Without parameters it is a method if a space follows, though its last segment is the same. -/
theorem exists_padded_ne : ∃ b v : Text, Blank v ∧
    parse? ('M' :: ':' :: b) =
      some { kind := .constructor, path := ["A".toList, "#ctor"], params := none } ∧
    parse? ('M' :: ':' :: (b ++ v)) =
      some { kind := .method, path := ["A".toList, "#ctor"], params := none } ∧
    parse? ('M' :: ':' :: (b ++ v)) ≠ parse? ('M' :: ':' :: b) :=
  ⟨"A.#ctor", " ", by decide, rfl, rfl, by decide⟩

end Identifier

end RefSite
