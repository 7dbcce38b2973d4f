import RefSite.NameForm
import RefSite.Proofs.Text.Split

namespace RefSite.NameForm

/-- A character of a raw name, or the mark of a single type parameter. -/
inductive Piece
  | mark
  | char (c : Char)
  deriving DecidableEq

/-- A mark is one where a word can end behind it. -/
def pieces : Text → List Piece
  | [] => []
  | '\x60' :: '\x60' :: '1' :: t =>
    if atWordEnd t then .mark :: pieces t else .char '\x60' :: pieces ('\x60' :: '1' :: t)
  | '\x60' :: '1' :: t =>
    if atWordEnd t then .mark :: pieces t else .char '\x60' :: pieces ('1' :: t)
  | c :: t => .char c :: pieces t

/-- The escaped form of a name of the given pieces. -/
def write : List Piece → Text
  | [] => []
  | .mark :: ps => '_' :: 'T' :: write ps
  | .char c :: ps => c :: write ps

variable {s t a b : Text} {ps qs : List Piece}

/-- The form that writes `text` for each mark. -/
def writeWith (text : Text) : List Piece → Text
  | [] => []
  | .mark :: ps => text ++ writeWith text ps
  | .char c :: ps => c :: writeWith text ps

theorem replaceArity_eq (text t : Text) : replaceArity text t = writeWith text (pieces t) := by
  induction t using replaceArity.induct with
  | case1 => rfl
  | case2 t ht ih => rw [replaceArity, if_pos ht, pieces, if_pos ht, writeWith, ih]
  | case3 t ht ih => rw [replaceArity, if_neg ht, pieces, if_neg ht, writeWith, ih]
  | case4 t ht ih => rw [replaceArity, if_pos ht, pieces, if_pos ht, writeWith, ih]
  | case5 t ht ih => rw [replaceArity, if_neg ht, pieces, if_neg ht, writeWith, ih]
  | case6 c t h₁ h₂ ih => rw [replaceArity.eq_4 _ _ _ h₁ h₂, pieces.eq_4 _ _ h₁ h₂, writeWith, ih]

theorem write_eq (ps : List Piece) : write ps = writeWith "_T" ps := by
  induction ps with
  | nil => rfl
  | cons p ps ih =>
    cases p with
    | mark =>
      rw [write, writeWith, ih]
      rfl
    | char c => rw [write, writeWith, ih]

theorem escaped_eq (t : Text) : escaped t = write (pieces t) := by
  rw [escaped, replaceArity_eq, write_eq]

theorem display_eq (t : Text) : display t = writeWith "<T>" (pieces t) := replaceArity_eq _ t

theorem writeWith_append (text : Text) (ps qs : List Piece) :
    writeWith text (ps ++ qs) = writeWith text ps ++ writeWith text qs := by
  induction ps with
  | nil => rfl
  | cons p ps ih => cases p <;> simp [writeWith, ih]

theorem writeWith_of_not_mem (h : .mark ∉ ps) (text text' : Text) :
    writeWith text ps = writeWith text' ps := by
  induction ps with
  | nil => rfl
  | cons p ps ih =>
    cases p with
    | mark => simp at h
    | char c => rw [writeWith, writeWith, ih (List.not_mem_of_not_mem_cons h)]

theorem escaped_of_not_mem (h : .mark ∉ pieces t) : escaped t = t := by
  rw [escaped_eq]
  induction t using pieces.induct with
  | case1 => rfl
  | case2 t ht => simp [pieces, ht] at h
  | case3 t ht ih => simp_all [pieces, write]
  | case4 t ht => simp [pieces, ht] at h
  | case5 t ht ih => simp_all [pieces, write]
  | case6 c t h₁ h₂ ih =>
    rw [pieces.eq_4 _ _ h₁ h₂] at h ⊢
    rw [write, ih (List.not_mem_of_not_mem_cons h)]

theorem mem_write_of_mark (h : .mark ∈ ps) : 'T' ∈ write ps := by
  induction ps with
  | nil => cases h
  | cons p ps ih =>
    cases p with
    | mark => simp [write]
    | char c => exact List.mem_cons_of_mem c (ih (by simpa using h))

/-- Pieces that agree but for marks that the one has where the other has the text of the mark. -/
inductive Agree : List Piece → List Piece → Prop
  | nil : Agree [] []
  | cons {p : Piece} {ps qs : List Piece} : Agree ps qs → Agree (p :: ps) (p :: qs)
  | left {ps qs : List Piece} : Agree ps qs → Agree (.mark :: ps) (.char '_' :: .char 'T' :: qs)
  | right {ps qs : List Piece} : Agree ps qs → Agree (.char '_' :: .char 'T' :: ps) (.mark :: qs)

theorem Agree.write_eq (h : Agree ps qs) : write ps = write qs := by
  induction h with
  | nil => rfl
  | @cons p _ _ _ ih => cases p <;> simp [write, ih]
  | left _ ih => simp [write, ih]
  | right _ ih => simp [write, ih]

/-- The letter of a mark cannot begin another mark. -/
theorem exists_of_write_letter {s : Text} (h : write ps = 'T' :: s) :
    ∃ ps', ps = .char 'T' :: ps' ∧ write ps' = s := by
  cases ps with
  | nil => cases h
  | cons p ps =>
    cases p with
    | mark => simp [write] at h
    | char c =>
      obtain ⟨rfl, hs⟩ := List.cons.inj h
      exact ⟨ps, rfl, hs⟩

theorem agree_of_write : ∀ {ps qs : List Piece}, write ps = write qs → Agree ps qs
  | [], [], _ => .nil
  | [], .mark :: qs, h => nomatch h
  | [], .char c :: qs, h => nomatch h
  | .mark :: ps, [], h => nomatch h
  | .char c :: ps, [], h => nomatch h
  | .mark :: ps, .mark :: qs, h => .cons (agree_of_write (by simpa [write] using h))
  | .char c :: ps, .char d :: qs, h => by
    obtain ⟨rfl, ht⟩ := List.cons.inj h
    exact .cons (agree_of_write ht)
  | .mark :: ps, .char c :: qs, h => by
    obtain ⟨rfl, ht⟩ := List.cons.inj h
    obtain ⟨qs', rfl, hq⟩ := exists_of_write_letter ht.symm
    exact .left (agree_of_write hq.symm)
  | .char c :: ps, .mark :: qs, h => by
    obtain ⟨rfl, ht⟩ := List.cons.inj h
    obtain ⟨ps', rfl, hp⟩ := exists_of_write_letter ht
    exact .right (agree_of_write hp)
termination_by ps => ps.length

/-- Two raw names have one escaped form where they agree but for how a mark is written. -/
theorem escaped_eq_iff : escaped a = escaped b ↔ Agree (pieces a) (pieces b) := by
  rw [escaped_eq, escaped_eq]
  exact ⟨agree_of_write, Agree.write_eq⟩

theorem sameDots_replaceArity {mark : Text} (nonempty : mark ≠ []) (plain : '.' ∉ mark) (t : Text) :
    Text.SameDots (replaceArity mark t) t := by
  induction t using replaceArity.induct with
  | case1 => exact .nil
  | case2 t ht ih =>
    rw [replaceArity, if_pos ht]
    exact .piece (w := ['\x60', '\x60', '1']) nonempty (by simp) plain (by decide) ih
  | case3 t ht ih =>
    rw [replaceArity, if_neg ht]
    exact .piece (v := ['\x60']) (w := ['\x60']) (by simp) (by simp) (by decide) (by decide) ih
  | case4 t ht ih =>
    rw [replaceArity, if_pos ht]
    exact .piece (w := ['\x60', '1']) nonempty (by simp) plain (by decide) ih
  | case5 t ht ih =>
    rw [replaceArity, if_neg ht]
    exact .piece (v := ['\x60']) (w := ['\x60']) (by simp) (by simp) (by decide) (by decide) ih
  | case6 c t h₁ h₂ ih =>
    rw [replaceArity.eq_4 _ _ _ h₁ h₂]
    by_cases hc : c = '.'
    · subst hc
      exact .dot ih
    · exact .piece (v := [c]) (w := [c]) (by simp) (by simp) (by simpa using Ne.symm hc)
        (by simpa using Ne.symm hc) ih

theorem sameDots_escaped (t : Text) : Text.SameDots (escaped t) t :=
  sameDots_replaceArity (by decide) (by decide) t

/-- Only characters of marks come and go. -/
theorem mem_replaceArity_iff {c : Char} {mark : Text} (hmark : c ∉ mark) (htick : c ≠ '\x60')
    (hone : c ≠ '1') : c ∈ replaceArity mark t ↔ c ∈ t := by
  induction t using replaceArity.induct with
  | case1 => rfl
  | case2 t ht ih => simp [replaceArity, ht, ih, hmark, htick, hone]
  | case3 t ht ih =>
    rw [replaceArity, if_neg ht, List.mem_cons, ih]
    simp [htick]
  | case4 t ht ih => simp [replaceArity, ht, ih, hmark, htick, hone]
  | case5 t ht ih =>
    rw [replaceArity, if_neg ht, List.mem_cons, ih]
    simp [htick]
  | case6 b t h₁ h₂ ih => rw [replaceArity.eq_4 _ _ _ h₁ h₂, List.mem_cons, ih, List.mem_cons]

theorem replaceArity_of_not_mem (mark : Text) (h : '\x60' ∉ t) : replaceArity mark t = t := by
  induction t with
  | nil => rfl
  | cons c t ih =>
    obtain ⟨hc, ht⟩ : '\x60' ≠ c ∧ '\x60' ∉ t := by simpa using h
    rw [replaceArity, ih ht]
    · rintro t rfl
      exact absurd rfl hc
    · rintro t rfl
      exact absurd rfl hc

theorem displayOfEscaped_cons {c : Char} (h : '.' ∉ t) (hlast : c = '_' → t ≠ ['T']) :
    displayOfEscaped (c :: t) = c :: displayOfEscaped t := by
  rw [displayOfEscaped.eq_4]
  · rintro r rfl rfl
    simp at h
  · intro hc ht
    exact hlast hc ht

/-- Only the end of a segment can be taken for a mark. -/
theorem displayOfEscaped_append (dotless : '.' ∉ s ++ t) (long : 2 ≤ t.length) :
    displayOfEscaped (s ++ t) = s ++ displayOfEscaped t := by
  induction s with
  | nil => rfl
  | cons c s ih =>
    have hrest : '.' ∉ s ++ t := List.not_mem_of_not_mem_cons dotless
    rw [List.cons_append, displayOfEscaped_cons hrest, ih hrest, List.cons_append]
    intro _ he
    have hlen := congrArg List.length he
    rw [List.length_append, List.length_singleton] at hlen
    omega

theorem displayOfEscaped_eq_self_iff (dotless : '.' ∉ t) :
    displayOfEscaped t = t ↔ ¬ ['_', 'T'] <:+ t := by
  constructor
  · rintro h ⟨s, rfl⟩
    rw [displayOfEscaped_append dotless (by simp)] at h
    exact absurd (List.append_cancel_left h) (by decide)
  · intro h
    induction t with
    | nil => rfl
    | cons c t ih =>
      have ht : '.' ∉ t := List.not_mem_of_not_mem_cons dotless
      rw [displayOfEscaped_cons ht, ih ht]
      · exact fun hsuffix => h (hsuffix.trans (List.suffix_cons c t))
      · rintro rfl rfl
        exact h List.suffix_rfl

/-- The escaped form tells the display form: the only mark is at the end, or there is none and the
name does not end in the text of one. -/
def Recoverable (t : Text) : Prop :=
  (.mark ∉ pieces t ∧ ¬ ['_', 'T'] <:+ t) ∨ ∃ ps, .mark ∉ ps ∧ pieces t = ps ++ [.mark]

theorem displayOfEscaped_escaped_of_mark (dotless : '.' ∉ t) (hmark : .mark ∈ pieces t) :
    displayOfEscaped (escaped t) = display t ↔
      ∃ ps, .mark ∉ ps ∧ pieces t = ps ++ [.mark] := by
  obtain ⟨ps, qs, hpieces, hps⟩ := List.eq_append_cons_of_mem hmark
  have hwrite : escaped t = writeWith "_T" ps ++ '_' :: 'T' :: writeWith "_T" qs := by
    rw [escaped_eq, write_eq, hpieces, writeWith_append]
    rfl
  have hshow : display t = writeWith "_T" ps ++ '<' :: 'T' :: '>' :: writeWith "<T>" qs := by
    rw [display_eq, hpieces, writeWith_append, writeWith_of_not_mem hps "<T>" "_T"]
    rfl
  have hdots : '.' ∉ escaped t := (sameDots_escaped t).not_mem dotless
  rw [hwrite] at hdots
  rw [hwrite, hshow, displayOfEscaped_append hdots (by simp), List.append_cancel_left_eq]
  constructor
  · intro h
    cases qs with
    | nil => exact ⟨ps, hps, hpieces⟩
    | cons q qs =>
      -- with more behind the first mark, its underscore stays
      have hq : writeWith "_T" (q :: qs) ≠ [] := by cases q <;> simp [writeWith]
      rw [displayOfEscaped_cons] at h
      · cases h
      · intro hdot
        exact hdots (List.mem_append_right _ (List.mem_cons_of_mem _ hdot))
      · rintro - he
        exact hq (List.cons.inj he).2
  · rintro ⟨ps', hps', he⟩
    have hlast : qs = [] := by
      by_contra hqs
      obtain ⟨qs', q, rfl⟩ := List.eq_nil_or_concat qs |>.resolve_left hqs
      rw [hpieces, List.concat_eq_append, ← List.cons_append, ← List.append_assoc] at he
      have hinit := List.append_inj_left' he rfl
      exact hps' (hinit ▸ List.mem_append_right _ List.mem_cons_self)
    rw [hlast]
    rfl

/-- Which names of a single segment come back from their escaped form. -/
theorem displayOfEscaped_escaped_iff (dotless : '.' ∉ t) :
    displayOfEscaped (escaped t) = display t ↔ Recoverable t := by
  by_cases hmark : .mark ∈ pieces t
  · rw [displayOfEscaped_escaped_of_mark dotless hmark]
    simp [Recoverable, hmark]
  · have hesc := escaped_of_not_mem hmark
    have hdisp : display t = escaped t := by
      rw [display_eq, escaped_eq, write_eq, writeWith_of_not_mem hmark]
    rw [hdisp, hesc, displayOfEscaped_eq_self_iff dotless, Recoverable]
    constructor
    · exact fun h => .inl ⟨hmark, h⟩
    · rintro (⟨-, h⟩ | ⟨ps, -, he⟩)
      · exact h
      · exact absurd (he ▸ List.mem_append_right ps List.mem_cons_self) hmark

/-- What begins a name before a separator, unless it is the separator, begins the name. -/
theorem exists_cons_of_append_sep {c sep : Char} {r : Text} (hc : c ≠ sep)
    (h : s ++ sep :: t = c :: r) : ∃ s', s = c :: s' ∧ s' ++ sep :: t = r := by
  cases s with
  | nil => exact absurd (List.cons.inj h).1.symm hc
  | cons d s =>
    obtain ⟨rfl, hr⟩ := List.cons.inj h
    exact ⟨s, rfl, hr⟩

/-- What is not part of a word ends a name before it, and no mark reaches over it. -/
theorem pieces_append_sep {sep : Char} (hword : Text.isWord sep = false) (htick : '\x60' ≠ sep)
    (s t : Text) : pieces (s ++ sep :: t) = pieces s ++ .char sep :: pieces t := by
  have hone : '1' ≠ sep := by
    rintro rfl
    exact absurd hword (by decide +kernel)
  have hend : ∀ r, atWordEnd (r ++ sep :: t) = atWordEnd r := by
    intro r
    cases r with
    | nil => simp [atWordEnd, hword]
    | cons c r => rfl
  induction s using pieces.induct with
  | case1 =>
    rw [List.nil_append, pieces.eq_4]
    · rfl
    · exact fun _ hc => absurd hc.symm htick
    · exact fun _ hc => absurd hc.symm htick
  | case2 s hs ih =>
    simp only [List.cons_append]
    rw [pieces, hend, if_pos hs, pieces, if_pos hs, ih, List.cons_append]
  | case3 s hs ih =>
    simp only [List.cons_append] at ih ⊢
    rw [pieces, hend, if_neg hs, pieces, if_neg hs, ih, List.cons_append]
  | case4 s hs ih =>
    simp only [List.cons_append]
    rw [pieces, hend, if_pos hs, pieces, if_pos hs, ih, List.cons_append]
  | case5 s hs ih =>
    simp only [List.cons_append] at ih ⊢
    rw [pieces, hend, if_neg hs, pieces, if_neg hs, ih, List.cons_append]
  | case6 c s h₁ h₂ ih =>
    rw [List.cons_append, pieces.eq_4 _ _ h₁ h₂, List.cons_append, ← ih, pieces.eq_4]
    · intro r hc hr
      obtain ⟨s₁, hs₁, hr₁⟩ := exists_cons_of_append_sep htick hr
      obtain ⟨s₂, hs₂, -⟩ := exists_cons_of_append_sep hone hr₁
      exact h₁ s₂ hc (hs₁.trans (congrArg _ hs₂))
    · intro r hc hr
      obtain ⟨s₁, hs₁, -⟩ := exists_cons_of_append_sep hone hr
      exact h₂ s₁ hc hs₁

theorem replaceArity_append_sep {sep : Char} (hword : Text.isWord sep = false)
    (htick : '\x60' ≠ sep) (text s t : Text) :
    replaceArity text (s ++ sep :: t) = replaceArity text s ++ sep :: replaceArity text t := by
  rw [replaceArity_eq, replaceArity_eq, replaceArity_eq, pieces_append_sep hword htick,
    writeWith_append]
  rfl

theorem isWord_dot : Text.isWord '.' = false := by decide +kernel

theorem pieces_append_dot (s t : Text) :
    pieces (s ++ '.' :: t) = pieces s ++ .char '.' :: pieces t :=
  pieces_append_sep isWord_dot (by decide) s t

theorem replaceArity_append_dot (text s t : Text) :
    replaceArity text (s ++ '.' :: t) = replaceArity text s ++ '.' :: replaceArity text t :=
  replaceArity_append_sep isWord_dot (by decide) text s t

end RefSite.NameForm
