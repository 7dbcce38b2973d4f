import RefSite.Proofs.Text.Numeral
import RefSite.Proofs.Xml.Written

namespace RefSite.Xml

variable {base n : Nat} {c : Char} {t name : Text}

theorem Numeral.numeral? (h : Numeral base t n) : t ≠ [] ∧ Text.numeral? base t = some n := by
  induction h with
  | digit hc => simp [Text.numeral?, hc]
  | snoc _ hc ih =>
    refine ⟨by simp, ?_⟩
    rw [Text.numeral?_eq_foldlM ih.1] at ih
    rw [Text.numeral?_eq_foldlM (by simp), List.foldlM_append, ih.2]
    simp [hc]

theorem Numeral.digit_of_mem (h : Numeral base t n) :
    ∀ c ∈ t, ∃ d, Text.digit? base c = some d := by
  induction h with
  | digit hc =>
    intro c hm
    obtain rfl := List.mem_singleton.mp hm
    exact ⟨_, hc⟩
  | snoc _ hc ih =>
    intro c hm
    rcases List.mem_append.mp hm with hm | hm
    · exact ih c hm
    · obtain rfl := List.mem_singleton.mp hm
      exact ⟨_, hc⟩

theorem Numeral.head (h : Numeral base t n) :
    ∃ c rest d, t = c :: rest ∧ Text.digit? base c = some d := by
  cases t with
  | nil => exact absurd rfl h.numeral?.1
  | cons c rest =>
    obtain ⟨d, hd⟩ := h.digit_of_mem c List.mem_cons_self
    exact ⟨c, rest, d, rfl, hd⟩

theorem Numeral.dropPlus (h : Numeral base t n) : dropPlus t = t := by
  obtain ⟨c, rest, d, rfl, hd⟩ := h.head
  have hc : c ≠ '+' := by
    rintro rfl
    simp [Text.digit?] at hd
  unfold Xml.dropPlus
  split
  · simp_all
  · rfl

theorem Numeral.head_ten (h : Numeral 10 t n) :
    ∃ c rest, t = c :: rest ∧ c ≠ 'x' ∧ c ≠ 'X' := by
  obtain ⟨c, rest, d, rfl, hd⟩ := h.head
  refine ⟨c, rest, rfl, ?_, ?_⟩
  · rintro rfl
    simp [Text.digit?] at hd
    omega
  · rintro rfl
    simp [Text.digit?] at hd
    omega

theorem Numeral.character (h : Numeral base t c.toNat) :
    (Text.numeral? base t >>= Text.character?) = some c := by
  rw [h.numeral?.2]
  exact Text.character?_toNat c

theorem Names.mem (h : Names name c) : ∀ d ∈ name, d.isAlphanum = true ∨ d = '#' := by
  have digits {base n : Nat} {t : Text} (ht : Numeral base t n) :
      ∀ d ∈ t, d.isAlphanum = true ∨ d = '#' := by
    intro d hd
    obtain ⟨v, hv⟩ := ht.digit_of_mem d hd
    exact .inl (Text.isAlphanum_of_digit? hv)
  have letters {t : Text} (ht : t.all Char.isAlphanum = true) :
      ∀ d ∈ t, d.isAlphanum = true ∨ d = '#' :=
    fun d hd => .inl (List.all_eq_true.mp ht d hd)
  cases h with
  | decimal ht =>
    intro d hd
    rcases List.mem_cons.mp hd with rfl | hd
    · exact .inr rfl
    · exact digits ht d hd
  | hexadecimal ht =>
    intro d hd
    rcases List.mem_cons.mp hd with rfl | hd
    · exact .inr rfl
    rcases List.mem_cons.mp hd with rfl | hd
    · exact .inl (by decide)
    · exact digits ht d hd
  | _ => exact letters (by decide)

theorem Names.not_mem (h : Names name c) {d : Char} (hd : d.isAlphanum = false) (hn : d ≠ '#') :
    d ∉ name := by
  intro hm
  rcases h.mem d hm with ha | ha
  · exact absurd ha (by simp [hd])
  · exact hn ha

theorem Names.isReferenceCharacter (h : Names name c) :
    ∀ d ∈ name, isReferenceCharacter d = true := by
  intro d hd
  have semicolon := h.not_mem (d := ';') (by decide) (by decide)
  have ampersand := h.not_mem (d := '&') (by decide) (by decide)
  have bracket := h.not_mem (d := '<') (by decide) (by decide)
  simp only [Xml.isReferenceCharacter, Bool.and_eq_true, decide_eq_true_eq]
  exact ⟨⟨fun he => semicolon (he ▸ hd), fun he => ampersand (he ▸ hd)⟩,
    fun he => bracket (he ▸ hd)⟩

theorem namedCharacter?_numbered (t : Text) : namedCharacter? ('#' :: t) = none := by
  simp [namedCharacter?]

theorem Names.decodeReference (h : Names name c) : decodeReference name = [c] := by
  cases h with
  | decimal ht =>
    obtain ⟨d, rest, rfl, hx, hX⟩ := ht.head_ten
    have hn : numberedCharacter? ('#' :: d :: rest) = some c := by
      unfold numberedCharacter?
      split
      · simp_all
      · simp_all
      · rename_i he
        cases he
        rw [ht.dropPlus, ht.character]
      · simp_all
    simp [Xml.decodeReference, namedCharacter?_numbered, hn]
  | @hexadecimal t _ ht =>
    have hn : numberedCharacter? ('#' :: 'x' :: t) = some c := by
      rw [numberedCharacter?, ht.dropPlus, ht.character]
    simp [Xml.decodeReference, namedCharacter?_numbered, hn]
  | _ => rfl

theorem code_of_numeral (h : Numeral base t c.toNat) (hc : c ≠ '\x00') :
    valueCharacter?.code base t = some c := by
  have hn : c.toNat ≠ 0 := by
    intro he
    exact hc (Char.toNat_inj.mp he)
  rw [valueCharacter?.code, h.numeral?.2]
  simp [hn, Text.character?_toNat]

/-- Attribute values cannot have the character zero by reference. -/
theorem Names.valueCharacter? (h : Names name c) (hc : c ≠ '\x00') :
    valueCharacter? name = some c := by
  cases h with
  | decimal ht =>
    obtain ⟨d, rest, rfl, hx, -⟩ := ht.head_ten
    unfold Xml.valueCharacter?
    split
    · simp_all
    · rename_i he
      cases he
      exact code_of_numeral ht hc
    · rename_i he
      exact absurd rfl (he _)
  | hexadecimal ht => exact code_of_numeral ht hc
  | _ => rfl

/-- Reading the name of an open reference up to its semicolon. -/
theorem go_reference (h : ∀ d ∈ name, isReferenceCharacter d = true) (past t : Text) :
    decodeValue?.go (some past) (name ++ ';' :: t) = (do
      let decoded ← valueCharacter? (past.reverse ++ name)
      (decodeValue?.go none t).map (decoded :: ·)) := by
  induction name generalizing past with
  | nil => simp [decodeValue?.go]
  | cons d name ih =>
    have hd := h d List.mem_cons_self
    simp only [isReferenceCharacter, Bool.and_eq_true, decide_eq_true_eq] at hd
    rw [List.cons_append, decodeValue?.go, if_neg hd.1.1, if_neg hd.1.2,
      ih (fun e he => h e (List.mem_cons_of_mem d he))]
    simp

/-- Values that have no zero by reference decode to what they are written for. -/
theorem WrittenValue.decodeValue {quote : Char} {v raw : Text}
    (h : WrittenValue (· ≠ '\x00') quote v raw) : decodeValue raw = v := by
  have hd : decodeValue? raw = some v := by
    unfold decodeValue?
    induction h with
    | nil => rfl
    | literal hc _ _ ih => rw [decodeValue?.go, if_neg hc, ih]; rfl
    | reference hc hn _ ih =>
      rw [List.cons_append, decodeValue?.go, if_pos rfl, go_reference hn.isReferenceCharacter, ih]
      simp [hn.valueCharacter? hc]
  rw [Xml.decodeValue, hd, Option.getD_some]

theorem WrittenValue.quote_not_mem {Referable : Char → Prop} {quote : Char} {v raw : Text}
    (hq : isQuote quote = true) (h : WrittenValue Referable quote v raw) : quote ∉ raw := by
  have hc : quote = '\x22' ∨ quote = '\x27' := by simpa [isQuote] using hq
  induction h with
  | nil => simp
  | literal _ hne _ ih => simp [Ne.symm hne, ih]
  | reference _ hn _ ih =>
    have hm := hn.not_mem (d := quote) (by rcases hc with rfl | rfl <;> decide)
      (by rcases hc with rfl | rfl <;> decide)
    have hs : quote ≠ '&' ∧ quote ≠ ';' := by rcases hc with rfl | rfl <;> decide
    simp [hs, hm, ih]

end RefSite.Xml
