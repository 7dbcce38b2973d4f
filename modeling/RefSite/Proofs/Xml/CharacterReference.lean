import Mathlib
import RefSite.Proofs.Xml.Reference

namespace RefSite.Xml

variable {base n : Nat} {c d : Char} {t name : Text}

/-- The references that denote a character; the `x` of hexadecimal numbers may be a large one. -/
inductive Denotes : Text → Char → Prop
  | names {name : Text} {c : Char} : Names name c → Denotes name c
  | largeMark {t : Text} {c : Char} : Numeral 16 t c.toNat → Denotes ('#' :: 'X' :: t) c

/-- A number with a plus sign before its digits. -/
inductive Signed : Text → Char → Prop
  | decimal {t : Text} {c : Char} : Numeral 10 t c.toNat → Signed ('#' :: '+' :: t) c
  | hexadecimal {mark : Char} {t : Text} {c : Char} :
    mark = 'x' ∨ mark = 'X' → Numeral 16 t c.toNat → Signed ('#' :: mark :: '+' :: t) c

/-- References that denote a character decode to it, and the others are kept. -/
structure DecodesExactly (name : Text) : Prop where
  decoded : ∀ c, Denotes name c → decodeReference name = [c]
  kept : (∀ c, ¬ Denotes name c) → decodeReference name = "&" ++ name ++ ";"

/-- A numbered reference whose digits are read into a word of 32 bits. -/
def wordCharacter? : Text → Option Char
  | '#' :: 'x' :: digits => character 16 digits
  | '#' :: 'X' :: digits => character 16 digits
  | '#' :: digits => character 10 digits
  | _ => none
where
  character (base : Nat) (digits : Text) : Option Char := do
    let w ← Text.wordNumeral? base (dropPlus digits)
    Text.character? w.toNat

theorem wordCharacter?_eq (name : Text) : wordCharacter? name = numberedCharacter? name := by
  have hdigits (base : Nat) (digits : Text) : wordCharacter?.character base digits =
      Text.numeral? base (dropPlus digits) >>= Text.character? :=
    Text.wordNumeral?_character base _
  fun_cases numberedCharacter? name with
  | case1 digits => exact hdigits 16 digits
  | case2 digits => exact hdigits 16 digits
  | case3 digits hsmall hlarge =>
    rw [wordCharacter?, hdigits]
    · exact hsmall
    · exact hlarge
  | case4 _ hsmall hlarge hplain =>
    rw [wordCharacter?]
    · exact hsmall
    · exact hlarge
    · exact hplain

theorem Numeral.of_numeral? (h : Text.numeral? base t = some n) : Numeral base t n := by
  induction t using List.reverseRecOn generalizing n with
  | nil => cases h
  | append_singleton s c ih =>
    rw [Text.numeral?_eq_foldlM (by simp), List.foldlM_append] at h
    obtain ⟨m, hm, hlast⟩ := Option.bind_eq_some_iff.mp h
    obtain ⟨d, hd, rfl⟩ : ∃ d, Text.digit? base c = some d ∧ base * m + d = n := by
      simpa using hlast
    cases s with
    | nil =>
      obtain rfl : 0 = m := Option.some.inj hm
      simpa using Numeral.digit hd
    | cons e s =>
      rw [← Text.numeral?_eq_foldlM (List.cons_ne_nil e s)] at hm
      exact .snoc (ih hm) hd

theorem Numeral.character_iff :
    (Text.numeral? base t >>= Text.character?) = some c ↔ Numeral base t c.toNat := by
  refine ⟨fun h => ?_, Numeral.character⟩
  obtain ⟨n, hn, hc⟩ := Option.bind_eq_some_iff.mp h
  exact Text.character?_eq_some_iff.mp hc ▸ .of_numeral? hn

theorem Numeral.plus_not_mem (h : Numeral base t n) : '+' ∉ t := by
  intro hplus
  obtain ⟨d, hd⟩ := h.digit_of_mem '+' hplus
  simp [Text.digit?] at hd

/-- The digits of a number in running text, with or without a sign. -/
theorem character_dropPlus_iff :
    (Text.numeral? base (dropPlus t) >>= Text.character?) = some c ↔
      Numeral base t c.toNat ∨ ∃ digits, t = '+' :: digits ∧ Numeral base digits c.toNat := by
  rw [Numeral.character_iff]
  constructor
  · unfold dropPlus
    split
    · exact fun h => .inr ⟨_, rfl, h⟩
    · exact .inl
  · rintro (h | ⟨digits, rfl, h⟩)
    · rwa [h.dropPlus]
    · exact h

theorem Denotes.plus_not_mem (h : Denotes name c) : '+' ∉ name := by
  cases h with
  | names h => exact h.not_mem (by decide) (by decide)
  | largeMark h => simp [h.plus_not_mem]

theorem Signed.plus_mem (h : Signed name c) : '+' ∈ name := by
  cases h <;> simp

theorem Signed.not_denotes (h : Signed name c) : ¬ Denotes name d :=
  fun hd => hd.plus_not_mem h.plus_mem

theorem names_of_namedCharacter? (h : namedCharacter? name = some c) : Names name c := by
  unfold namedCharacter? at h
  split_ifs at h with h₁ h₂ h₃ h₄ h₅
  · obtain rfl := Option.some.inj h
    exact h₁ ▸ .lt
  · obtain rfl := Option.some.inj h
    exact h₂ ▸ .gt
  · obtain rfl := Option.some.inj h
    exact h₃ ▸ .amp
  · obtain rfl := Option.some.inj h
    exact h₄ ▸ .apos
  · obtain rfl := Option.some.inj h
    exact h₅ ▸ .quot

theorem of_numberedCharacter? (h : numberedCharacter? name = some c) :
    Denotes name c ∨ Signed name c := by
  unfold numberedCharacter? at h
  split at h
  · rcases character_dropPlus_iff.mp h with hplain | ⟨digits, rfl, hsigned⟩
    · exact .inl (.names (.hexadecimal hplain))
    · exact .inr (.hexadecimal (.inl rfl) hsigned)
  · rcases character_dropPlus_iff.mp h with hplain | ⟨digits, rfl, hsigned⟩
    · exact .inl (.largeMark hplain)
    · exact .inr (.hexadecimal (.inr rfl) hsigned)
  · rcases character_dropPlus_iff.mp h with hplain | ⟨digits, rfl, hsigned⟩
    · exact .inl (.names (.decimal hplain))
    · exact .inr (.decimal hsigned)
  · cases h

theorem Signed.numberedCharacter? (h : Signed name c) : numberedCharacter? name = some c := by
  cases h with
  | decimal h => exact h.character
  | hexadecimal hmark h => rcases hmark with rfl | rfl <;> exact h.character

theorem decodeReference_numbered (h : numberedCharacter? ('#' :: t) = some c) :
    decodeReference ('#' :: t) = [c] := by
  simp [decodeReference, namedCharacter?_numbered, h]

theorem Denotes.decodeReference (h : Denotes name c) : decodeReference name = [c] := by
  cases h with
  | names h => exact h.decodeReference
  | largeMark h =>
    apply decodeReference_numbered
    rw [Xml.numberedCharacter?, h.dropPlus, h.character]

theorem Signed.decodeReference (h : Signed name c) : decodeReference name = [c] := by
  have hn := h.numberedCharacter?
  cases h <;> exact decodeReference_numbered hn

theorem decodeReference_cases (name : Text) :
    (∃ c, (Denotes name c ∨ Signed name c) ∧ decodeReference name = [c]) ∨
      decodeReference name = "&" ++ name ++ ";" := by
  unfold decodeReference
  cases hnamed : namedCharacter? name with
  | some c => exact .inl ⟨c, .inl (.names (names_of_namedCharacter? hnamed)), rfl⟩
  | none =>
    cases hnumbered : numberedCharacter? name with
    | some c => exact .inl ⟨c, of_numberedCharacter? hnumbered, rfl⟩
    | none => exact .inr rfl

theorem verbatim_ne_singleton (name : Text) (c : Char) :
    ("&".toList ++ name ++ ";".toList : Text) ≠ [c] := by
  intro h
  simpa using congrArg List.length h

theorem decodeReference_eq_singleton_iff :
    decodeReference name = [c] ↔ Denotes name c ∨ Signed name c := by
  constructor
  · intro h
    rcases decodeReference_cases name with ⟨d, hd, he⟩ | he
    · obtain rfl : d = c := by simpa [he] using h
      exact hd
    · exact absurd (he.symm.trans h) (verbatim_ne_singleton name c)
  · rintro (h | h)
    · exact h.decodeReference
    · exact h.decodeReference

theorem decodeReference_eq_verbatim_iff :
    decodeReference name = "&" ++ name ++ ";" ↔ ∀ c, ¬ Denotes name c ∧ ¬ Signed name c := by
  constructor
  · intro h c
    rw [← not_or, ← decodeReference_eq_singleton_iff, h]
    exact verbatim_ne_singleton name c
  · intro h
    rcases decodeReference_cases name with ⟨c, hc, -⟩ | he
    · exact absurd hc (not_or.mpr (h c))
    · exact he

/-- A reference decodes to the character that it denotes or stays as it is written, just if it is no
number with a plus sign; such a number decodes as if it had none. A word of 32 bits that refuses to
overflow is enough for the digits. -/
theorem decodeReference_exact_iff (name : Text) :
    (DecodesExactly name ↔ ∀ c, ¬ Signed name c) ∧
      (∀ c, decodeReference name = [c] ↔ Denotes name c ∨ Signed name c) ∧
      (decodeReference name = "&" ++ name ++ ";" ↔ ∀ c, ¬ Denotes name c ∧ ¬ Signed name c) ∧
      decodeReference name =
        (namedCharacter? name <|> wordCharacter? name).elim ("&" ++ name ++ ";") ([·]) := by
  refine ⟨⟨?_, ?_⟩, fun c => decodeReference_eq_singleton_iff, decodeReference_eq_verbatim_iff, ?_⟩
  · intro h c hc
    have hkept := h.kept fun d => hc.not_denotes
    exact (decodeReference_eq_verbatim_iff.mp hkept c).2 hc
  · intro h
    exact ⟨fun c => Denotes.decodeReference,
      fun hd => decodeReference_eq_verbatim_iff.mpr fun c => ⟨hd c, h c⟩⟩
  · rw [wordCharacter?_eq, decodeReference]
    cases namedCharacter? name <|> numberedCharacter? name <;> rfl

-- a word that wraps around would have the code point of a letter
example : decodeReference "#4294967361" = "&#4294967361;" := by decide

/-- A number with a sign is decoded in running text; attribute values keep it. -/
theorem exists_not_decodesExactly :
    ∃ name c, Signed name c ∧ ¬ DecodesExactly name ∧
      read ("<c>&" ++ name ++ ";</c>") = .ok { tag := "c", attributes := [], text := [c] } ∧
      decodeValue ("&" ++ name ++ ";") = "&" ++ name ++ ";" := by
  have hdigits : Numeral 10 (['6'] ++ ['5']) (10 * 6 + 5) := .snoc (.digit rfl) rfl
  have hsigned : Signed "#+65" 'A' := .decimal hdigits
  refine ⟨"#+65", 'A', hsigned, fun h => ?_, by cbv, by cbv⟩
  exact absurd (h.kept fun d => hsigned.not_denotes) (by decide)

end RefSite.Xml
