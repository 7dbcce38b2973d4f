import RefSite.Xml.Reader

namespace RefSite

namespace Text

variable {m t rest : Text} {e : Char}

theorem cut?_prefix {mark : Text} (nonempty : mark ≠ []) :
    cut? mark (mark ++ rest) = some ([], rest) := by
  cases h : mark ++ rest with
  | nil => simp_all
  | cons c t =>
    have hp : mark.isPrefixOf (c :: t) = true := by
      rw [← h]
      exact List.isPrefixOf_iff_prefix.mpr (List.prefix_append mark rest)
    rw [cut?, if_pos hp, ← h, List.drop_left]

/-- A mark cannot begin in the text before it and end in itself, as its last character is not among
the others. -/
theorem not_prefix_of_not_infix {c : Char} (last : e ∉ m) (h : ¬ m ++ [e] <:+: c :: t)
    (rest : Text) : ¬ m ++ [e] <+: c :: t ++ (m ++ [e] ++ rest) := by
  intro hp
  rcases List.prefix_or_prefix_of_prefix hp (List.prefix_append (c :: t) _) with hm | ⟨u, hu⟩
  · exact h hm.isInfix
  · rcases List.eq_nil_or_concat u with rfl | ⟨u, d, rfl⟩
    · rw [List.append_nil] at hu
      exact h (hu ▸ List.infix_refl _)
    · rw [List.concat_eq_append, ← List.append_assoc] at hu
      obtain ⟨rfl, hd⟩ := List.append_inj' hu rfl
      obtain rfl : d = e := by simpa using hd
      rw [List.append_assoc, List.prefix_append_right_inj] at hp
      have hd : u ++ [d] <+: c :: t ++ u := by
        refine List.prefix_of_prefix_length_le hp ?_ (by simp)
        exact ⟨[d] ++ rest, by simp⟩
      exact last (hd.subset (by simp))

theorem cut?_append {mark : Text} (hm : mark = m ++ [e]) (last : e ∉ m) (h : ¬ mark <:+: t) :
    cut? mark (t ++ (mark ++ rest)) = some (t, rest) := by
  subst hm
  induction t with
  | nil => exact cut?_prefix (by simp)
  | cons c t ih =>
    have hp := not_prefix_of_not_infix last h rest
    rw [← List.isPrefixOf_iff_prefix, List.cons_append] at hp
    have ht : ¬ m ++ [e] <:+: t := fun ht => h (ht.trans (List.infix_cons (List.infix_refl t)))
    rw [List.cons_append, cut?, if_neg hp, ih ht]
    rfl

end Text

namespace Xml

theorem takeWhile_of_stop {p : Char → Bool} {t rest : Text} {c : Char} (h : ∀ d ∈ t, p d = true)
    (hc : p c = false) : (t ++ c :: rest).takeWhile p = t := by
  rw [List.takeWhile_append_of_pos h, List.takeWhile_cons_of_neg (by simp [hc]), List.append_nil]

theorem dropWhile_of_stop {p : Char → Bool} {t rest : Text} {c : Char} (h : ∀ d ∈ t, p d = true)
    (hc : p c = false) : (t ++ c :: rest).dropWhile p = c :: rest := by
  rw [List.dropWhile_append_of_pos h, List.dropWhile_cons_of_neg (by simp [hc])]

/-- Text within a tag that does not end it and leaves no quote open. -/
def Passes (t : Text) : Prop :=
  ∀ rest, splitTag none (t ++ rest) = (splitTag none rest).map fun parts => (t ++ parts.1, parts.2)

theorem Passes.append {s t : Text} (hs : Passes s) (ht : Passes t) : Passes (s ++ t) := by
  intro rest
  rw [List.append_assoc, hs, ht]
  cases splitTag none rest <;> simp [Except.map]

theorem Passes.of_all {t : Text} (h : ∀ c ∈ t, c ≠ '>' ∧ isQuote c = false) : Passes t := by
  intro rest
  induction t with
  | nil =>
    rw [List.nil_append]
    cases splitTag none rest <;> rfl
  | cons c t ih =>
    obtain ⟨hc, hq⟩ := h c List.mem_cons_self
    have ht := ih fun d hd => h d (List.mem_cons_of_mem c hd)
    rw [List.cons_append, splitTag, if_neg hc, hq, if_neg (by simp), ht]
    cases splitTag none rest <;> rfl

theorem splitTag_quoted {quote : Char} {raw : Text} (h : quote ∉ raw) (rest : Text) :
    splitTag (some quote) (raw ++ quote :: rest) =
      (splitTag none rest).map fun parts => (raw ++ quote :: parts.1, parts.2) := by
  induction raw with
  | nil =>
    rw [List.nil_append, splitTag, if_pos rfl]
    rfl
  | cons c raw ih =>
    obtain ⟨hc, hr⟩ : quote ≠ c ∧ quote ∉ raw := by simpa using h
    rw [List.cons_append, splitTag, if_neg (Ne.symm hc), ih hr]
    cases splitTag none rest <;> rfl

theorem Passes.quoted {quote : Char} {raw : Text} (hq : isQuote quote = true) (h : quote ∉ raw) :
    Passes (quote :: raw ++ [quote]) := by
  intro rest
  have hc : quote ≠ '>' := by
    rintro rfl
    exact absurd hq (by decide)
  rw [List.append_assoc, List.cons_append, List.singleton_append, splitTag, if_neg hc, if_pos hq,
    splitTag_quoted h]
  cases splitTag none rest <;> simp [Except.map]

theorem Passes.splitTag {t : Text} (h : Passes t) (rest : Text) :
    splitTag none (t ++ '>' :: rest) = .ok (t, rest) := by
  rw [h, Xml.splitTag, if_pos rfl]
  simp [Except.map]

theorem tokens_of_nextToken {c : Char} {t rest : Text} {token : Token}
    (h : nextToken c t = .ok (token, rest)) : tokens (c :: t) = .ok token :: tokens rest := by
  rw [tokens]
  split
  · simp_all
  · rename_i h'
    rw [h] at h'
    cases h'
    rfl

theorem tokens_of_markup {t rest : Text} {token : Token} (h : markup t = .ok (token, rest)) :
    tokens ('<' :: t) = .ok token :: tokens rest :=
  tokens_of_nextToken (by rw [nextToken, if_pos rfl, h])

theorem tokens_text {c : Char} {t : Text} (hc : isTextCharacter c = true) :
    tokens (c :: t) =
      .ok (.text (c :: t.takeWhile isTextCharacter)) :: tokens (t.dropWhile isTextCharacter) := by
  have : c ≠ '&' ∧ c ≠ '<' := by simpa [isTextCharacter] using hc
  exact tokens_of_nextToken (by rw [nextToken, if_neg this.2, if_neg this.1])

end Xml

end RefSite
