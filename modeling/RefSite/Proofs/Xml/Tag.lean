import Mathlib.Data.List.TakeWhile
import RefSite.Proofs.Xml.Reference
import RefSite.Proofs.Xml.Scan

namespace RefSite.Xml

variable {w name t rest : Text}

theorem IsName.not_mem (h : IsName name) {c : Char} (hc : isNameCharacter c = false) :
    c ∉ name := by
  intro hm
  rw [h.all c hm] at hc
  cases hc

/-- What has a meaning of its own in a tag is no part of a name. -/
theorem isNameCharacter_sign :
    ∀ c ∈ [' ', '\t', '\r', '\n'] ++ ['=', '>', '/', '!', '?'] ++ ['\x22', '\x27'],
      isNameCharacter c = false := by
  have h : ([' ', '\t', '\r', '\n'] ++ ['=', '>', '/', '!', '?'] ++ ['\x22', '\x27']).all
      (!isNameCharacter ·) = true := by decide +kernel
  intro c hc
  simpa using List.all_eq_true.mp h c hc

theorem mem_of_isWhitespace {c : Char} (h : c.isWhitespace = true) :
    c ∈ [' ', '\t', '\r', '\n'] := by
  simpa [Char.isWhitespace, or_assoc] using h

theorem mem_of_isQuote {c : Char} (h : isQuote c = true) : c ∈ ['\x22', '\x27'] := by
  simpa [isQuote] using h

theorem isNameCharacter_not_space {c : Char} (h : isNameCharacter c = true) :
    c.isWhitespace = false := by
  cases hw : c.isWhitespace with
  | false => rfl
  | true =>
    have hm := isNameCharacter_sign c
      (List.mem_append_left _ (List.mem_append_left _ (mem_of_isWhitespace hw)))
    rw [h] at hm
    cases hm

theorem IsName.not_space (h : IsName name) : ∀ c ∈ name, c.isWhitespace = false :=
  fun c hc => isNameCharacter_not_space (h.all c hc)

theorem isNameCharacter_of_isWord {c : Char} (h : Text.isWord c = true) :
    isNameCharacter c = true := by
  simp [isNameCharacter, h]

theorem IsName.passes (h : IsName name) : Passes name := by
  apply Passes.of_all
  intro c hc
  constructor
  · rintro rfl
    exact h.not_mem (isNameCharacter_sign _ (by simp)) hc
  · cases hq : isQuote c with
    | false => rfl
    | true =>
      have hs := isNameCharacter_sign c (List.mem_append_right _ (mem_of_isQuote hq))
      exact absurd hc (h.not_mem hs)

theorem IsSpace.passes (h : IsSpace w) : Passes w := by
  have hs : ∀ c ∈ [' ', '\t', '\r', '\n'], c ≠ '>' ∧ isQuote c = false := by
    simp [isQuote]
  exact .of_all fun c hc => hs c (mem_of_isWhitespace (h c hc))

theorem dropWhile_space (h : IsSpace w) {c : Char} (hc : c.isWhitespace = false) :
    (w ++ c :: rest).dropWhile Char.isWhitespace = c :: rest :=
  dropWhile_of_stop h hc

/-- A key ends at its `=` or at the white space before it. -/
theorem key?_written {w₀ w₁ : Text} (h₀ : IsSpace w₀) (hn : IsName name) (h₁ : IsSpace w₁) :
    key? (w₀ ++ (name ++ (w₁ ++ '=' :: t))) = some (name, '=' :: t) := by
  obtain ⟨c, rest, rfl, hc⟩ := hn.head
  have hkey : ∀ d ∈ rest, isKeyCharacter d = true := by
    intro d hd
    have hm := List.mem_cons_of_mem c hd
    have he : d ≠ '=' := by
      rintro rfl
      exact hn.not_mem (isNameCharacter_sign _ (by simp)) hm
    simp [isKeyCharacter, he, hn.not_space d hm]
  have hcut : (rest ++ (w₁ ++ '=' :: t)).takeWhile isKeyCharacter = rest ∧
      (rest ++ (w₁ ++ '=' :: t)).dropWhile isKeyCharacter = w₁ ++ '=' :: t := by
    cases w₁ with
    | nil => exact ⟨takeWhile_of_stop hkey (by decide), dropWhile_of_stop hkey (by decide)⟩
    | cons d w₁ =>
      have hd : isKeyCharacter d = false := by simp [isKeyCharacter, h₁ d List.mem_cons_self]
      exact ⟨takeWhile_of_stop hkey hd, dropWhile_of_stop hkey hd⟩
  rw [key?, List.cons_append,
    dropWhile_space h₀ (isNameCharacter_not_space (isNameCharacter_of_isWord hc))]
  simp only [hcut, dropWhile_space h₁ (c := '=') (by decide)]

theorem value_written {quote : Char} {raw : Text} (hw : IsSpace w) (hq : isQuote quote = true)
    (hr : quote ∉ raw) : value (w ++ quote :: (raw ++ quote :: t)) = (some raw, t) := by
  have hs : quote.isWhitespace = false := by
    have hs : ∀ c ∈ ['\x22', '\x27'], c.isWhitespace = false := by simp [Char.isWhitespace]
    exact hs quote (mem_of_isQuote hq)
  have hne : ∀ c ∈ raw, decide (c ≠ quote) = true := by
    intro c hc
    simp only [decide_eq_true_eq]
    rintro rfl
    exact hr hc
  rw [value, dropWhile_space hw hs]
  simp only [hq, if_true, takeWhile_of_stop hne (c := quote) (by simp),
    dropWhile_of_stop hne (c := quote) (by simp)]

theorem rawAttributes_space (seen : List Text) (h : IsSpace w) : rawAttributes seen w = [] := by
  have hk : key? w = none := by
    have hd : w.dropWhile Char.isWhitespace = [] := List.dropWhile_eq_nil_iff.mpr h
    rw [key?, hd]
  rw [rawAttributes]
  split
  · rfl
  all_goals simp_all

theorem rawAttributes_cons {seen : List Text} {key t' v : Text}
    (hk : key? t = some (key, '=' :: t')) (new : key ∉ seen) (hv : value t' = (some v, rest)) :
    rawAttributes seen t = (key, v) :: rawAttributes (key :: seen) rest := by
  rw [rawAttributes]
  split
  · simp_all
  · rename_i key' t'' h
    rw [hk] at h
    cases h
    rw [if_neg new, hv]
  · rename_i key' rest' other h
    rw [hk] at h
    cases h
    exact absurd rfl (other t')

/-- Attributes that are written without the zero by reference are read one after the other. -/
theorem rawAttributes_written {as : Attributes} (h : WrittenAttributes (· ≠ '\x00') as t)
    (named : ∀ a ∈ as, IsName a.1) (distinct : (as.map Prod.fst).Nodup) (seen : List Text)
    (new : ∀ a ∈ as, a.1 ∉ seen) :
    (rawAttributes seen t).map (fun a => (a.1, decodeValue a.2)) = as := by
  induction h generalizing seen with
  | nil hw => rw [rawAttributes_space seen hw, List.map_nil]
  | @cons w₀ w₁ w₂ name v raw t quote as h₀ h₁ h₂ hq hv _ ih =>
    simp only [List.append_assoc, List.cons_append]
    rw [rawAttributes_cons (key?_written h₀ (named _ List.mem_cons_self) h₁)
      (new _ List.mem_cons_self) (value_written h₂ hq (hv.quote_not_mem hq))]
    obtain ⟨hd, distinct⟩ := List.nodup_cons.mp distinct
    have ht := ih (fun a ha => named a (List.mem_cons_of_mem _ ha)) distinct (name :: seen) (by
      intro a ha hm
      rcases List.mem_cons.mp hm with he | hm
      · exact hd (List.mem_map.mpr ⟨a, ha, he⟩)
      · exact new a (List.mem_cons_of_mem _ ha) hm)
    rw [List.map_cons, ht, hv.decodeValue]

theorem attributesOf_written {as bs : Attributes} (proper : ProperAttributes as)
    (perm : bs.Perm as) (h : WrittenAttributes (· ≠ '\x00') bs t) : attributesOf t = bs := by
  have hr := rawAttributes_written h (fun a ha => proper.named a (perm.mem_iff.mp ha))
    ((perm.map Prod.fst).nodup_iff.mpr proper.distinct) [] (by simp)
  have hk : ∀ a ∈ rawAttributes [] t, ("xmlns".toList.isPrefixOf a.1) = false := by
    intro a ha
    have hb : (a.1, decodeValue a.2) ∈ bs := hr ▸ List.mem_map_of_mem ha
    rw [Bool.eq_false_iff, ne_eq, List.isPrefixOf_iff_prefix]
    exact proper.plain (a.1, decodeValue a.2) (perm.mem_iff.mp hb)
  unfold attributesOf
  rw [List.filter_eq_self.mpr (by intro a ha; simpa using hk a ha)]
  exact hr

theorem WrittenAttributes.passes {Referable : Char → Prop} {as : Attributes}
    (h : WrittenAttributes Referable as t) (named : ∀ a ∈ as, IsName a.1) : Passes t := by
  induction h with
  | nil hw => exact hw.passes
  | cons h₀ h₁ h₂ hq hv _ ih =>
    have hn := (named _ List.mem_cons_self).passes
    have hr := ih fun a ha => named a (List.mem_cons_of_mem _ ha)
    have he : Passes ['='] := .of_all (by simp [isQuote])
    simpa using ((h₀.passes.append hn).append h₁.passes).append
      (he.append (h₂.passes.append ((Passes.quoted hq (hv.quote_not_mem hq)).append hr)))

theorem WrittenAttributes.getLast? {Referable : Char → Prop} {as : Attributes}
    (h : WrittenAttributes Referable as t) : t.getLast? ≠ some '/' := by
  induction h with
  | nil hw =>
    intro hl
    exact absurd (hw '/' (List.mem_of_getLast? hl)) (by decide)
  | @cons w₀ w₁ w₂ name v raw t quote as _ _ _ hq _ _ ih =>
    rw [List.getLast?_append, List.getLast?_cons]
    cases ht : t.getLast? with
    | none =>
      have hs : ∀ c ∈ ['\x22', '\x27'], c ≠ '/' := by simp
      simpa using hs quote (mem_of_isQuote hq)
    | some c => simpa [ht] using ih

section

variable {tag : Text}

/-- All of a name is kept by a scan up to white space. -/
theorem IsName.kept (hn : IsName tag) : ∀ c ∈ tag, (!c.isWhitespace) = true := by
  intro c hc
  simp [hn.not_space c hc]

theorem takeWhile_tag (hn : IsName tag) (hs : ∀ c ∈ t.head?, c.isWhitespace = true) :
    (tag ++ t).takeWhile (!·.isWhitespace) = tag := by
  cases t with
  | nil => rw [List.append_nil, List.takeWhile_eq_self_iff.mpr hn.kept]
  | cons c t => exact takeWhile_of_stop hn.kept (by simp [hs c rfl])

theorem dropWhile_tag (hn : IsName tag) (hs : ∀ c ∈ t.head?, c.isWhitespace = true) :
    (tag ++ t).dropWhile (!·.isWhitespace) = t := by
  cases t with
  | nil => rw [List.append_nil, List.dropWhile_eq_nil_iff.mpr hn.kept]
  | cons c t => exact dropWhile_of_stop hn.kept (by simp [hs c rfl])

theorem openingToken_start (h : t.getLast? ≠ some '/') :
    openingToken t =
      .start (t.takeWhile (!·.isWhitespace)) (attributesOf (t.dropWhile (!·.isWhitespace))) := by
  unfold openingToken
  split
  · rename_i inner ht
    rw [← List.head?_reverse, ht] at h
    exact absurd rfl h
  · rfl

theorem openingToken_empty (t : Text) :
    openingToken (t ++ ['/']) =
      .empty (t.takeWhile (!·.isWhitespace)) (attributesOf (t.dropWhile (!·.isWhitespace))) := by
  simp [openingToken, openingToken.name]

theorem closingName_written (hn : IsName tag) (hw : IsSpace w) : closingName (tag ++ w) = tag := by
  have hr : (tag ++ w).reverse.dropWhile Char.isWhitespace = tag.reverse := by
    rw [List.reverse_append]
    cases ht : tag.reverse with
    | nil =>
      rw [List.append_nil]
      exact List.dropWhile_eq_nil_iff.mpr fun c hc => hw c (List.mem_reverse.mp hc)
    | cons c rest =>
      have hc : c ∈ tag := List.mem_reverse.mp (ht ▸ List.mem_cons_self)
      exact dropWhile_of_stop (fun d hd => hw d (List.mem_reverse.mp hd)) (hn.not_space c hc)
  unfold closingName
  rw [hr]
  split
  · rename_i he
    rw [List.reverse_eq_nil_iff.mp he]
    obtain ⟨c, rest, he', -⟩ := hn.head
    simp_all
  · rw [List.reverse_reverse]

theorem markup_tag (hn : IsName tag) (hp : Passes t) (rest : Text) :
    markup (tag ++ t ++ '>' :: rest) = .ok (openingToken (tag ++ t), rest) := by
  have hs := (hn.passes.append hp).splitTag rest
  obtain ⟨c, tag, rfl, hc⟩ := hn.head
  have hsign := isNameCharacter_of_isWord hc
  unfold markup
  split
  · simp_all
  · rename_i he
    cases he
    exact absurd hsign (by simp [isNameCharacter_sign])
  · rename_i he
    cases he
    exact absurd hsign (by simp [isNameCharacter_sign])
  · rename_i he
    cases he
    exact absurd hsign (by simp [isNameCharacter_sign])
  · rw [hs]
    rfl

end

/-- A start tag is read with its attributes in the order in which they are written. -/
theorem WrittenTag.start {tag : Text} {as : Attributes} (h : WrittenTag (· ≠ '\x00') tag as t)
    (hn : IsName tag) (proper : ProperAttributes as) :
    ∃ bs : Attributes, bs.Perm as ∧
      ∀ rest, tokens ('<' :: t ++ '>' :: rest) = .ok (.start tag bs) :: tokens rest := by
  cases h with
  | @mk t _ bs perm ht hs =>
    refine ⟨bs, perm, ?_⟩
    intro rest
    have hp := ht.passes fun a ha => proper.named a (perm.mem_iff.mp ha)
    have hl : (tag ++ t).getLast? ≠ some '/' := by
      intro hl
      rw [List.getLast?_append] at hl
      cases hlt : t.getLast? with
      | none =>
        rw [hlt, Option.none_or] at hl
        exact hn.not_mem (isNameCharacter_sign _ (by simp)) (List.mem_of_getLast? hl)
      | some c =>
        rw [hlt, Option.some_or] at hl
        exact ht.getLast? (hlt.trans hl)
    have hm := markup_tag hn hp rest
    rw [openingToken_start hl, takeWhile_tag hn hs, dropWhile_tag hn hs,
      attributesOf_written proper perm ht] at hm
    exact tokens_of_markup hm

theorem WrittenTag.empty {tag : Text} {as : Attributes} (h : WrittenTag (· ≠ '\x00') tag as t)
    (hn : IsName tag) (proper : ProperAttributes as) :
    ∃ bs : Attributes, bs.Perm as ∧
      ∀ rest, tokens ('<' :: t ++ "/>" ++ rest) = .ok (.empty tag bs) :: tokens rest := by
  cases h with
  | @mk t _ bs perm ht hs =>
    refine ⟨bs, perm, ?_⟩
    intro rest
    have hp := ht.passes fun a ha => proper.named a (perm.mem_iff.mp ha)
    have hslash : Passes ['/'] := .of_all (by simp [isQuote])
    have hm := markup_tag hn (hp.append hslash) rest
    rw [← List.append_assoc tag t, openingToken_empty, takeWhile_tag hn hs, dropWhile_tag hn hs,
      attributesOf_written proper perm ht] at hm
    have := tokens_of_markup hm
    simpa using this

theorem tokens_stop {tag : Text} (hn : IsName tag) (hw : IsSpace w) (rest : Text) :
    tokens ("</" ++ tag ++ w ++ ">" ++ rest) = .ok (.stop tag) :: tokens rest := by
  have hs := (hn.passes.append hw.passes).splitTag rest
  have hm : markup ('/' :: (tag ++ w ++ '>' :: rest)) = .ok (.stop tag, rest) := by
    rw [markup, hs]
    simp [Except.map, closingName_written hn hw]
  simpa using tokens_of_markup hm

end RefSite.Xml
