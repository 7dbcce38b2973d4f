import Mathlib.Data.List.Infix
import Mathlib.Data.List.TakeWhile
import RefSite.Proofs.Xml.Scan

namespace RefSite

namespace Text

variable {m t head rest : Text}

theorem eq_of_cut? (h : cut? m t = some (head, rest)) : t = head ++ m ++ rest := by
  induction t generalizing head with
  | nil =>
    rw [cut?] at h
    split at h
    · rename_i hmark
      obtain ⟨rfl, rfl⟩ := by simpa using h
      simp [hmark]
    · cases h
  | cons c t ih =>
    rw [cut?] at h
    split at h
    · rename_i hp
      obtain ⟨u, hu⟩ := List.isPrefixOf_iff_prefix.mp hp
      obtain ⟨rfl, rfl⟩ := by simpa using h
      simp [← hu]
    · obtain ⟨⟨head', rest'⟩, ht, he⟩ := Option.map_eq_some_iff.mp h
      obtain ⟨rfl, rfl⟩ := by simpa using he
      simp [ih ht]

/-- A mark that has come is the first one of a longer text too. -/
theorem cut?_append_right (nonempty : m ≠ []) (h : cut? m t = some (head, rest))
    (s : Text) : cut? m (t ++ s) = some (head, rest ++ s) := by
  induction t generalizing head with
  | nil => simp [cut?, nonempty] at h
  | cons c t ih =>
    rw [cut?] at h
    rw [List.cons_append, cut?]
    split at h
    · rename_i hp
      obtain ⟨u, hu⟩ := List.isPrefixOf_iff_prefix.mp hp
      obtain ⟨rfl, rfl⟩ := by simpa using h
      have hps : m.isPrefixOf (c :: (t ++ s)) = true :=
        List.isPrefixOf_iff_prefix.mpr ⟨u ++ s, by rw [← List.append_assoc, hu]; rfl⟩
      rw [if_pos hps, ← List.cons_append, ← hu]
      simp
    · rename_i hp
      obtain ⟨⟨head', rest'⟩, ht, he⟩ := Option.map_eq_some_iff.mp h
      obtain ⟨rfl, rfl⟩ := by simpa using he
      have hlen : m.length ≤ (c :: t).length := by
        rw [eq_of_cut? ht]
        simp only [List.length_cons, List.length_append]
        omega
      have hps : ¬ m.isPrefixOf (c :: (t ++ s)) = true := by
        intro hps
        apply hp
        have hfull : m <+: c :: t ++ s := List.isPrefixOf_iff_prefix.mp hps
        exact List.isPrefixOf_iff_prefix.mpr
          (List.prefix_of_prefix_length_le hfull (List.prefix_append _ s) hlen)
      rw [if_neg hps, ih ht]
      rfl

/-- A text with a character that the mark has not is too long to be the start of the mark. -/
theorem isPrefixOf_append {c : Char} (hc : c ∈ t) (hmark : c ∉ m) (s : Text) :
    m.isPrefixOf (t ++ s) = m.isPrefixOf t := by
  apply Bool.eq_iff_iff.mpr
  rw [List.isPrefixOf_iff_prefix, List.isPrefixOf_iff_prefix]
  constructor
  · intro h
    rcases List.prefix_or_prefix_of_prefix h (List.prefix_append t s) with hm | ht
    · exact hm
    · exact absurd (ht.subset hc) hmark
  · intro h
    exact h.trans (List.prefix_append t s)

end Text

namespace Xml

variable {t rest : Text} {token : Token} {fault : Fault}

theorem cut?_of_cutAt {m : Text} {parts : Text × Text} (h : cutAt m fault t = .ok parts) :
    Text.cut? m t = some parts := by
  unfold cutAt at h
  split at h
  · rename_i hcut
    rw [hcut, Except.ok.inj h]
  · cases h

theorem cutAt_append_right {m : Text} {parts : Text × Text} (nonempty : m ≠ [])
    (h : cutAt m fault t = .ok parts) (fault' : Fault) (s : Text) :
    cutAt m fault' (t ++ s) = .ok (parts.1, parts.2 ++ s) := by
  rw [cutAt, Text.cut?_append_right nonempty (cut?_of_cutAt h)]

theorem snd_cutAt_append {m : Text} (nonempty : m ≠ [])
    (h : (cutAt m fault t).map Prod.snd = .ok rest) (s : Text) :
    (cutAt m fault (t ++ s)).map Prod.snd = .ok (rest ++ s) := by
  obtain ⟨parts, hcut, rfl⟩ := exists_of_map_eq_ok h
  rw [cutAt_append_right nonempty hcut]
  rfl

theorem mem_of_cutAt {m : Text} {parts : Text × Text} {c : Char} (hc : c ∈ m)
    (h : cutAt m fault t = .ok parts) : c ∈ t := by
  rw [Text.eq_of_cut? (cut?_of_cutAt h)]
  simp [hc]

theorem splitTag_append {quote : Option Char} {parts : Text × Text}
    (h : splitTag quote t = .ok parts) (s : Text) :
    splitTag quote (t ++ s) = .ok (parts.1, parts.2 ++ s) := by
  induction t generalizing quote parts with
  | nil => cases quote <;> cases h
  | cons c t ih =>
    cases quote with
    | some quote =>
      obtain ⟨parts', ht, rfl⟩ := exists_of_map_eq_ok h
      rw [List.cons_append, splitTag, ih ht]
      rfl
    | none =>
      rw [splitTag] at h
      rw [List.cons_append, splitTag]
      split at h
      · rename_i hc
        obtain rfl := Except.ok.inj h
        rw [if_pos hc]
      · rename_i hc
        obtain ⟨parts', ht, rfl⟩ := exists_of_map_eq_ok h
        rw [if_neg hc, ih ht]
        rfl

theorem mem_of_splitTag {quote : Option Char} {parts : Text × Text}
    (h : splitTag quote t = .ok parts) : '>' ∈ t := by
  induction t generalizing quote parts with
  | nil => cases quote <;> cases h
  | cons c t ih =>
    cases quote with
    | some quote =>
      obtain ⟨parts', ht, -⟩ := exists_of_map_eq_ok h
      exact List.mem_cons_of_mem c (ih ht)
    | none =>
      rw [splitTag] at h
      split at h
      · rename_i hc
        simp [hc]
      · obtain ⟨parts', ht, -⟩ := exists_of_map_eq_ok h
        exact List.mem_cons_of_mem c (ih ht)

/-- Each way in which a declaration ends has a `>` in it. -/
theorem mem_of_skipDeclaration (h : skipDeclaration t = .ok rest) : '>' ∈ t := by
  unfold skipDeclaration at h
  split at h
  · obtain ⟨parts, hcut, -⟩ := exists_of_map_eq_ok h
    exact List.mem_of_mem_drop (mem_of_cutAt (by decide) hcut)
  split at h
  · obtain ⟨parts, hcut, -⟩ := exists_of_map_eq_ok h
    exact List.mem_of_mem_drop (mem_of_cutAt (by decide) hcut)
  split at h
  · split at h
    · rename_i hsplit
      exact mem_of_splitTag hsplit
    · cases h
  · obtain ⟨parts, hcut, -⟩ := exists_of_map_eq_ok h
    exact mem_of_cutAt (by decide) hcut

theorem isPrefixOf_append_of_isPrefixOf {m : Text} (h : m.isPrefixOf t = true) (s : Text) :
    m.isPrefixOf (t ++ s) = true :=
  List.isPrefixOf_iff_prefix.mpr
    ((List.isPrefixOf_iff_prefix.mp h).trans (List.prefix_append t s))

theorem drop_append_of_isPrefixOf {m : Text} {n : Nat} (h : m.isPrefixOf t = true)
    (hn : m.length = n) (s : Text) : (t ++ s).drop n = t.drop n ++ s := by
  subst hn
  exact List.drop_append_of_le_length (List.isPrefixOf_iff_prefix.mp h).length_le

theorem skipDeclaration_append (h : skipDeclaration t = .ok rest) (s : Text) :
    skipDeclaration (t ++ s) = .ok (rest ++ s) := by
  have hmem : '>' ∈ t := mem_of_skipDeclaration h
  have hcomment := Text.isPrefixOf_append (m := "!--") hmem (by decide) s
  have hquestion := Text.isPrefixOf_append (m := "?") hmem (by decide) s
  have hquoting : ["!ENTITY", "!ATTLIST", "!NOTATION"].any (·.toList.isPrefixOf (t ++ s)) =
      ["!ENTITY", "!ATTLIST", "!NOTATION"].any (·.toList.isPrefixOf t) := by
    simp only [List.any_cons, List.any_nil,
      Text.isPrefixOf_append (m := "!ENTITY") hmem (by decide) s,
      Text.isPrefixOf_append (m := "!ATTLIST") hmem (by decide) s,
      Text.isPrefixOf_append (m := "!NOTATION") hmem (by decide) s]
  unfold skipDeclaration at h ⊢
  rw [hcomment, hquestion, hquoting]
  split at h
  · rename_i hp
    rw [if_pos hp, drop_append_of_isPrefixOf (n := 3) hp rfl]
    exact snd_cutAt_append (by decide) h s
  rename_i hp
  rw [if_neg hp]
  split at h
  · rename_i hq
    rw [if_pos hq, drop_append_of_isPrefixOf (n := 1) hq rfl]
    exact snd_cutAt_append (by decide) h s
  rename_i hq
  rw [if_neg hq]
  split at h
  · rename_i hquotes
    rw [if_pos hquotes]
    split at h
    · rename_i hsplit
      obtain rfl := Except.ok.inj h
      rw [splitTag_append hsplit]
    · cases h
  · rename_i hquotes
    rw [if_neg hquotes]
    exact snd_cutAt_append (by decide) h s

theorem skipSubset_append (h : skipSubset t = .ok rest) (s : Text) :
    skipSubset (t ++ s) = .ok (rest ++ s) := by
  fun_induction skipSubset t with
  | case1 => cases h
  | case2 t =>
    obtain rfl := Except.ok.inj h
    rw [List.cons_append, skipSubset, if_pos rfl]
  | case3 => cases h
  | case4 t next hd hl _ ih =>
    rw [List.cons_append, skipSubset, if_neg (by decide), if_pos rfl]
    split
    · rename_i hd'
      rw [skipDeclaration_append hd] at hd'
      cases hd'
    · rename_i hd'
      rw [skipDeclaration_append hd] at hd'
      obtain rfl := Except.ok.inj hd'
      exact ih h
  | case5 c t hc hc' ih =>
    rw [List.cons_append, skipSubset, if_neg hc, if_neg hc']
    exact ih h

theorem skipDoctype_append {quote : Option Char} (h : skipDoctype quote t = .ok rest) (s : Text) :
    skipDoctype quote (t ++ s) = .ok (rest ++ s) := by
  induction t generalizing quote with
  | nil => cases quote <;> cases h
  | cons c t ih =>
    cases quote with
    | some quote => exact ih h
    | none =>
      rw [skipDoctype] at h
      rw [List.cons_append, skipDoctype]
      split at h
      · rename_i hc
        obtain rfl := Except.ok.inj h
        rw [if_pos hc]
      rename_i hc
      rw [if_neg hc]
      split at h
      · rename_i hbracket
        obtain ⟨t', hsubset, h⟩ := exists_of_bind_eq_ok h
        rw [if_pos hbracket, skipSubset_append hsubset]
        exact snd_cutAt_append (by decide) h s
      · rename_i hbracket
        rw [if_neg hbracket]
        exact ih h

/-- White space alone does not end a document type. -/
theorem dropWhile_ne_nil_of_skipDoctype (h : skipDoctype none t = .ok rest) :
    t.dropWhile Char.isWhitespace ≠ [] := by
  induction t with
  | nil => cases h
  | cons c t ih =>
    by_cases hc : c.isWhitespace = true
    · rw [List.dropWhile_cons_of_pos hc]
      apply ih
      rw [skipDoctype, if_neg, if_neg, if_neg] at h
      · exact h
      · rintro hq
        rcases (by simpa [isQuote] using hq : c = '\x22' ∨ c = '\x27') with rfl | rfl <;>
          exact absurd hc (by decide)
      · rintro rfl
        exact absurd hc (by decide)
      · rintro rfl
        exact absurd hc (by decide)
    · rw [List.dropWhile_cons_of_neg hc]
      exact List.cons_ne_nil c t

theorem dropWhile_append_of_ne_nil {p : Char → Bool} (h : t.dropWhile p ≠ []) (s : Text) :
    (t ++ s).dropWhile p = t.dropWhile p ++ s := by
  rw [List.dropWhile_append, if_neg]
  simpa using h

theorem takeWhile_append_of_ne_nil {p : Char → Bool} (h : t.dropWhile p ≠ []) (s : Text) :
    (t ++ s).takeWhile p = t.takeWhile p := by
  have hlen : (t.takeWhile p).length ≠ t.length := by
    intro hlen
    apply h
    have ht := congrArg List.length (List.takeWhile_append_dropWhile (p := p) (l := t))
    rw [List.length_append] at ht
    exact List.eq_nil_of_length_eq_zero (by omega)
  rw [List.takeWhile_append, if_neg hlen]

theorem doctype_append (h : declaration.doctype t = .ok (token, rest)) (s : Text) :
    declaration.doctype (t ++ s) = .ok (token, rest ++ s) := by
  unfold declaration.doctype at h
  split at h
  · rename_i hword
    have hlen : 7 ≤ t.length := by
      have htake : ((t.take 7).map Char.toLower).length = 7 :=
        congrArg List.length (of_decide_eq_true hword)
      simp only [List.length_map, List.length_take] at htake
      omega
    obtain ⟨rest', hskip, h⟩ := exists_of_bind_eq_ok h
    have hword' : isDoctypeWord (t ++ s) = true := by
      rw [isDoctypeWord, List.take_append_of_le_length hlen]
      exact hword
    have hhead : (((t ++ s).drop 7).dropWhile Char.isWhitespace).head? =
        ((t.drop 7).dropWhile Char.isWhitespace).head? := by
      have hne := dropWhile_ne_nil_of_skipDoctype hskip
      rw [List.drop_append_of_le_length hlen, dropWhile_append_of_ne_nil hne,
        List.head?_append_of_ne_nil _ hne]
    rw [declaration.doctype, if_pos hword', hhead, List.drop_append_of_le_length hlen,
      skipDoctype_append hskip]
    split at h
    · cases h
    · rename_i hname
      obtain ⟨rfl, rfl⟩ := Prod.mk.inj (Except.ok.inj h)
      exact if_neg hname
  · cases h

/-- What has an opening and a mark at its end stands whatever follows. -/
theorem delimited_append {opening mark : Text} {n : Nat} {fault fault' : Fault}
    (f : Text → Token) (hn : opening.length = n) (hmark : mark ≠ [])
    (h : (if opening.isPrefixOf t then
      (cutAt mark fault (t.drop n)).map fun parts => (f parts.1, parts.2)
      else .error fault') = .ok (token, rest)) (s : Text) :
    (if opening.isPrefixOf (t ++ s) then
      (cutAt mark fault ((t ++ s).drop n)).map fun parts => (f parts.1, parts.2)
      else .error fault') = .ok (token, rest ++ s) := by
  split at h
  · rename_i hp
    obtain ⟨parts, hcut, he⟩ := exists_of_map_eq_ok h
    obtain ⟨rfl, rfl⟩ := Prod.mk.inj he
    rw [if_pos (isPrefixOf_append_of_isPrefixOf hp s), drop_append_of_isPrefixOf hp hn,
      cutAt_append_right hmark hcut]
    rfl
  · cases h

theorem declaration_append (h : declaration t = .ok (token, rest)) (s : Text) :
    declaration (t ++ s) = .ok (token, rest ++ s) := by
  cases t with
  | nil => cases h
  | cons c t =>
    unfold declaration at h ⊢
    rw [List.cons_append, List.head?_cons, ← List.cons_append]
    rw [List.head?_cons] at h
    split at h
    · exact delimited_append .cdata rfl (by decide) h s
    · exact delimited_append (fun _ => .aside) rfl (by decide) h s
    · exact doctype_append h s
    · exact doctype_append h s
    · cases h

theorem instruction_append (h : instruction t = .ok (token, rest)) (s : Text) :
    instruction (t ++ s) = .ok (token, rest ++ s) := by
  unfold instruction at h
  split at h
  · cases h
  · rename_i hhead
    obtain ⟨parts, hcut, he⟩ := exists_of_map_eq_ok h
    obtain ⟨rfl, rfl⟩ := Prod.mk.inj he
    have hne : t ≠ [] := List.ne_nil_of_mem (mem_of_cutAt (c := '>') (by decide) hcut)
    rw [instruction, List.head?_append_of_ne_nil _ hne, if_neg hhead]
    dsimp only
    rw [cutAt_append_right (by decide) hcut]
    rfl

theorem markup_append (h : markup t = .ok (token, rest)) (s : Text) :
    markup (t ++ s) = .ok (token, rest ++ s) := by
  unfold markup at h
  split at h
  · cases h
  · exact declaration_append h s
  · exact instruction_append h s
  · obtain ⟨parts, hsplit, he⟩ := exists_of_map_eq_ok h
    obtain ⟨rfl, rfl⟩ := Prod.mk.inj he
    rw [List.cons_append, markup, splitTag_append hsplit]
    rfl
  · rename_i t hnil hbang hquestion hslash
    obtain ⟨parts, hsplit, he⟩ := exists_of_map_eq_ok h
    obtain ⟨rfl, rfl⟩ := Prod.mk.inj he
    obtain ⟨c, t, rfl⟩ := List.exists_cons_of_ne_nil hnil
    rw [markup.eq_5, splitTag_append hsplit]
    · rfl
    · exact fun h => nomatch h
    · rintro t' ⟨rfl, -⟩
      exact hbang t rfl
    · rintro t' ⟨rfl, -⟩
      exact hquestion t rfl
    · rintro t' ⟨rfl, -⟩
      exact hslash t rfl

theorem reference_append (h : reference t = .ok (token, rest)) (s : Text) :
    reference (t ++ s) = .ok (token, rest ++ s) := by
  unfold reference at h
  split at h
  · rename_i rest' hdrop
    obtain ⟨rfl, rfl⟩ := Prod.mk.inj (Except.ok.inj h)
    have hne : t.dropWhile isReferenceCharacter ≠ [] := by
      rw [hdrop]
      exact List.cons_ne_nil _ _
    rw [reference, dropWhile_append_of_ne_nil hne, takeWhile_append_of_ne_nil hne, hdrop]
    rfl
  · cases h

/-- A token of a text is one of a longer text too, except that a run of text at the end goes on. -/
theorem nextToken_append {c : Char} (h : nextToken c t = .ok (token, rest)) (s : Text) :
    nextToken c (t ++ s) = .ok (token, rest ++ s) ∨
      rest = [] ∧ ∃ u v rest', token = .text u ∧ u <+: v ∧
        nextToken c (t ++ s) = .ok (.text v, rest') := by
  unfold nextToken at h ⊢
  split at h
  · rename_i hc
    rw [if_pos hc]
    exact .inl (markup_append h s)
  rename_i hc
  rw [if_neg hc]
  split at h
  · rename_i hc
    rw [if_pos hc]
    exact .inl (reference_append h s)
  rename_i hc
  rw [if_neg hc]
  obtain ⟨rfl, rfl⟩ := Prod.mk.inj (Except.ok.inj h)
  by_cases hrest : t.dropWhile isTextCharacter = []
  · have hall := List.dropWhile_eq_nil_iff.mp hrest
    have hrun : c :: t.takeWhile isTextCharacter <+: c :: (t ++ s).takeWhile isTextCharacter := by
      rw [List.takeWhile_append_of_pos hall, List.prefix_cons_inj]
      exact (List.takeWhile_prefix _).trans (List.prefix_append t _)
    exact .inr ⟨hrest, _, _, _, rfl, hrun, rfl⟩
  · left
    rw [takeWhile_append_of_ne_nil hrest, dropWhile_append_of_ne_nil hrest]

/-- The tokens of a text that is cut short, beside those of the whole. -/
inductive CutShort : List (Except Fault Token) → List (Except Fault Token) → Prop
  | nil {us : List (Except Fault Token)} : CutShort [] us
  | fault {fault : Fault} {us : List (Except Fault Token)} : CutShort [.error fault] us
  | text {u v : Text} {us : List (Except Fault Token)} :
    u <+: v → CutShort [.ok (.text u)] (.ok (.text v) :: us)
  | cons {token : Token} {ts us : List (Except Fault Token)} :
    CutShort ts us → CutShort (.ok token :: ts) (.ok token :: us)

theorem tokens_of_nextToken_error {c : Char} (h : nextToken c t = .error fault) :
    tokens (c :: t) = [.error fault] := by
  rw [tokens]
  split
  · rename_i h'
    rw [h] at h'
    cases h'
    rfl
  · rename_i h'
    rw [h] at h'
    cases h'

theorem cutShort_tokens (t s : Text) : CutShort (tokens t) (tokens (t ++ s)) := by
  -- a token may be long, so the induction is on the length of what is left
  induction hn : t.length using Nat.strong_induction_on generalizing t with
  | h n ih =>
    cases t with
    | nil =>
      rw [tokens]
      exact .nil
    | cons c t =>
      cases hnext : nextToken c t with
      | error fault =>
        rw [tokens_of_nextToken_error hnext]
        exact .fault
      | ok parts =>
        obtain ⟨token, rest⟩ := parts
        rw [tokens_of_nextToken hnext]
        rcases nextToken_append hnext s with hlong | ⟨rfl, u, v, rest', rfl, huv, hlong⟩
        · rw [List.cons_append, tokens_of_nextToken hlong]
          have hlt : rest.length < n := by
            rw [← hn, List.length_cons]
            exact Nat.lt_succ_of_le (nextToken_length hnext)
          exact .cons (ih rest.length hlt rest rfl)
        · rw [List.cons_append, tokens_of_nextToken hlong, tokens]
          exact .text huv

end Xml

end RefSite
