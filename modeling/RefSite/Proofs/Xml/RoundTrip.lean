import Mathlib.Data.List.Permutation
import RefSite.Proofs.Xml.Tag

namespace RefSite.Xml

variable {t rest : Text}

theorem cutAt_append (mark : Text) {m : Text} {e : Char} (hm : mark = m ++ [e]) (last : e ∉ m)
    (fault : Fault) (ht : ¬ mark <:+: t) (rest : Text) :
    cutAt mark fault (t ++ (mark ++ rest)) = .ok (t, rest) := by
  rw [cutAt, Text.cut?_append hm last ht]

/-- Comments and processing instructions leave a token that says nothing. -/
theorem Aside.tokens {a : Text} (h : Aside a) (rest : Text) :
    tokens (a ++ rest) = .ok .aside :: tokens rest := by
  cases h with
  | @comment t ht =>
    have hm : markup ("!--" ++ (t ++ ("-->" ++ rest))) = .ok (.aside, rest) := by
      have hd : markup ("!--" ++ (t ++ ("-->" ++ rest))) =
          (cutAt "-->" .commentNotClosed (t ++ ("-->" ++ rest))).map fun parts =>
            (.aside, parts.2) := rfl
      rw [hd, cutAt_append "-->" (m := ['-', '-']) (e := '>') rfl (by decide) _ ht]
      rfl
    simpa using tokens_of_markup hm
  | @instruction t ht hne =>
    have hh : (t ++ ("?>" ++ rest)).head? ≠ some '>' := by
      cases t with
      | nil => simp
      | cons c t => exact hne
    have hm : markup ('?' :: (t ++ ("?>" ++ rest))) = .ok (.aside, rest) := by
      simp only [markup, Xml.instruction, if_neg hh]
      rw [cutAt_append "?>" (m := ['?']) (e := '>') rfl (by decide) _ ht]
      rfl
    simpa using tokens_of_markup hm

theorem tokens_cdata (ht : ¬ "]]>".toList <:+: t) (rest : Text) :
    tokens ("<![CDATA[" ++ t ++ "]]>" ++ rest) = .ok (.cdata t) :: tokens rest := by
  have hm : markup ("![CDATA[" ++ (t ++ ("]]>" ++ rest))) = .ok (.cdata t, rest) := by
    have hd : markup ("![CDATA[" ++ (t ++ ("]]>" ++ rest))) =
        (cutAt "]]>" .cdataNotClosed (t ++ ("]]>" ++ rest))).map fun parts =>
          (.cdata parts.1, parts.2) := rfl
    rw [hd, cutAt_append "]]>" (m := [']', ']']) (e := '>') rfl (by decide) _ ht]
    rfl
  simpa using tokens_of_markup hm

theorem tokens_reference {name : Text} (h : ∀ c ∈ name, isReferenceCharacter c = true)
    (rest : Text) :
    tokens ('&' :: name ++ [';'] ++ rest) = .ok (.reference name) :: tokens rest := by
  have hr : reference (name ++ ';' :: rest) = .ok (.reference name, rest) := by
    simp only [reference, dropWhile_of_stop h (show isReferenceCharacter ';' = false by decide),
      takeWhile_of_stop h (show isReferenceCharacter ';' = false by decide)]
  have hn : nextToken '&' (name ++ ';' :: rest) = .ok (.reference name, rest) := by
    rw [nextToken, if_neg (by decide), if_pos rfl, hr]
  simpa using tokens_of_nextToken hn

namespace Frame

/-- What a frame holds after a text and the elements behind it. -/
def addContent (f : Frame) (s : Text) (es : List Element) : Frame :=
  { f.addText s with children := es.reverse ++ (f.addText s).children }

theorem addText_nil (f : Frame) : f.addText [] = f := by
  obtain ⟨tag, attributes, text, _ | ⟨⟨_⟩, _⟩⟩ := f <;> simp [addText]

theorem addText_append (f : Frame) (s t : Text) :
    f.addText (s ++ t) = (f.addText s).addText t := by
  obtain ⟨tag, attributes, text, _ | ⟨⟨_⟩, _⟩⟩ := f <;> simp [addText]

theorem addContent_nil (f : Frame) : f.addContent [] [] = f := by
  simp [addContent, addText_nil]

theorem addContent_append (f : Frame) (s t : Text) (es : List Element) :
    f.addContent (s ++ t) es = (f.addText s).addContent t es := by
  simp [addContent, addText_append]

/-- The text behind a child becomes its tail. -/
theorem addContent_child (f : Frame) (e : Element) (es : List Element) :
    f.addContent [] (e :: es) = (f.addChild { e with tail := [] }).addContent e.tail es := by
  obtain ⟨_⟩ := e
  simp only [addContent, addText_nil]
  simp [addText, addChild]

theorem close_addContent (tag s : Text) (attributes : Attributes) (es : List Element) :
    (({ tag, attributes } : Frame).addContent s es).close = ⟨tag, attributes, s, es, []⟩ := by
  simp [addContent, addText, close]

end Frame

/-- A character of running text goes to the frame, on its own or with those behind it. -/
theorem readInside_text {c : Char} (hc : isTextCharacter c = true) (f : Frame)
    (outer : List Frame) (t : Text) :
    readInside f outer (tokens (c :: t)) = readInside (f.addText [c]) outer (tokens t) := by
  rw [tokens_text hc, readInside]
  cases t with
  | nil => rfl
  | cons d t =>
    cases hd : isTextCharacter d with
    | true =>
      rw [List.takeWhile_cons_of_pos hd, List.dropWhile_cons_of_pos hd, tokens_text hd, readInside,
        ← Frame.addText_append]
      rfl
    | false =>
      rw [List.takeWhile_cons_of_neg (by simp [hd]), List.dropWhile_cons_of_neg (by simp [hd])]

theorem Piece.inside {s p : Text} (h : Piece s p) (f : Frame) (outer : List Frame) (rest : Text) :
    readInside f outer (tokens (p ++ rest)) = readInside (f.addText s) outer (tokens rest) := by
  cases h with
  | literal hlt hamp =>
    exact readInside_text (by simp [isTextCharacter, hlt, hamp]) f outer rest
  | reference hn =>
    rw [tokens_reference hn.isReferenceCharacter, readInside, hn.decodeReference]
  | cdata ht => rw [tokens_cdata ht, readInside]
  | aside ha => rw [ha.tokens, readInside, Frame.addText_nil]

/-- The end tag closes the element whose content has been read. -/
theorem readInside_stop {tag s w : Text} (hn : IsName tag) (hw : IsSpace w) (f : Frame)
    (outer : List Frame) (as : Attributes) (es : List Element) (rest : Text) :
    readInside (({ tag, attributes := as } : Frame).addContent s es) (f :: outer)
        (tokens ("</" ++ tag ++ w ++ ">" ++ rest)) =
      readInside (f.addChild ⟨tag, as, s, es, []⟩) outer (tokens rest) := by
  rw [tokens_stop hn hw, readInside, Frame.close_addContent]
  exact if_pos rfl

mutual

/-- A written element is read inside of another as its next child. -/
theorem Written.inside {e : Element} {w : Text} (h : Written (· ≠ '\x00') e w)
    (proper : e.Proper) :
    ∃ e' : Element, e'.Same e ∧ ∀ (f : Frame) (outer : List Frame) (rest : Text),
      readInside f outer (tokens (w ++ rest)) =
        readInside (f.addChild { e' with tail := [] }) outer (tokens rest) := by
  match h, proper with
  | .empty htag, .mk hn hp _ =>
    obtain ⟨bs, perm, ht⟩ := htag.empty hn hp
    refine ⟨⟨_, bs, [], [], _⟩, .mk perm .nil, ?_⟩
    intro f outer rest
    rw [ht, readInside]
  | .full htag hc hw, .mk hn hp hes =>
    obtain ⟨bs, perm, ht⟩ := htag.start hn hp
    obtain ⟨es', same, hin⟩ := hc.inside hes
    refine ⟨⟨_, bs, _, es', _⟩, .mk perm same, ?_⟩
    intro f outer rest
    have hstop := fun s => readInside_stop (s := s) hn hw f outer bs es' rest
    simp only [List.append_assoc, List.cons_append] at ht hstop ⊢
    rw [ht, readInside, hin, hstop]

theorem WrittenContent.inside {s t : Text} {es : List Element}
    (h : WrittenContent (· ≠ '\x00') s es t) (proper : ∀ e ∈ es, e.Proper) :
    ∃ es' : List Element, List.Forall₂ Element.Same es' es ∧
      ∀ (f : Frame) (outer : List Frame) (rest : Text),
        readInside f outer (tokens (t ++ rest)) =
          readInside (f.addContent s es') outer (tokens rest) := by
  match h with
  | .nil => exact ⟨[], .nil, fun f outer rest => by rw [Frame.addContent_nil, List.nil_append]⟩
  | .piece hp hc =>
    obtain ⟨es', same, hin⟩ := hc.inside proper
    refine ⟨es', same, ?_⟩
    intro f outer rest
    rw [List.append_assoc, hp.inside, hin, Frame.addContent_append]
  | .child he hc =>
    obtain ⟨e', same, hin⟩ := he.inside (proper _ List.mem_cons_self)
    obtain ⟨es', sames, hins⟩ := hc.inside fun e he => proper e (List.mem_cons_of_mem _ he)
    refine ⟨e' :: es', .cons same sames, ?_⟩
    intro f outer rest
    rw [List.append_assoc, hin, hins, Frame.addContent_child, same.tail_eq]

end

theorem readRoot_text_token (s : Text) (ts : List (Except Fault Token)) :
    readRoot (.ok (.text s) :: ts) = readRoot ts := rfl

theorem readRoot_aside_token (ts : List (Except Fault Token)) :
    readRoot (.ok .aside :: ts) = readRoot ts := rfl

/-- Text before the root element is passed over, character by character. -/
theorem readRoot_text {c : Char} (hc : isTextCharacter c = true) (t : Text) :
    readRoot (tokens (c :: t)) = readRoot (tokens t) := by
  rw [tokens_text hc, readRoot_text_token]
  cases t with
  | nil => rfl
  | cons d t =>
    cases hd : isTextCharacter d with
    | true =>
      rw [List.dropWhile_cons_of_pos hd, tokens_text hd, readRoot_text_token]
    | false => rw [List.dropWhile_cons_of_neg (by simp [hd])]

theorem readRoot_dropMark (t : Text) : readRoot (tokens (dropMark t)) = readRoot (tokens t) := by
  unfold dropMark
  split
  · exact (readRoot_text (by decide) _).symm
  · rfl

/-- Byte order marks are no different from other text before the root. -/
theorem read_eq (t : Text) : read t = readRoot (tokens t) := by
  rw [read, readRoot_dropMark, readRoot_dropMark]

theorem isTextCharacter_of_isBlank {c : Char} (h : Text.isBlank c = true) :
    isTextCharacter c = true := by
  cases hc : isTextCharacter c with
  | true => rfl
  | false =>
    have hs : c = '&' ∨ c = '<' := by
      simp only [isTextCharacter, Bool.and_eq_false_iff, decide_eq_false_iff_not, not_not] at hc
      exact hc
    rcases hs with rfl | rfl <;> exact absurd h (by decide)

theorem Prolog.root {p : Text} (h : Prolog p) (rest : Text) :
    readRoot (tokens (p ++ rest)) = readRoot (tokens rest) := by
  induction h with
  | nil => rfl
  | space hc _ ih => rw [List.cons_append, readRoot_text (isTextCharacter_of_isBlank hc), ih]
  | aside ha _ ih => rw [List.append_assoc, ha.tokens, readRoot_aside_token, ih]

theorem Written.root {e : Element} {w : Text} (h : Written (· ≠ '\x00') e w) (proper : e.Proper)
    (tail : e.tail = []) (rest : Text) :
    ∃ e' : Element, e'.Same e ∧ readRoot (tokens (w ++ rest)) = .ok e' := by
  cases h with
  | @empty tag _ _ _ htag =>
    obtain ⟨hn, hp, -⟩ := proper
    obtain ⟨bs, perm, ht⟩ := htag.empty hn hp
    obtain rfl : _ = [] := tail
    refine ⟨⟨tag, bs, [], [], []⟩, .mk perm .nil, ?_⟩
    rw [ht, readRoot]
  | @full tag t s c w _ as es htag hc hw =>
    obtain ⟨hn, hp, hes⟩ := proper
    obtain ⟨bs, perm, ht⟩ := htag.start hn hp
    obtain ⟨es', same, hin⟩ := hc.inside hes
    obtain rfl : _ = [] := tail
    refine ⟨⟨tag, bs, s, es', []⟩, .mk perm same, ?_⟩
    have hstop := tokens_stop hn hw rest
    simp only [List.append_assoc, List.cons_append] at ht hstop ⊢
    rw [ht, readRoot, hin, hstop, readInside, Frame.close_addContent]
    exact if_pos rfl

/-- Reading undoes writing, as long as no attribute value has the character zero by reference. -/
theorem read_written {e : Element} {t : Text} (proper : e.Proper) (tail : e.tail = [])
    (h : WrittenDocument (· ≠ '\x00') e t) : ∃ e' : Element, read t = .ok e' ∧ e'.Same e := by
  cases h with
  | mk hmark hprolog hw =>
    rename_i mark p w rest
    obtain ⟨e', same, hroot⟩ := hw.root proper tail rest
    refine ⟨e', ?_, same⟩
    have hm : readRoot (tokens (mark ++ (p ++ (w ++ rest)))) =
        readRoot (tokens (p ++ (w ++ rest))) := by
      rcases hmark with rfl | rfl
      · rfl
      · exact readRoot_text (by decide) _
    rw [read_eq, List.append_assoc, List.append_assoc, hm, hprolog.root, hroot]

/-- Comments, references and child elements between the pieces of a text. -/
theorem read_written_mixed :
    ∃ e' : Element, read "<!--x--><a b='&lt;'>t<c/>&#65;</a >".toList = .ok e' ∧
      e'.Same ⟨"a", [("b", "<")], "t", [⟨"c", [], [], [], "A"⟩], []⟩ := by
  have ha : IsName "a" := isName_singleton (by decide +kernel)
  have hb : IsName "b" := isName_singleton (by decide +kernel)
  have hc : IsName "c" := isName_singleton (by decide +kernel)
  have plain : ProperAttributes [] := ⟨by simp, by simp, List.nodup_nil⟩
  have proper : Element.Proper ⟨"a", [("b", "<")], "t", [⟨"c", [], [], [], "A"⟩], []⟩ := by
    refine .mk ha ⟨?_, ?_, by decide⟩ ?_
    · simpa using hb
    · decide
    · intro e he
      obtain rfl := List.mem_singleton.mp he
      exact .mk hc plain (by simp)
  have value : WrittenValue (· ≠ '\x00') '\x27' "<" "&lt;" :=
    .reference (by decide) .lt .nil
  have attributes : WrittenAttributes (· ≠ '\x00') [("b", "<")] " b='&lt;'" :=
    @WrittenAttributes.cons _ " " "" "" "b" _ _ "" '\x27' [] (by decide) (by decide) (by decide) rfl
      value (.nil (by decide))
  have start : WrittenTag (· ≠ '\x00') "a" [("b", "<")] "a b='&lt;'" :=
    .mk (.refl _) attributes (by rintro c ⟨⟩; rfl)
  have child : Written (· ≠ '\x00') ⟨"c", [], [], [], "A"⟩ "<c/>" :=
    .empty (.mk (.refl _) (.nil (w := []) (by decide)) (by simp))
  have digits : Numeral 10 "65" 65 := .snoc (t := "6") (n := 6) (d := 5) (.digit rfl) rfl
  have tail : WrittenContent (· ≠ '\x00') "A" [] "&#65;" :=
    .piece (.reference (c := 'A') (.decimal digits)) .nil
  have content : WrittenContent (· ≠ '\x00') "t" [⟨"c", [], [], [], "A"⟩] "t<c/>&#65;" :=
    .piece (.literal (by decide) (by decide)) (.child child tail)
  have root : Written (· ≠ '\x00') ⟨"a", [("b", "<")], "t", [⟨"c", [], [], [], "A"⟩], []⟩
      "<a b='&lt;'>t<c/>&#65;</a >" :=
    .full (w := " ") start content (by decide)
  have prolog : Prolog "<!--x-->" := .aside (.comment (t := "x") (by decide)) .nil
  exact read_written proper rfl (@WrittenDocument.mk _ _ [] _ _ [] (.inl rfl) prolog root)

/-- The character zero cannot be had by reference: the reference stays as it is written. -/
theorem exists_written_not_read :
    ∃ (e : Element) (t : Text), e.Proper ∧ e.tail = [] ∧ WrittenDocument (fun _ => True) e t ∧
      ¬ ∃ e' : Element, read t = .ok e' ∧ e'.Same e := by
  have ha : IsName "a" := isName_singleton (by decide +kernel)
  have hb : IsName "b" := isName_singleton (by decide +kernel)
  have value : WrittenValue (fun _ => True) '\x27' "\x00" "&#0;" :=
    .reference trivial (.decimal (t := "0") (.digit rfl)) .nil
  have attributes : WrittenAttributes (fun _ => True) [("b", "\x00")] " b='&#0;'" :=
    @WrittenAttributes.cons _ " " "" "" "b" _ _ "" '\x27' [] (by decide) (by decide) (by decide) rfl
      value (.nil (by decide))
  have root : Written (fun _ => True) ⟨"a", [("b", "\x00")], [], [], []⟩ "<a b='&#0;'/>" :=
    .empty (.mk (.refl _) attributes (by rintro c ⟨⟩; rfl))
  have hread : read "<a b='&#0;'/>".toList = .ok ⟨"a", [("b", "&#0;")], [], [], []⟩ := by cbv
  refine ⟨⟨"a", [("b", "\x00")], [], [], []⟩, "<a b='&#0;'/>", ?_, rfl,
    @WrittenDocument.mk _ _ [] [] _ [] (.inl rfl) .nil root, ?_⟩
  · exact .mk ha ⟨by simpa using hb, by decide, by decide⟩ (by simp)
  · rintro ⟨e', he, same⟩
    obtain rfl := Except.ok.inj (hread.symm.trans he)
    cases same with
    | mk perm _ => exact absurd (List.perm_singleton.mp perm) (by decide)

end RefSite.Xml
