import RefSite.Xml.Attribute
import RefSite.Xml.Fault

namespace RefSite.Xml

inductive Token
  | start (tag : Text) (attributes : Attributes)
  | empty (tag : Text) (attributes : Attributes)
  | stop (tag : Text)
  | text (t : Text)
  | reference (name : Text)
  | cdata (t : Text)
  | aside
  deriving DecidableEq, Repr

theorem exists_of_map_eq_ok {ε α β : Type} {x : Except ε α} {f : α → β} {b : β}
    (h : x.map f = .ok b) : ∃ a, x = .ok a ∧ f a = b := by
  cases x with
  | error e => cases h
  | ok a => exact ⟨a, rfl, Except.ok.inj h⟩

theorem exists_of_bind_eq_ok {ε α β : Type} {x : Except ε α} {f : α → Except ε β} {b : β}
    (h : x >>= f = .ok b) : ∃ a, x = .ok a ∧ f a = .ok b := by
  cases x with
  | error e => cases h
  | ok a => exact ⟨a, rfl, h⟩

/-- Splits a tag from what follows its `>`; a `>` between quotes does not end it. The first
argument is the quote that is open. -/
def splitTag : Option Char → Text → Except Fault (Text × Text)
  | none, [] => .error .tagNotClosed
  | some quote, [] => .error (.valueNotClosed quote)
  | none, c :: t =>
    if c = '>' then .ok ([], t)
    else (splitTag (if isQuote c then some c else none) t).map fun parts => (c :: parts.1, parts.2)
  | some quote, c :: t =>
    (splitTag (if c = quote then none else some quote) t).map fun parts => (c :: parts.1, parts.2)

theorem splitTag_length {quote : Option Char} {t : Text} {parts : Text × Text}
    (h : splitTag quote t = .ok parts) : parts.2.length < t.length := by
  induction t generalizing quote parts with
  | nil => cases quote <;> cases h
  | cons c t ih =>
    cases quote with
    | some quote =>
      obtain ⟨parts', ht, rfl⟩ := exists_of_map_eq_ok h
      have := ih ht
      exact Nat.lt_succ_of_lt this
    | none =>
      rw [splitTag] at h
      split at h
      · cases h
        exact Nat.lt_succ_self _
      · obtain ⟨parts', ht, rfl⟩ := exists_of_map_eq_ok h
        have := ih ht
        exact Nat.lt_succ_of_lt this

/-- A tag with the name up to the first white space; a slash at its end makes it an empty element. -/
def openingToken (tag : Text) : Token :=
  match tag.reverse with
  | '/' :: inner =>
    .empty (name inner.reverse) (attributesOf (inner.reverse.dropWhile (!·.isWhitespace)))
  | _ => .start (name tag) (attributesOf (tag.dropWhile (!·.isWhitespace)))
where
  name (tag : Text) : Text := tag.takeWhile (!·.isWhitespace)

/-- The name in an end tag: white space behind it does not count, unless there is nothing else. -/
def closingName (tag : Text) : Text :=
  match tag.reverse.dropWhile Char.isWhitespace with
  | [] => tag
  | name => name.reverse

def cutAt (mark : Text) (fault : Fault) (t : Text) : Except Fault (Text × Text) :=
  match Text.cut? mark t with
  | some parts => .ok parts
  | none => .error fault

theorem cutAt_length {mark : Text} {fault : Fault} {t : Text} {parts : Text × Text}
    (nonempty : 0 < mark.length) (h : cutAt mark fault t = .ok parts) :
    parts.2.length < t.length := by
  unfold cutAt at h
  split at h
  · rename_i hc
    cases h
    exact Text.cut?_length nonempty hc
  · cases h

theorem length_lt_of_drop {t rest : Text} {n : Nat} (h : rest.length < (t.drop n).length) :
    rest.length < t.length := by
  rw [List.length_drop] at h
  omega

/-- The text behind one declaration in the brackets of a document type. Quotes count in those that
may hold strings. -/
def skipDeclaration (t : Text) : Except Fault Text :=
  if "!--".toList.isPrefixOf t then (cutAt "-->" .doctypeNotClosed (t.drop 3)).map Prod.snd
  else if "?".toList.isPrefixOf t then (cutAt "?>" .doctypeNotClosed (t.drop 1)).map Prod.snd
  else if ["!ENTITY", "!ATTLIST", "!NOTATION"].any (·.toList.isPrefixOf t) then
    match splitTag none t with
    | .ok parts => .ok parts.2
    | .error _ => .error .doctypeNotClosed
  else (cutAt ">" .doctypeNotClosed t).map Prod.snd

theorem skipDeclaration_length {t rest : Text} (h : skipDeclaration t = .ok rest) :
    rest.length < t.length := by
  unfold skipDeclaration at h
  split at h
  · obtain ⟨parts, hc, rfl⟩ := exists_of_map_eq_ok h
    exact length_lt_of_drop (cutAt_length (by decide) hc)
  split at h
  · obtain ⟨parts, hc, rfl⟩ := exists_of_map_eq_ok h
    exact length_lt_of_drop (cutAt_length (by decide) hc)
  split at h
  · split at h
    · rename_i hs
      cases h
      exact splitTag_length hs
    · cases h
  · obtain ⟨parts, hc, rfl⟩ := exists_of_map_eq_ok h
    exact cutAt_length (by decide) hc

/-- The text behind the brackets of a document type. -/
def skipSubset (t : Text) : Except Fault Text :=
  match t with
  | [] => .error .doctypeNotClosed
  | c :: t =>
    if c = ']' then .ok t
    else if c = '<' then
      match h : skipDeclaration t with
      | .error fault => .error fault
      | .ok rest =>
        have := skipDeclaration_length h
        skipSubset rest
    else skipSubset t
termination_by t.length

theorem skipSubset_length {t rest : Text} (h : skipSubset t = .ok rest) :
    rest.length < t.length := by
  fun_induction skipSubset t with
  | case1 => cases h
  | case2 => cases h; exact Nat.lt_succ_self _
  | case3 => cases h
  | case4 t next hd hl _ ih => exact Nat.lt_trans (ih h) (Nat.lt_succ_of_lt hl)
  | case5 c t _ _ ih => exact Nat.lt_succ_of_lt (ih h)

/-- The text behind a document type: its `>` stands outside quotes and brackets. -/
def skipDoctype : Option Char → Text → Except Fault Text
  | _, [] => .error .doctypeNotClosed
  | some quote, c :: t => skipDoctype (if c = quote then none else some quote) t
  | none, c :: t =>
    if c = '>' then .ok t
    else if c = '[' then
      skipSubset t >>= fun t => (cutAt ">" .doctypeNotClosed t).map Prod.snd
    else skipDoctype (if isQuote c then some c else none) t

theorem skipDoctype_length {quote : Option Char} {t rest : Text}
    (h : skipDoctype quote t = .ok rest) : rest.length < t.length := by
  induction t generalizing quote with
  | nil => cases quote <;> cases h
  | cons c t ih =>
    cases quote with
    | some quote => exact Nat.lt_succ_of_lt (ih h)
    | none =>
      rw [skipDoctype] at h
      split at h
      · cases h
        exact Nat.lt_succ_self _
      split at h
      · obtain ⟨t', hs, h⟩ := exists_of_bind_eq_ok h
        obtain ⟨parts, hc, rfl⟩ := exists_of_map_eq_ok h
        have := skipSubset_length hs
        have := cutAt_length (by decide) hc
        simp only [List.length_cons]
        omega
      · exact Nat.lt_succ_of_lt (ih h)

def isDoctypeWord (t : Text) : Bool := (t.take 7).map Char.toLower = "doctype".toList

def declaration (t : Text) : Except Fault (Token × Text) :=
  match t.head? with
  | some '[' =>
    if "[CDATA[".toList.isPrefixOf t then
      (cutAt "]]>" .cdataNotClosed (t.drop 7)).map fun parts => (.cdata parts.1, parts.2)
    else .error .cdataNotClosed
  | some '-' =>
    if "--".toList.isPrefixOf t then
      (cutAt "-->" .commentNotClosed (t.drop 2)).map fun parts => (.aside, parts.2)
    else .error .commentNotClosed
  | some 'D' => doctype t
  | some 'd' => doctype t
  | _ => .error .unknownMarkup
where
  doctype (t : Text) : Except Fault (Token × Text) :=
    if isDoctypeWord t then
      skipDoctype none (t.drop 7) >>= fun rest =>
        if ((t.drop 7).dropWhile Char.isWhitespace).head? = some '>' then
          .error .doctypeWithoutName
        else .ok (.aside, rest)
    else .error .doctypeNotClosed

theorem declaration_length {t rest : Text} {token : Token}
    (h : declaration t = .ok (token, rest)) : rest.length < t.length := by
  have doctype : declaration.doctype t = .ok (token, rest) → rest.length < t.length := by
    intro h
    unfold declaration.doctype at h
    split at h
    · obtain ⟨rest', hd, h⟩ := exists_of_bind_eq_ok h
      split at h
      · cases h
      · cases h
        exact length_lt_of_drop (skipDoctype_length hd)
    · cases h
  unfold declaration at h
  split at h
  · split at h
    · obtain ⟨parts, hc, he⟩ := exists_of_map_eq_ok h
      cases he
      exact length_lt_of_drop (cutAt_length (by decide) hc)
    · cases h
  · split at h
    · obtain ⟨parts, hc, he⟩ := exists_of_map_eq_ok h
      cases he
      exact length_lt_of_drop (cutAt_length (by decide) hc)
    · cases h
  · exact doctype h
  · exact doctype h
  · cases h

def isXmlDeclaration (t : Text) : Bool :=
  "xml".toList.isPrefixOf t && (t.drop 3).head?.all fun c => c.isWhitespace || c = '?'

/-- A token that begins with `<?`. -/
def instruction (t : Text) : Except Fault (Token × Text) :=
  if t.head? = some '>' then .error .instructionNotClosed
  else
    let fault := if isXmlDeclaration t then .declarationNotClosed else .instructionNotClosed
    (cutAt "?>" fault t).map fun parts => (.aside, parts.2)

theorem instruction_length {t rest : Text} {token : Token}
    (h : instruction t = .ok (token, rest)) : rest.length < t.length := by
  unfold instruction at h
  split at h
  · cases h
  · obtain ⟨parts, hc, he⟩ := exists_of_map_eq_ok h
    cases he
    exact cutAt_length (by decide) hc

def markup (t : Text) : Except Fault (Token × Text) :=
  match t with
  | [] => .error .tagNotClosed
  | '!' :: t => declaration t
  | '?' :: t => instruction t
  | '/' :: t => (splitTag none t).map fun parts => (.stop (closingName parts.1), parts.2)
  | t => (splitTag none t).map fun parts => (openingToken parts.1, parts.2)

theorem markup_length {t rest : Text} {token : Token}
    (h : markup t = .ok (token, rest)) : rest.length < t.length := by
  unfold markup at h
  split at h
  · cases h
  · exact Nat.lt_succ_of_lt (declaration_length h)
  · exact Nat.lt_succ_of_lt (instruction_length h)
  · obtain ⟨parts, hs, he⟩ := exists_of_map_eq_ok h
    cases he
    exact Nat.lt_succ_of_lt (splitTag_length hs)
  · obtain ⟨parts, hs, he⟩ := exists_of_map_eq_ok h
    cases he
    exact splitTag_length hs

def isReferenceCharacter (c : Char) : Bool := c ≠ ';' && c ≠ '&' && c ≠ '<'

def reference (t : Text) : Except Fault (Token × Text) :=
  match t.dropWhile isReferenceCharacter with
  | ';' :: rest => .ok (.reference (t.takeWhile isReferenceCharacter), rest)
  | _ => .error .referenceNotClosed

def isTextCharacter (c : Char) : Bool := c ≠ '&' && c ≠ '<'

def nextToken (c : Char) (t : Text) : Except Fault (Token × Text) :=
  if c = '<' then markup t
  else if c = '&' then reference t
  else .ok (.text (c :: t.takeWhile isTextCharacter), t.dropWhile isTextCharacter)

theorem nextToken_length {c : Char} {t rest : Text} {token : Token}
    (h : nextToken c t = .ok (token, rest)) : rest.length ≤ t.length := by
  unfold nextToken at h
  split at h
  · exact Nat.le_of_lt (markup_length h)
  split at h
  · unfold reference at h
    split at h
    · rename_i hd
      cases h
      exact Nat.le_of_lt (length_lt_of_dropWhile hd)
    · cases h
  · cases h
    exact length_dropWhile_le _ _

/-- The tokens of a text, up to its end or to the first fault. -/
def tokens (t : Text) : List (Except Fault Token) :=
  match t with
  | [] => []
  | c :: t =>
    match h : nextToken c t with
    | .error fault => [.error fault]
    | .ok (token, rest) =>
      have := nextToken_length h
      .ok token :: tokens rest
termination_by t.length

end RefSite.Xml
