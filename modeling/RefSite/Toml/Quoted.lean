import RefSite.Text.Numeral

namespace RefSite.Toml.Quoted

/-- Control characters besides the tab have to be escaped wherever they stand. -/
def isControl (c : Char) : Bool := c ≠ '\t' && (c.toNat < 32 || c.toNat = 127)

def simpleEscape? (c : Char) : Option Char :=
  if c = 'b' then some '\x08'
  else if c = 't' then some '\t'
  else if c = 'n' then some '\n'
  else if c = 'f' then some '\x0c'
  else if c = 'r' then some '\r'
  else if c = 'e' then some '\x1b'
  else if c = '\x22' || c = '\\' then some c
  else none

def coded? (digits : Text) : Option Char := Text.numeral? 16 digits >>= Text.character?

def codeWidth (c : Char) : Nat :=
  if c = 'x' then 2 else if c = 'u' then 4 else if c = 'U' then 8 else 0

/-- The character of the escape behind a backslash, with what follows it. -/
def escape? : Text → Option (Char × Text)
  | [] => none
  | c :: t =>
    if codeWidth c = 0 then (simpleEscape? c).map (·, t)
    else if t.length < codeWidth c then none
    else (coded? (t.take (codeWidth c))).map (·, t.drop (codeWidth c))

theorem escape?_length {t rest : Text} {c : Char} (h : escape? t = some (c, rest)) :
    rest.length < t.length := by
  cases t with
  | nil => cases h
  | cons d t =>
    simp only [escape?] at h
    split at h
    · obtain ⟨_, -, he⟩ := Option.map_eq_some_iff.mp h
      cases he
      exact Nat.lt_succ_self _
    · split at h
      · cases h
      · obtain ⟨_, -, he⟩ := Option.map_eq_some_iff.mp h
        cases he
        simp only [List.length_drop, List.length_cons]
        omega

def dropBreaks : Text → Text
  | '\r' :: '\n' :: t => dropBreaks t
  | c :: t => if c = ' ' ∨ c = '\t' ∨ c = '\n' then dropBreaks t else c :: t
  | [] => []

theorem dropBreaks_length (t : Text) : (dropBreaks t).length ≤ t.length := by
  fun_induction dropBreaks t with
  | case1 t ih => exact Nat.le_succ_of_le (Nat.le_succ_of_le ih)
  | case2 c t _ _ ih => exact Nat.le_succ_of_le ih
  | case3 => exact Nat.le_refl _
  | case4 => exact Nat.le_refl _

/-- A backslash at the end of a line joins it to the text of a later one. This gives that text,
from what stands behind the backslash. -/
def joined? (t : Text) : Option Text :=
  match t.dropWhile fun c => c = ' ' || c = '\t' with
  | '\n' :: rest => some (dropBreaks rest)
  | '\r' :: '\n' :: rest => some (dropBreaks rest)
  | _ => none

theorem joined?_length {t rest : Text} (h : joined? t = some rest) : rest.length < t.length := by
  have hd := (List.dropWhile_suffix (l := t) fun c => c = ' ' || c = '\t').length_le
  unfold joined? at h
  split at h
  · rename_i r hr
    cases h
    have := dropBreaks_length r
    simp only [hr, List.length_cons] at hd
    omega
  · rename_i r hr
    cases h
    have := dropBreaks_length r
    simp only [hr, List.length_cons] at hd
    omega
  · cases h

/-- The content of a basic string from what is written; a line may end only where several can
stand. -/
def decode? (multiline : Bool) : Text → Option Text
  | [] => some []
  | '\\' :: t =>
    match hj : if multiline then joined? t else none with
    | some rest =>
      have : rest.length < t.length := by
        split at hj
        · exact joined?_length hj
        · cases hj
      decode? multiline rest
    | none =>
      match he : escape? t with
      | some (c, rest) =>
        have := escape?_length he
        (decode? multiline rest).map (c :: ·)
      | none => none
  | '\r' :: '\n' :: t =>
    if multiline then (decode? multiline t).map fun s => '\r' :: '\n' :: s else none
  | c :: t =>
    if isControl c && !(multiline && c = '\n') then none
    else (decode? multiline t).map (c :: ·)
termination_by t => t.length
decreasing_by all_goals simp only [List.length_cons]; omega

/-- A literal string is its own content. -/
def literal? (multiline : Bool) : Text → Option Text
  | [] => some []
  | '\r' :: '\n' :: t =>
    if multiline then (literal? multiline t).map fun s => '\r' :: '\n' :: s else none
  | c :: t =>
    if isControl c && !(multiline && c = '\n') then none
    else (literal? multiline t).map (c :: ·)

/-- Cuts at the first `mark`; what stands behind a backslash does not begin one. -/
def cutUnescaped? (mark : Text) : Text → Option (Text × Text)
  | [] => none
  | ['\\'] => none
  | '\\' :: c :: t => (cutUnescaped? mark t).map fun (head, rest) => ('\\' :: c :: head, rest)
  | c :: t =>
    if mark.isPrefixOf (c :: t) then some ([], (c :: t).drop mark.length)
    else (cutUnescaped? mark t).map fun (head, rest) => (c :: head, rest)

theorem cutUnescaped?_length {mark t head rest : Text} (nonempty : 0 < mark.length)
    (h : cutUnescaped? mark t = some (head, rest)) : rest.length < t.length := by
  fun_induction cutUnescaped? mark t generalizing head with
  | case1 => cases h
  | case2 => cases h
  | case3 c t ih =>
    obtain ⟨⟨head', rest'⟩, ht, he⟩ := Option.map_eq_some_iff.mp h
    cases he
    exact Nat.lt_succ_of_lt (Nat.lt_succ_of_lt (ih ht))
  | case4 c t _ _ _ =>
    cases h
    simp only [List.length_drop, List.length_cons]
    omega
  | case5 c t _ _ _ ih =>
    obtain ⟨⟨head', rest'⟩, ht, he⟩ := Option.map_eq_some_iff.mp h
    cases he
    exact Nat.lt_succ_of_lt (ih ht)

/-- Up to two more quotes behind three closing ones belong to the content. -/
def spill (quote : Char) : Text → Text × Text
  | a :: b :: t =>
    if a = quote ∧ b = quote then ([quote, quote], t)
    else if a = quote then ([quote], b :: t)
    else ([], a :: b :: t)
  | [a] => if a = quote then ([quote], []) else ([], [a])
  | [] => ([], [])

theorem spill_length (quote : Char) (t : Text) : (spill quote t).2.length ≤ t.length := by
  fun_cases spill quote t <;> simp +arith

/-- A line break behind the opening quotes does not count. -/
def dropFirstBreak : Text → Text
  | '\n' :: t => t
  | '\r' :: '\n' :: t => t
  | t => t

/-- Cuts at the closing mark of a string; only basic strings, in double quotes, have escapes. -/
def cut? (quote : Char) (mark t : Text) : Option (Text × Text) :=
  if quote = '\x22' then cutUnescaped? mark t else Text.cut? mark t

theorem cut?_length {quote : Char} {mark t head rest : Text} (nonempty : 0 < mark.length)
    (h : cut? quote mark t = some (head, rest)) : rest.length < t.length := by
  unfold cut? at h
  split at h
  · exact cutUnescaped?_length nonempty h
  · exact Text.cut?_length nonempty h

def content? (quote : Char) (multiline : Bool) (written : Text) : Option Text :=
  if quote = '\x22' then decode? multiline written else literal? multiline written

def single? (quote : Char) (t : Text) : Option (Text × Text) := do
  let (written, rest) ← cut? quote [quote] t
  let content ← content? quote false written
  some (content, rest)

/-- Text in tripled quotes, from what stands behind the first three. -/
def tripled? (quote : Char) (t : Text) : Option (Text × Text) := do
  let (written, rest) ← cut? quote [quote, quote, quote] t
  let (more, rest) := spill quote rest
  let content ← content? quote true (dropFirstBreak (written ++ more))
  some (content, rest)

theorem single?_length {quote : Char} {t content rest : Text}
    (h : single? quote t = some (content, rest)) : rest.length < t.length := by
  obtain ⟨⟨written, r⟩, hcut, h⟩ := Option.bind_eq_some_iff.mp h
  obtain ⟨content', -, he⟩ := Option.bind_eq_some_iff.mp h
  cases he
  exact cut?_length (by simp) hcut

theorem tripled?_length {quote : Char} {t content rest : Text}
    (h : tripled? quote t = some (content, rest)) : rest.length < t.length := by
  obtain ⟨⟨written, r⟩, hcut, h⟩ := Option.bind_eq_some_iff.mp h
  obtain ⟨content', -, he⟩ := Option.bind_eq_some_iff.mp h
  cases he
  exact Nat.lt_of_le_of_lt (spill_length quote r) (cut?_length (by simp) hcut)

def text? (quote : Char) : Text → Option (Text × Text)
  | a :: b :: t =>
    if a = quote ∧ b = quote then tripled? quote t else single? quote (a :: b :: t)
  | t => single? quote t

theorem text?_length {quote : Char} {t content rest : Text}
    (h : text? quote t = some (content, rest)) : rest.length < t.length := by
  unfold text? at h
  split at h
  · split at h
    · exact Nat.lt_succ_of_lt (Nat.lt_succ_of_lt (tripled?_length h))
    · exact single?_length h
  · exact single?_length h

end RefSite.Toml.Quoted
