import RefSite.Toml.Quoted
import RefSite.Toml.Scalar
import RefSite.Toml.Table

namespace RefSite.Toml

/-- What a reader takes off the front of a text. -/
structure Taken (α : Type) (t : Text) where
  value : α
  rest : Text
  shorter : rest.length < t.length

def isBlank (c : Char) : Bool := c = ' ' || c = '\t'

def dropBlanks (t : Text) : Text := t.dropWhile isBlank

theorem dropBlanks_length (t : Text) : (dropBlanks t).length ≤ t.length :=
  (List.dropWhile_suffix _).length_le

def endsLine (c : Char) : Bool := c = '\n' || c = '\r'

def dropComment : Text → Text
  | '#' :: t =>
    if (t.takeWhile (!endsLine ·)).any Quoted.isControl then '#' :: t else t.dropWhile (!endsLine ·)
  | t => t

theorem dropComment_length (t : Text) : (dropComment t).length ≤ t.length := by
  unfold dropComment
  split
  · split
    · exact Nat.le_refl _
    · exact Nat.le_succ_of_le (List.dropWhile_suffix _).length_le
  · exact Nat.le_refl _

/-- Drops what may stand between the parts of an array or inline table: blanks, line breaks and
comments. -/
def dropPadding (t : Text) : Text :=
  match _h : dropComment (dropBlanks t) with
  | '\n' :: rest => dropPadding rest
  | '\r' :: '\n' :: rest => dropPadding rest
  | rest => rest
termination_by t.length
decreasing_by
  all_goals
    have h₁ := dropComment_length (dropBlanks t)
    have h₂ := dropBlanks_length t
    simp only [_h, List.length_cons] at h₁
    omega

theorem dropPadding_length (t : Text) : (dropPadding t).length ≤ t.length := by
  fun_induction dropPadding t with
  | case1 t rest h ih | case2 t rest h ih =>
    have h₁ := dropComment_length (dropBlanks t)
    have h₂ := dropBlanks_length t
    simp only [h, List.length_cons] at h₁
    omega
  | case3 t _ _ =>
    exact Nat.le_trans (dropComment_length _) (dropBlanks_length t)

def isBare (c : Char) : Bool := c.isAlphanum || c = '_' || c = '-'

def segment? (t : Text) : Option (Taken Text t) :=
  match t with
  | [] => none
  | c :: r =>
    if c = '\x22' ∨ c = '\x27' then
      match h : Quoted.single? c r with
      | some (content, rest) => some ⟨content, rest, Nat.lt_succ_of_lt (Quoted.single?_length h)⟩
      | none => none
    else if isBare c then
      some ⟨c :: r.takeWhile isBare, r.dropWhile isBare,
        Nat.lt_succ_of_le (List.dropWhile_suffix _).length_le⟩
    else none

def segments? (t : Text) : Option (Taken (List Text) t) := do
  let ⟨segment, rest, h⟩ ← segment? t
  match hd : dropBlanks rest with
  | '.' :: more =>
    have h₁ := dropBlanks_length rest
    have h₂ := dropBlanks_length more
    have : (dropBlanks more).length < t.length := by
      simp only [hd, List.length_cons] at h₁
      omega
    let ⟨segments, rest, _⟩ ← segments? (dropBlanks more)
    some ⟨segment :: segments, rest, by omega⟩
  | _ => some ⟨[segment], rest, h⟩
termination_by t.length

/-- How deep values may be nested, and how many parts a key may have. -/
def depthLimit : Nat := 80

def key? (t : Text) : Option (Taken (List Text) t) := do
  let key ← segments? t
  if key.value.length ≤ depthLimit then some key else none

/-- Whether a character can be part of a value without quotes or brackets. -/
def isPlain (c : Char) : Bool := !isBlank c && !endsLine c && c ∉ [',', '#', ']', '\x7d']

/-- The run of plain characters at the front of a text, with what follows it. A time of day may
stand a space behind its date. -/
def plainRun (t : Text) : Text × Text :=
  let run := t.takeWhile isPlain
  match t.dropWhile isPlain with
  | ' ' :: c :: more =>
    if DateTime.date? run = some [] ∧ c.isDigit then
      (run ++ ' ' :: (c :: more).takeWhile isPlain, (c :: more).dropWhile isPlain)
    else (run, ' ' :: c :: more)
  | rest => (run, rest)

/-- A value without quotes or brackets; an empty run is none. -/
def plain? (t : Text) : Option (Taken Value t) := do
  let (run, rest) := plainRun t
  if h : rest.length < t.length then
    let v ← Scalar.value? run
    some ⟨v, rest, h⟩
  else none

def string? (quote : Char) (t : Text) : Option (Taken Value t) :=
  match h : Quoted.text? quote t with
  | some (content, rest) => some ⟨.text content, rest, Quoted.text?_length h⟩
  | none => none

mutual

/-- A value in which brackets and braces are nested at most `depth` deep. -/
def value? (depth : Nat) (t : Text) : Option (Taken Value t) :=
  match t with
  | [] => none
  | c :: r => do
    if c = '[' then
      if depth = 0 then none
      let ⟨items, rest, h⟩ ← items? (depth - 1) r
      some ⟨.list items, rest, Nat.lt_succ_of_lt h⟩
    else if c = '\x7b' then
      if depth = 0 then none
      let ⟨fields, rest, h⟩ ← fields? (depth - 1) [] r
      some ⟨.table .inline fields, rest, Nat.lt_succ_of_lt h⟩
    else if c = '\x22' ∨ c = '\x27' then
      let ⟨v, rest, h⟩ ← string? c r
      some ⟨v, rest, Nat.lt_succ_of_lt h⟩
    else plain? (c :: r)
termination_by 3 * t.length

def items? (depth : Nat) (t : Text) : Option (Taken (List Value) t) := do
  have h₀ := dropPadding_length t
  match h : dropPadding t with
  | ']' :: rest => some ⟨[], rest, by simp only [h, List.length_cons] at h₀; omega⟩
  | _ =>
    let ⟨v, rest, h₁⟩ ← value? depth (dropPadding t)
    have h₂ := dropPadding_length rest
    match h₃ : dropPadding rest with
    | ']' :: rest => some ⟨[v], rest, by simp only [h₃, List.length_cons] at h₂; omega⟩
    | ',' :: rest =>
      have h₄ : rest.length < t.length := by simp only [h₃, List.length_cons] at h₂; omega
      let ⟨vs, rest, h₅⟩ ← items? depth rest
      some ⟨v :: vs, rest, by omega⟩
    | _ => none
termination_by 3 * t.length + 1

/-- The fields of an inline table up to its closing brace, added to those before. -/
def fields? (depth : Nat) (before : Fields) (t : Text) : Option (Taken Fields t) := do
  have h₀ := dropPadding_length t
  match h : dropPadding t with
  | '\x7d' :: rest => some ⟨before, rest, by simp only [h, List.length_cons] at h₀; omega⟩
  | _ =>
    let ⟨(path, key, v), rest, h₁⟩ ← binding? depth dropPadding dropPadding_length (dropPadding t)
    let fields ← before.put? path key v
    have h₂ := dropPadding_length rest
    match h₃ : dropPadding rest with
    | '\x7d' :: rest => some ⟨fields, rest, by simp only [h₃, List.length_cons] at h₂; omega⟩
    | ',' :: rest =>
      have h₄ : rest.length < t.length := by simp only [h₃, List.length_cons] at h₂; omega
      let ⟨all, rest, h₅⟩ ← fields? depth fields rest
      some ⟨all, rest, by omega⟩
    | _ => none
termination_by 3 * t.length + 2

/-- A key with its value: the dotted path before the last part of the key, that part, the value.
What may stand on both sides of the equals sign is for `drop` to drop. -/
def binding? (depth : Nat) (drop : Text → Text) (drop_length : ∀ t, (drop t).length ≤ t.length)
    (t : Text) : Option (Taken (List Text × Text × Value) t) := do
  let ⟨segments, rest, h₁⟩ ← key? t
  let key ← segments.getLast?
  have h₂ := drop_length rest
  match h₃ : drop rest with
  | '=' :: rest =>
    have h₄ := drop_length rest
    have h₅ : (drop rest).length < t.length := by
      simp only [h₃, List.length_cons] at h₂
      omega
    let ⟨v, rest, h₆⟩ ← value? depth (drop rest)
    some ⟨(segments.dropLast, key, v), rest, by omega⟩
  | _ => none
termination_by 3 * t.length + 1

end

/-- A header opens a table or, in double brackets, the next one of several. -/
structure Header where
  next : Bool
  segments : List Text

/-- The key of a header and its closing brackets, from what stands behind the opening ones. -/
def headerKey? (brackets : Text) (t : Text) : Option (Taken (List Text) t) := do
  let ⟨segments, rest, h⟩ ← key? (dropBlanks t)
  have h₁ := dropBlanks_length t
  have h₂ := dropBlanks_length rest
  if brackets.isPrefixOf (dropBlanks rest) then
    some ⟨segments, (dropBlanks rest).drop brackets.length, by
      simp only [List.length_drop]
      omega⟩
  else none

def header? (t : Text) : Option (Taken Header t) :=
  match t with
  | '[' :: r => do
    let ⟨segments, rest, h⟩ ← headerKey? "]]" r
    some ⟨⟨true, segments⟩, rest, Nat.lt_succ_of_lt h⟩
  | t => do
    let ⟨segments, rest, h⟩ ← headerKey? "]" t
    some ⟨⟨false, segments⟩, rest, h⟩

/-- What has been read of a document, and the path of the table that keys go into. -/
structure Draft where
  path : List Text := []
  fields : Fields := []

namespace Draft

def openTable? (d : Draft) (h : Header) : Option Draft := do
  let key ← h.segments.getLast?
  let path := h.segments.dropLast
  let fields ← if h.next then d.fields.openNext? path key else d.fields.openTable? path key
  some { path := h.segments, fields }

def put? (d : Draft) (path : List Text) (key : Text) (v : Value) : Option Draft := do
  let fields ←
    Fields.within? true (fun _ inner => Fields.put? path key v inner) d.path .header d.fields
  some { d with fields }

def readLine? (d : Draft) (t : Text) : Option (Draft × { rest : Text // rest.length ≤ t.length }) :=
  match t with
  | [] => some (d, ⟨[], Nat.le_refl _⟩)
  | c :: r => do
    if c = '#' ∨ endsLine c then some (d, ⟨c :: r, Nat.le_refl _⟩)
    else if c = '[' then
      let ⟨header, rest, h⟩ ← header? r
      let d ← d.openTable? header
      some (d, ⟨rest, Nat.le_succ_of_le (Nat.le_of_lt h)⟩)
    else
      let ⟨(path, key, v), rest, h⟩ ← binding? depthLimit dropBlanks dropBlanks_length (c :: r)
      let d ← d.put? path key v
      some (d, ⟨rest, Nat.le_of_lt h⟩)

def readLines? (d : Draft) (t : Text) : Option Fields := do
  let (d, ⟨rest, h⟩) ← d.readLine? (dropBlanks t)
  have h₁ := dropBlanks_length t
  have h₂ := dropBlanks_length rest
  have h₃ := dropComment_length (dropBlanks rest)
  match hr : dropComment (dropBlanks rest) with
  | [] => some d.fields
  | '\n' :: more =>
    have : more.length < t.length := by simp only [hr, List.length_cons] at h₃; omega
    readLines? d more
  | '\r' :: '\n' :: more =>
    have : more.length < t.length := by simp only [hr, List.length_cons] at h₃; omega
    readLines? d more
  | _ => none
termination_by t.length

end Draft

/-- The fields of a document, if it is well-formed; a byte order mark before it is ignored. -/
def read? (t : Text) : Option Fields :=
  match t with
  | '\ufeff' :: t => Draft.readLines? {} t
  | t => Draft.readLines? {} t

end RefSite.Toml
