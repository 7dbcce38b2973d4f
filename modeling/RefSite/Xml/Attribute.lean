import RefSite.Xml.Element
import RefSite.Xml.Reference

namespace RefSite.Xml

theorem length_dropWhile_le (p : Char → Bool) (t : Text) : (t.dropWhile p).length ≤ t.length :=
  (List.dropWhile_suffix p).length_le

theorem length_lt_of_dropWhile {p : Char → Bool} {t rest : Text} {c : Char}
    (h : t.dropWhile p = c :: rest) : rest.length < t.length := by
  have := length_dropWhile_le p t
  rw [h] at this
  exact this

def isKeyCharacter (c : Char) : Bool := c ≠ '=' && !c.isWhitespace

def isQuote (c : Char) : Bool := c = '\x22' || c = '\x27'

/-- The next key, and what follows it and the white space behind it. -/
def key? (t : Text) : Option (Text × Text) :=
  match t.dropWhile Char.isWhitespace with
  | [] => none
  | c :: t =>
    some (c :: t.takeWhile isKeyCharacter, (t.dropWhile isKeyCharacter).dropWhile Char.isWhitespace)

theorem key?_length {t key rest : Text} (h : key? t = some (key, rest)) :
    rest.length < t.length := by
  unfold key? at h
  split at h
  · cases h
  · rename_i c t' ht
    obtain ⟨-, rfl⟩ := by simpa using h
    have h₁ := length_dropWhile_le Char.isWhitespace (t'.dropWhile isKeyCharacter)
    have h₂ := length_dropWhile_le isKeyCharacter t'
    have h₃ := length_lt_of_dropWhile ht
    omega

/-- The quoted value behind a `=` and what follows it; other values are passed over. -/
def value (t : Text) : Option Text × Text :=
  match t.dropWhile Char.isWhitespace with
  | [] => (none, [])
  | quote :: t =>
    if isQuote quote then
      match t.dropWhile (· ≠ quote) with
      | [] => (none, [])
      | _ :: rest => (some (t.takeWhile (· ≠ quote)), rest)
    else (none, t.dropWhile (!·.isWhitespace))

theorem value_length (t : Text) : (value t).2.length ≤ t.length := by
  unfold value
  split
  · simp
  · rename_i quote t' ht
    have := length_lt_of_dropWhile ht
    split
    · split
      · simp
      · rename_i hq
        have := length_lt_of_dropWhile hq
        dsimp only
        omega
    · have := length_dropWhile_le (!·.isWhitespace) t'
      dsimp only
      omega

/-- Reading goes on at the next white space when a key is repeated, be it inside of quotes. -/
def skipRepeated (t : Text) : Text := t.dropWhile (!·.isWhitespace)

theorem skipRepeated_length (t : Text) : (skipRepeated t).length ≤ t.length :=
  length_dropWhile_le _ t

def rawAttributes (seen : List Text) (t : Text) : Attributes :=
  match h : key? t with
  | none => []
  | some (key, '=' :: t') =>
    have : t'.length + 1 < t.length := key?_length h
    if key ∈ seen then
      have := skipRepeated_length t'
      rawAttributes seen (skipRepeated t')
    else
      have := value_length t'
      match (value t').1 with
      | some v => (key, v) :: rawAttributes (key :: seen) (value t').2
      | none => rawAttributes (key :: seen) (value t').2
  | some (_, rest) =>
    have := key?_length h
    rawAttributes seen rest
termination_by t.length
decreasing_by all_goals omega

/-- Namespace declarations are no attributes of the element. -/
def attributesOf (t : Text) : Attributes :=
  ((rawAttributes [] t).filter fun (key, _) => !"xmlns".toList.isPrefixOf key).map
    fun (key, v) => (key, decodeValue v)

end RefSite.Xml
