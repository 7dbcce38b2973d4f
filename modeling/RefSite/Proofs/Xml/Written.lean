import Mathlib.Data.List.Forall2
import RefSite.Text.Blank
import RefSite.Text.Word
import RefSite.Xml.Reader

namespace RefSite.Xml

def IsSpace (w : Text) : Prop := ∀ c ∈ w, c.isWhitespace = true

instance (w : Text) : Decidable (IsSpace w) :=
  decidable_of_iff (w.all Char.isWhitespace = true) List.all_eq_true

/-- Letters, digits and marks, and the signs `_`, `-`, `.` and `:`. -/
def isNameCharacter (c : Char) : Bool := Text.isWord c || c = '-' || c = '.' || c = ':'

structure IsName (t : Text) : Prop where
  head : ∃ c rest, t = c :: rest ∧ Text.isWord c = true
  all : ∀ c ∈ t, isNameCharacter c = true

theorem isName_singleton {c : Char} (h : Text.isWord c = true) : IsName [c] :=
  ⟨⟨c, [], rfl, h⟩, by simp [isNameCharacter, h]⟩

/-- The attributes of an element have names of their own, and none declares a namespace. -/
structure ProperAttributes (as : Attributes) : Prop where
  named : ∀ a ∈ as, IsName a.1
  plain : ∀ a ∈ as, ¬ "xmlns".toList <+: a.1
  distinct : (as.map Prod.fst).Nodup

/-- Trees that a document can hold: tags and attributes have names, texts are arbitrary. -/
inductive Element.Proper : Element → Prop
  | mk {tag text tail : Text} {as : Attributes} {es : List Element} :
    IsName tag → ProperAttributes as → (∀ e ∈ es, e.Proper) → Proper ⟨tag, as, text, es, tail⟩

/-- Elements that differ in the order of attributes at most. -/
inductive Element.Same : Element → Element → Prop
  | mk {tag text tail : Text} {as bs : Attributes} {cs ds : List Element} :
    as.Perm bs → List.Forall₂ Same cs ds → Same ⟨tag, as, text, cs, tail⟩ ⟨tag, bs, text, ds, tail⟩

theorem Element.Same.tail_eq {e e' : Element} (h : e.Same e') : e.tail = e'.tail := by
  cases h
  rfl

/-- The digits of a number, of which the leading ones may be zero. -/
inductive Numeral (base : Nat) : Text → Nat → Prop
  | digit {c : Char} {n : Nat} : Text.digit? base c = some n → Numeral base [c] n
  | snoc {t : Text} {n d : Nat} {c : Char} :
    Numeral base t n → Text.digit? base c = some d → Numeral base (t ++ [c]) (base * n + d)

/-- What may stand between `&` and `;` to name a character. -/
inductive Names : Text → Char → Prop
  | lt : Names "lt" '<'
  | gt : Names "gt" '>'
  | amp : Names "amp" '&'
  | apos : Names "apos" '\x27'
  | quot : Names "quot" '\x22'
  | decimal {t : Text} {c : Char} : Numeral 10 t c.toNat → Names ('#' :: t) c
  | hexadecimal {t : Text} {c : Char} : Numeral 16 t c.toNat → Names ('#' :: 'x' :: t) c

section

/- The characters that attribute values may have by reference. -/
variable (Referable : Char → Prop)

/-- An attribute value as it stands between quotes. -/
inductive WrittenValue (quote : Char) : Text → Text → Prop
  | nil : WrittenValue quote [] []
  | literal {c : Char} {v t : Text} :
    c ≠ '&' → c ≠ quote → WrittenValue quote v t → WrittenValue quote (c :: v) (c :: t)
  | reference {c : Char} {name v t : Text} :
    Referable c → Names name c → WrittenValue quote v t →
    WrittenValue quote (c :: v) ('&' :: name ++ ';' :: t)

/-- Attributes in the order in which they are written, with the white space around them. -/
inductive WrittenAttributes : Attributes → Text → Prop
  | nil {w : Text} : IsSpace w → WrittenAttributes [] w
  | cons {w₀ w₁ w₂ name v raw t : Text} {quote : Char} {as : Attributes} :
    IsSpace w₀ → IsSpace w₁ → IsSpace w₂ → isQuote quote = true →
    WrittenValue Referable quote v raw → WrittenAttributes as t →
    WrittenAttributes ((name, v) :: as)
      (w₀ ++ name ++ w₁ ++ '=' :: w₂ ++ quote :: raw ++ quote :: t)

/-- A start tag between its brackets, with the attributes in any order. -/
inductive WrittenTag : Text → Attributes → Text → Prop
  | mk {tag t : Text} {as bs : Attributes} :
    bs.Perm as → WrittenAttributes Referable bs t → (∀ c ∈ t.head?, c.isWhitespace = true) →
    WrittenTag tag as (tag ++ t)

/-- Comments and processing instructions. -/
inductive Aside : Text → Prop
  | comment {t : Text} : ¬ "-->".toList <:+: t → Aside ("<!--" ++ t ++ "-->")
  | instruction {t : Text} :
    ¬ "?>".toList <:+: t → t.head? ≠ some '>' → Aside ("<?" ++ t ++ "?>")

/-- A piece of running text, and how it is written. Longer literal pieces are made of these. -/
inductive Piece : Text → Text → Prop
  | literal {c : Char} : c ≠ '<' → c ≠ '&' → Piece [c] [c]
  | reference {c : Char} {name : Text} : Names name c → Piece [c] ('&' :: name ++ [';'])
  | cdata {t : Text} : ¬ "]]>".toList <:+: t → Piece t ("<![CDATA[" ++ t ++ "]]>")
  | aside {t : Text} : Aside t → Piece [] t

mutual

/-- An element without its tail. -/
inductive Written : Element → Text → Prop
  | empty {tag t tail : Text} {as : Attributes} :
    WrittenTag Referable tag as t → Written ⟨tag, as, [], [], tail⟩ ('<' :: t ++ "/>")
  | full {tag t s c w tail : Text} {as : Attributes} {es : List Element} :
    WrittenTag Referable tag as t → WrittenContent s es c → IsSpace w →
    Written ⟨tag, as, s, es, tail⟩ ('<' :: t ++ '>' :: c ++ "</" ++ tag ++ w ++ ">")

/-- A text and the elements behind it, each with its tail. -/
inductive WrittenContent : Text → List Element → Text → Prop
  | nil : WrittenContent [] [] []
  | piece {s s' p t : Text} {es : List Element} :
    Piece s p → WrittenContent s' es t → WrittenContent (s ++ s') es (p ++ t)
  | child {e : Element} {es : List Element} {w t : Text} :
    Written e w → WrittenContent e.tail es t → WrittenContent [] (e :: es) (w ++ t)

end

inductive Prolog : Text → Prop
  | nil : Prolog []
  | space {c : Char} {t : Text} : Text.isBlank c = true → Prolog t → Prolog (c :: t)
  | aside {a t : Text} : Aside a → Prolog t → Prolog (a ++ t)

/-- A document with a byte order mark or without; behind the root element anything may stand. -/
inductive WrittenDocument : Element → Text → Prop
  | mk {e : Element} {mark p w rest : Text} :
    mark = [] ∨ mark = ['\ufeff'] → Prolog p → Written Referable e w →
    WrittenDocument e (mark ++ p ++ w ++ rest)

end

end RefSite.Xml
