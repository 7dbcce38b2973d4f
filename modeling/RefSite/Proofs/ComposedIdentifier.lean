import RefSite.Proofs.IdentifierOffset

namespace RefSite

namespace Identifier

inductive Scheme
  | type
  | method
  | property
  | field
  deriving DecidableEq

namespace Scheme

def letter : Scheme → Char
  | .type => 'T'
  | .method => 'M'
  | .property => 'P'
  | .field => 'F'

/-- The kind of the scheme's members, constructors apart. -/
def kind : Scheme → Kind
  | .type => .type
  | .method => .method
  | .property => .property
  | .field => .constant

def kindFor (s : Scheme) (segment : Text) : Kind :=
  if s = .method ∧ segment = "#ctor" then .constructor else s.kind

def fewest : Scheme → Nat
  | .type => 1
  | _ => 2

/-- Segments of which an identifier can be put together. -/
structure Fits (s : Scheme) (segments : List Text) : Prop where
  enough : s.fewest ≤ segments.length
  segment : ∀ n ∈ segments, n ≠ [] ∧ '.' ∉ n ∧ '(' ∉ n
  first : ∀ c ∈ (dotted segments).head?, Text.isBlank c = false
  last : ∀ c ∈ (dotted segments).getLast?, Text.isBlank c = false

end Scheme

def written : Option Text → Text
  | none => []
  | some p => '(' :: (p ++ [')'])

def compose (s : Scheme) (segments : List Text) (params : Option Text) : Text :=
  s.letter :: ':' :: (dotted segments ++ written params)

/-- The identifier has the parts of which its text was put together. -/
structure Parts (id : Identifier) (s : Scheme) (segments : List Text) (params : Option Text) :
    Prop where
  segment : segments.getLast? = some id.segment
  owningType : id.owningType = dotted (if s = .type then segments else segments.dropLast)
  params : id.params = params
  kind : id.kind = s.kindFor id.segment

variable {s : Scheme} {segments : List Text} {path t : Text} {id : Identifier}

theorem before_written (h : '(' ∉ path) (params : Option Text) :
    Text.before '(' (path ++ written params) = path := by
  cases params with
  | none => rw [written, List.append_nil, Text.before_of_not_mem h]
  | some p => rw [written, Text.before_append h]

/-- The parameters end at the last parenthesis, so that those within them do not count. -/
theorem params?_written (h : '(' ∉ path) (params : Option Text) :
    params? (path ++ written params) = params := by
  cases params with
  | none => rw [params?, written, List.append_nil, Text.after?_eq_none_iff.mpr h, Option.map_none]
  | some p =>
    have hclose : Text.beforeLast? ')' (p ++ [')']) = some p :=
      Text.beforeLast?_append p (List.not_mem_nil)
    rw [params?, written, Text.after?_append h, Option.map_some, hclose, Option.getD_some]

theorem Scheme.Fits.ne_nil (h : s.Fits segments) : segments ≠ [] := by
  rintro rfl
  have := h.enough
  cases s <;> simp [Scheme.fewest] at this

theorem Scheme.Fits.split (h : s.Fits segments) : Text.split '.' (dotted segments) = segments :=
  Text.split_join h.ne_nil fun n hn => (h.segment n hn).2.1

theorem Scheme.Fits.not_mem (h : s.Fits segments) : '(' ∉ dotted segments := by
  intro hmem
  rcases Text.exists_of_mem_join hmem with hdot | ⟨n, hn, hparen⟩
  · exact absurd hdot (by decide)
  · exact (h.segment n hn).2.2 hparen

theorem Scheme.Fits.afterLast (h : s.Fits segments) :
    Text.afterLast '.' (dotted segments) = segments.getLastD [] := by
  have hsplit := Text.split_eq_concat '.' (dotted segments)
  rw [h.split] at hsplit
  rw [hsplit, List.getLastD_concat, ← hsplit]

theorem Scheme.Fits.trim (h : s.Fits segments) (params : Option Text) :
    Text.trim (dotted segments ++ written params) = dotted segments ++ written params := by
  have hne : dotted segments ≠ [] := by
    intro hnil
    have hsplit := h.split
    rw [hnil] at hsplit
    exact (h.segment [] (hsplit ▸ List.mem_cons_self)).1 rfl
  apply Text.trim_of_ends
  · rw [List.head?_append_of_ne_nil _ hne]
    exact h.first
  · cases params with
    | none =>
      rw [written, List.append_nil]
      exact h.last
    | some p =>
      rw [written, ← List.cons_append, ← List.append_assoc, List.getLast?_concat]
      rintro c ⟨⟩
      decide

theorem Scheme.kindFor_eq_type (s : Scheme) (n : Text) : s.kindFor n = .type ↔ s = .type := by
  unfold kindFor
  split
  · rename_i h
    simp [h.1]
  · cases s <;> decide

/-- Only a method's kind depends on its path. -/
theorem Scheme.Fits.kind (h : s.Fits segments) (params : Option Text) :
    Kind.of? (compose s segments params) = some (s.kindFor (segments.getLastD [])) := by
  cases s with
  | type => rfl
  | method =>
    have hlast : Text.afterLast '.' (Text.before '(' (dotted segments ++ written params)) =
        segments.getLastD [] := by
      rw [before_written h.not_mem, h.afterLast]
    simp only [compose, Scheme.letter, Kind.of?, hlast, Scheme.kindFor, true_and]
    split <;> rfl
  | property => rfl
  | field => rfl

theorem parse?_compose (h : s.Fits segments) (params : Option Text) :
    parse? (compose s segments params) =
      some { kind := s.kindFor (segments.getLastD []), path := segments, params } := by
  have hbody : Text.trim ((compose s segments params).drop 2) = dotted segments ++ written params :=
    h.trim params
  have hnamed : [] ∉ segments := fun hnil => (h.segment [] hnil).1 rfl
  have howned : ¬ (s.kindFor (segments.getLastD []) ≠ .type ∧ segments.length < 2) := by
    rintro ⟨hk, hlen⟩
    rw [ne_eq, Scheme.kindFor_eq_type] at hk
    have hfewest : s.fewest = 2 := by
      cases s with
      | type => exact absurd rfl hk
      | method | property | field => rfl
    exact absurd (hfewest ▸ h.enough) (Nat.not_le_of_lt hlen)
  rw [parse?, h.kind params, Option.bind_eq_bind, Option.bind_some]
  simp only [hbody, before_written h.not_mem, params?_written h.not_mem, h.split]
  rw [if_neg hnamed, if_neg howned]

theorem Scheme.Fits.parts (h : s.Fits segments) (params : Option Text) :
    ({ kind := s.kindFor (segments.getLastD []), path := segments, params } : Identifier).Parts
      s segments params where
  segment := by
    rw [Identifier.segment, List.getLastD_eq_getLast?, List.getLast?_eq_some_getLast h.ne_nil]
    rfl
  owningType := by
    simp only [owningType, owner_eq_ite, Scheme.kindFor_eq_type]
  params := rfl
  kind := rfl

/-- Reading undoes composing. Whatever is read, the owning type has no empty segments, and the
slices are all within their texts. -/
theorem read_composed :
    (∀ (s : Scheme) (segments : List Text) (params : Option Text), s.Fits segments →
      ∃ id, parse? (compose s segments params) = some id ∧ id.Parts s segments params) ∧
    ∀ t : Text, Flat.parse t = .ok ((parse? t).map flat) ∧
      ∀ id, parse? t = some id →
        (∀ n ∈ Text.split '.' id.owningType, n ≠ []) ∧
          id.flat.owningType = .ok id.owningType ∧ id.flat.segment = id.segment := by
  refine ⟨fun s segments params h => ⟨_, parse?_compose h params, h.parts params⟩, ?_⟩
  refine fun t => ⟨Flat.parse_eq t, fun id hid => ?_⟩
  have hvalid := valid_of_parse? hid
  refine ⟨?_, hvalid.owningType_flat, hvalid.segment_flat⟩
  rw [hvalid.split_owningType]
  exact fun n hn => (hvalid.segments n (mem_path_of_mem_owner hn)).1

theorem exists_read_composed :
    Scheme.method.Fits ["Größe".toList, "日本`1".toList, "#ctor".toList] ∧
      ∃ id, parse? "M:Größe.日本`1.#ctor(A.B(x),#ctor)".toList = some id ∧
        id.kind = .constructor ∧ id.params = some "A.B(x),#ctor".toList ∧
          id.flat.owningType = .ok "Größe.日本`1".toList := by
  have hfits : Scheme.method.Fits ["Größe".toList, "日本`1".toList, "#ctor".toList] :=
    ⟨by decide, by decide, by rintro _ ⟨⟩; rfl, by rintro _ ⟨⟩; rfl⟩
  obtain ⟨id, hid, hparts⟩ := read_composed.1 _ _ (some "A.B(x),#ctor".toList) hfits
  obtain ⟨-, howning, -⟩ := (read_composed.2 _).2 id hid
  have hsegment : id.segment = "#ctor".toList := (Option.some.inj hparts.segment).symm
  refine ⟨hfits, id, hid, ?_, hparts.params, ?_⟩
  · rw [hparts.kind, hsegment]
    rfl
  · rw [howning, hparts.owningType]
    rfl

end Identifier

end RefSite
