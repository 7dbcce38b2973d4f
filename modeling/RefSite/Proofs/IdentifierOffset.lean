import RefSite.Proofs.Identifier
import RefSite.Proofs.Text.Size

namespace RefSite

namespace Text

/-- The text up to a byte offset, if a character ends there. -/
def takeBytes? : Nat → Text → Option Text
  | 0, _ => some []
  | _ + 1, [] => none
  | n + 1, c :: t =>
    if c.utf8Size ≤ n + 1 then (takeBytes? (n + 1 - c.utf8Size) t).map (c :: ·) else none

/-- A slice that begins or ends beyond the text, before it, or within a character. -/
inductive SliceError
  | outOfRange

def sliceFrom (n : Nat) (t : Text) : Except SliceError Text :=
  match dropBytes? n t with
  | some rest => .ok rest
  | none => .error .outOfRange

def sliceTo (n : Nat) (t : Text) : Except SliceError Text :=
  match takeBytes? n t with
  | some front => .ok front
  | none => .error .outOfRange

/-- The byte offset of the last `sep`. -/
def offsetOfLast? (sep : Char) (t : Text) : Option Nat := (beforeLast? sep t).map byteSize

variable {sep : Char} {s t : Text}

theorem takeBytes?_append (s t : Text) : takeBytes? (byteSize s) (s ++ t) = some s := by
  induction s with
  | nil => cases t <;> rfl
  | cons c s ih =>
    have hpos := Char.utf8Size_pos c
    obtain ⟨m, hm⟩ := Nat.exists_eq_succ_of_ne_zero
      (Nat.ne_of_gt (byteSize_pos (List.cons_ne_nil c s)))
    have hsize : c.utf8Size + byteSize s = m + 1 := hm
    have hrest : m + 1 - c.utf8Size = byteSize s := by omega
    rw [hm, List.cons_append, takeBytes?, if_pos (by omega), hrest, ih]
    rfl

theorem sliceFrom_append (s t : Text) : sliceFrom (byteSize s) (s ++ t) = .ok t := by
  rw [sliceFrom, dropBytes?_append]

theorem sliceTo_append (s t : Text) : sliceTo (byteSize s) (s ++ t) = .ok s := by
  rw [sliceTo, takeBytes?_append]

theorem offsetOfLast?_append (s : Text) (h : sep ∉ t) :
    offsetOfLast? sep (s ++ sep :: t) = some (byteSize s) := by
  rw [offsetOfLast?, beforeLast?_append s h, Option.map_some]

theorem offsetOfLast?_of_not_mem (h : sep ∉ t) : offsetOfLast? sep t = none := by
  rw [offsetOfLast?, beforeLast?_of_not_mem h, Option.map_none]

end Text

namespace Identifier

/-- An identifier with its path in one text, and the offset of the last segment. A type has no
segment apart from its path. -/
structure Flat where
  kind : Kind
  path : Text
  params : Option Text
  split : Nat

namespace Flat

def ofBody? (kind : Kind) (body : Text) : Option Flat :=
  let path := Text.before '(' body
  if path.isEmpty || (Text.split '.' path).any List.isEmpty then none
  else match kind with
  | .type => some { kind, path, params := params? body, split := 0 }
  | _ => (Text.offsetOfLast? '.' path).map fun i =>
    { kind, path, params := params? body, split := i + 1 }

/-- Reads an identifier by slices of its text. -/
def parse (text : Text) : Except Text.SliceError (Option Flat) :=
  match Kind.of? text with
  | none => .ok none
  | some kind => (Text.sliceFrom 2 text).map fun rest => ofBody? kind (Text.trim rest)

def owningType (f : Flat) : Except Text.SliceError Text :=
  match f.kind, f.split with
  | .type, _ => .ok f.path
  | _, 0 => .error .outOfRange
  | _, i + 1 => Text.sliceTo i f.path

def segment (f : Flat) : Text := Text.afterLast '.' f.path

end Flat

def flat (id : Identifier) : Flat where
  kind := id.kind
  path := dotted id.path
  params := id.params
  split := if id.kind = .type then 0 else Text.byteSize (dotted id.path.dropLast) + 1

variable {t : Text} {id : Identifier}

theorem exists_of_kind {kind : Kind} (h : Kind.of? t = some kind) :
    ∃ c rest, t = c :: ':' :: rest ∧ c.utf8Size = 1 := by
  unfold Kind.of? at h
  split at h
  · exact ⟨_, _, rfl, rfl⟩
  · exact ⟨_, _, rfl, rfl⟩
  · exact ⟨_, _, rfl, rfl⟩
  · exact ⟨_, _, rfl, rfl⟩
  · cases h

theorem dotted_split (t : Text) : dotted (Text.split '.' t) = t := Text.join_split '.' t

/-- The offset tells the dot before the last segment. -/
theorem offsetOfLast?_eq (path : Text) :
    Text.offsetOfLast? '.' path =
      if (Text.split '.' path).length < 2 then none
      else some (Text.byteSize (dotted (Text.split '.' path).dropLast)) := by
  by_cases hdot : '.' ∈ path
  · obtain ⟨u, v, rfl, hv⟩ := Text.exists_append_last hdot
    have hlong : 0 < (Text.split '.' u).length := List.length_pos_iff.mpr (Text.split_ne_nil _ _)
    rw [Text.offsetOfLast?_append u hv, Text.split_append_sep, Text.split_of_notMem hv,
      List.dropLast_concat, dotted_split, if_neg]
    rw [List.length_append, List.length_singleton]
    omega
  · rw [Text.offsetOfLast?_of_not_mem hdot, Text.split_of_notMem hdot, if_pos (by simp)]

/-- A path without characters has an empty segment, so the check for it alone would do. -/
theorem hasEmpty_iff (path : Text) :
    (path.isEmpty || (Text.split '.' path).any List.isEmpty) = true ↔
      [] ∈ Text.split '.' path := by
  rw [Bool.or_eq_true, List.isEmpty_iff, List.any_eq_true]
  constructor
  · rintro (rfl | ⟨n, hn, hempty⟩)
    · exact List.mem_cons_self
    · exact List.isEmpty_iff.mp hempty ▸ hn
  · exact fun hempty => .inr ⟨[], hempty, rfl⟩

/-- Reading by slices does what reading by segments does, and never fails. -/
theorem Flat.parse_eq (t : Text) : Flat.parse t = .ok ((parse? t).map flat) := by
  cases hkind : Kind.of? t with
  | none => simp [Flat.parse, parse?, hkind]
  | some kind =>
    obtain ⟨c, rest, rfl, hc⟩ := exists_of_kind hkind
    have hslice : Text.sliceFrom 2 (c :: ':' :: rest) = .ok rest := by
      have hsize : Text.byteSize [c, ':'] = 2 := by
        change c.utf8Size + 1 = 2
        rw [hc]
      rw [← hsize]
      exact Text.sliceFrom_append [c, ':'] rest
    have hdrop : List.drop 2 (c :: ':' :: rest) = rest := rfl
    simp only [Flat.parse, parse?, hkind, hslice, hdrop, bind, Option.bind, Except.map, ofBody?,
      hasEmpty_iff, offsetOfLast?_eq]
    generalize Text.before '(' (Text.trim rest) = path
    by_cases hempty : [] ∈ Text.split '.' path
    · rw [if_pos hempty, if_pos hempty, Option.map_none]
    · rw [if_neg hempty, if_neg hempty]
      by_cases hshort : (Text.split '.' path).length < 2
      · cases kind <;> simp [flat, dotted_split, hshort]
      · cases kind <;> simp [flat, dotted_split, hshort]

theorem Flat.owningType_eq {f : Flat} {i : Nat} (hk : f.kind ≠ .type) (hsplit : f.split = i + 1) :
    f.owningType = Text.sliceTo i f.path := by
  rw [owningType, hsplit]
  cases hkind : f.kind with
  | type => exact absurd hkind hk
  | constructor | method | property | constant => rfl

/-- The slice that is the owning type ends where the offset says. -/
theorem Valid.owningType_flat (h : id.Valid) : id.flat.owningType = .ok id.owningType := by
  by_cases hk : id.kind = .type
  · simp [Flat.owningType, flat, Identifier.owningType, owner, hk]
  · have howner : id.owner = id.path.dropLast := by rw [owner_eq_ite, if_neg hk]
    have hne : id.path.dropLast ≠ [] := howner ▸ h.owner_ne_nil
    have hpath : Identifier.dotted id.path =
        Identifier.dotted id.path.dropLast ++ '.' :: id.segment := by
      rw [← dotted_append hne, ← path_eq h.nonempty]
    rw [Flat.owningType_eq (f := id.flat) hk (if_neg hk), Identifier.owningType, howner]
    change Text.sliceTo _ (Identifier.dotted id.path) = _
    rw [hpath, Text.sliceTo_append]

theorem Valid.segment_flat (h : id.Valid) : id.flat.segment = id.segment := by
  have hlast : '.' ∉ id.segment := (h.segments _ h.segment_mem).2
  rw [Flat.segment, flat, path_eq h.nonempty]
  rcases dotted_concat id.path.dropLast id.segment with hd | ⟨s, hd⟩
  · rw [hd, Text.afterLast_of_not_mem hlast]
  · rw [hd, Text.afterLast_append s hlast]

end Identifier

end RefSite
