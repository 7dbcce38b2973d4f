import RefSite.Path
import RefSite.Proofs.Text.Split
import RefSite.Route

namespace RefSite.Path

variable {p q r : Text}

/-- Where a path begins, if that is not one of its steps. -/
def start (p : Text) : List Component :=
  if isAbsolute p then [.root]
  else if (Text.split '/' p).head? = some ['.'] then [.current] else []

/-- The components of a path that lead from one folder to another. -/
def steps (p : Text) : List Component :=
  ((Text.split '/' p).filter fun n => n ≠ [] && n ≠ ['.']).map fun n =>
    if n = ['.', '.'] then .parent else .name n

theorem components_eq (p : Text) : components p = start p ++ steps p := rfl

/-- The pieces of a path or of a route that say something. -/
def segments (p : Text) : List Text := (Text.split '/' p).filter fun n => n ≠ [] && n ≠ ['.']

def stepOf (n : Text) : Component := if n = ['.', '.'] then .parent else .name n

theorem steps_eq (p : Text) : steps p = (segments p).map stepOf := rfl

/-- A path climbs where one of its segments is two dots. -/
theorem parent_mem_components_iff : .parent ∈ components p ↔ ['.', '.'] ∈ segments p := by
  have hstart : .parent ∉ start p := by
    unfold start
    split
    · simp
    · split <;> simp
  rw [components_eq, List.mem_append, or_iff_right hstart, steps_eq, List.mem_map]
  constructor
  · rintro ⟨n, hn, hstep⟩
    unfold stepOf at hstep
    split at hstep
    · rename_i hdots
      exact hdots ▸ hn
    · cases hstep
  · exact fun h => ⟨_, h, rfl⟩

@[simp] theorem segments_nil : segments [] = [] := rfl

@[simp] theorem segments_append_slash (p q : Text) :
    segments (p ++ '/' :: q) = segments p ++ segments q := by
  rw [segments, Text.split_append_sep, List.filter_append]
  rfl

@[simp] theorem steps_nil : steps [] = [] := rfl

@[simp] theorem steps_append_slash (p q : Text) : steps (p ++ '/' :: q) = steps p ++ steps q := by
  rw [steps_eq, segments_append_slash, List.map_append]
  rfl

@[simp] theorem steps_slash (p : Text) : steps ('/' :: p) = steps p := steps_append_slash [] p

theorem steps_trimSlashes (p : Text) : steps (Route.trimSlashes p) = steps p := by
  have front : ∀ t : Text, steps (t.dropWhile (· = '/')) = steps t := by
    intro t
    induction t with
    | nil => rfl
    | cons c t ih =>
      by_cases hc : c = '/'
      · subst hc
        rw [List.dropWhile_cons_of_pos (by decide), ih, steps_slash]
      · rw [List.dropWhile_cons_of_neg (by simpa using hc)]
  have back : ∀ t : Text, steps (t.dropWhile (· = '/')).reverse = steps t.reverse := by
    intro t
    induction t with
    | nil => rfl
    | cons c t ih =>
      by_cases hc : c = '/'
      · subst hc
        rw [List.dropWhile_cons_of_pos (by decide), ih, List.reverse_cons, steps_append_slash,
          steps_nil, List.append_nil]
      · rw [List.dropWhile_cons_of_neg (by simpa using hc)]
  rw [Route.trimSlashes, back, List.reverse_reverse, front]

theorem isAbsolute_append (hp : p ≠ []) (q : Text) : isAbsolute (p ++ q) = isAbsolute p := by
  cases p with
  | nil => exact absurd rfl hp
  | cons c p => rfl

/-- How a path goes on behind a slash says nothing about its start. -/
theorem start_append_slash (p q r : Text) : start (p ++ '/' :: q) = start (p ++ '/' :: r) := by
  by_cases hp : p = []
  · subst hp
    rfl
  · obtain ⟨n, ns, hs⟩ := List.exists_cons_of_ne_nil (Text.split_ne_nil '/' p)
    simp [start, Text.split_append_sep, isAbsolute_append hp, hs]

theorem start_append (hp : p ≠ []) (q : Text) : start (p ++ '/' :: q) = start p := by
  obtain ⟨n, ns, hs⟩ := List.exists_cons_of_ne_nil (Text.split_ne_nil '/' p)
  simp [start, Text.split_append_sep, isAbsolute_append hp, hs]

/-- A joined path is the folder's with a slash behind it, which may be there already. -/
theorem exists_join (hp : p ≠ []) (hq : isAbsolute q = false) :
    ∃ p', start (p' ++ ['/']) = start p ∧ steps p' = steps p ∧ join p q = p' ++ '/' :: q := by
  by_cases hlast : p.getLast? = some '/'
  · obtain ⟨p', rfl⟩ := List.getLast?_eq_some_iff.mp hlast
    refine ⟨p', rfl, ?_, ?_⟩
    · rw [steps_append_slash, steps_nil, List.append_nil]
    · simp [join, hq]
  · exact ⟨p, start_append hp [], rfl, by simp [join, hq, hp, hlast]⟩

theorem components_join (hp : p ≠ []) (hq : isAbsolute q = false) :
    components (join p q) = components p ++ steps q := by
  obtain ⟨p', hstart, hsteps, hjoin⟩ := exists_join hp hq
  rw [hjoin, components_eq, components_eq, start_append_slash p' q [], hstart, steps_append_slash,
    hsteps, List.append_assoc]

theorem isAbsolute_join (hp : p ≠ []) (hq : isAbsolute q = false) :
    isAbsolute (join p q) = isAbsolute p := by
  have hc : isAbsolute (p ++ "/" ++ q) = isAbsolute p := by
    rw [List.append_assoc, isAbsolute_append hp]
  unfold join
  rw [hq]
  split
  · contradiction
  split
  · exact isAbsolute_append hp q
  · exact hc

theorem join_absolute (hq : isAbsolute q = true) : join p q = q := if_pos hq

theorem not_mem_steps_current (p : Text) : .current ∉ steps p := by
  intro h
  obtain ⟨n, -, hn⟩ := List.mem_map.mp h
  split at hn <;> cases hn

theorem infix_of_parent_mem (h : .parent ∈ steps p) : ['.', '.'] <:+: p := by
  obtain ⟨n, hn, he⟩ := List.mem_map.mp h
  split at he
  · rename_i hd
    subst hd
    exact Text.infix_of_mem_split (List.mem_filter.mp hn).1
  · cases he

def withoutDots (p : Text) : List Component := (components p).filter (· ≠ .current)

theorem withoutDots_eq (p : Text) :
    withoutDots p = (if isAbsolute p then [.root] else []) ++ steps p := by
  have hsteps : (steps p).filter (· ≠ .current) = steps p := by
    apply List.filter_eq_self.mpr
    intro c hc
    have := not_mem_steps_current p
    simp only [ne_eq, decide_not, Bool.not_eq_eq_eq_not, Bool.not_true, decide_eq_false_iff_not]
    rintro rfl
    exact this hc
  have hstart : (start p).filter (· ≠ .current) = if isAbsolute p then [.root] else [] := by
    unfold start
    split
    · rfl
    · split <;> rfl
  rw [withoutDots, components_eq, List.filter_append, hsteps, hstart]

theorem withoutDots_join (hq : isAbsolute q = false) :
    withoutDots (join p q) = withoutDots p ++ steps q := by
  by_cases hp : p = []
  · subst hp
    have hjoin : join [] q = q := by simp [join, hq]
    rw [hjoin, withoutDots_eq, hq]
    rfl
  · have hsteps : steps (join p q) = steps p ++ steps q := by
      obtain ⟨p', -, hsteps, hjoin⟩ := exists_join hp hq
      rw [hjoin, steps_append_slash, hsteps]
    rw [withoutDots_eq, withoutDots_eq, isAbsolute_join hp hq, hsteps, List.append_assoc]

theorem steps_of_not_mem (hslash : '/' ∉ p) (nonempty : p ≠ []) (dot : p ≠ ['.'])
    (dots : p ≠ ['.', '.']) : steps p = [.name p] := by
  simp [steps, Text.split_of_notMem hslash, nonempty, dot, dots]

theorem isAbsolute_of_not_mem (h : '/' ∉ p) : isAbsolute p = false := by
  cases p with
  | nil => rfl
  | cons c p =>
    have hc : c ≠ '/' := fun hc => h (hc ▸ List.mem_cons_self)
    simp [isAbsolute, hc]

end RefSite.Path
