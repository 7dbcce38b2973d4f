import RefSite.Proofs.Layout

namespace RefSite

namespace Path

variable {p : Text} {ns ms : List Text}

def Component.name? : Component → Option Text
  | .name n => some n
  | _ => none

def namesIn (p : Text) : List Text := (components p).filterMap Component.name?

/-- Segments that stand for names are these names. -/
theorem eq_of_map_stepOf (h : ns.map stepOf = ms.map .name) : ns = ms := by
  induction ns generalizing ms with
  | nil =>
    cases ms with
    | nil => rfl
    | cons m ms => cases h
  | cons n ns ih =>
    cases ms with
    | nil => cases h
    | cons m ms =>
      obtain ⟨hn, hrest⟩ := List.cons.inj h
      unfold stepOf at hn
      split at hn
      · cases hn
      · rw [Component.name.inj hn, ih hrest]

theorem map_stepOf (h : .parent ∉ ns.map stepOf) : ns.map stepOf = ns.map .name := by
  apply List.map_congr_left
  intro n hn
  unfold stepOf
  split
  · rename_i hdots
    exact absurd (List.mem_map.mpr ⟨n, hn, by rw [stepOf, if_pos hdots]⟩) h
  · rfl

theorem filterMap_start (p : Text) : (start p).filterMap Component.name? = [] := by
  unfold start
  split
  · rfl
  · split <;> rfl

/-- A path that does not climb has a name for each step. -/
theorem segments_eq_namesIn (h : .parent ∉ components p) : segments p = namesIn p := by
  rw [components_eq, List.mem_append, not_or, steps_eq] at h
  rw [namesIn, components_eq, List.filterMap_append, filterMap_start, steps_eq, map_stepOf h.2]
  simp [List.filterMap_map, Function.comp_def, Component.name?]

theorem steps_eq_namesIn (h : .parent ∉ components p) : steps p = (namesIn p).map .name := by
  have hsteps : .parent ∉ (segments p).map stepOf := by
    rw [components_eq, List.mem_append, not_or] at h
    exact h.2
  rw [steps_eq, map_stepOf hsteps, segments_eq_namesIn h]

end Path

namespace Package

theorem components_id {id : Text} (h : id ≠ [] ∧ Project.isSegment id = true) :
    Path.components id = [.name id] := by
  obtain ⟨habs, hsteps⟩ := steps_id h
  have hstart : Path.start id = [] := by
    obtain ⟨-, hseg⟩ := h
    obtain ⟨hslash, -, hdot, -⟩ : '/' ∉ id ∧ '\\' ∉ id ∧ id ≠ ['.'] ∧ id ≠ ['.', '.'] := by
      simpa [Project.isSegment, and_assoc] using hseg
    simp [Path.start, habs, Text.split_of_notMem hslash, hdot]
  rw [Path.components_eq, hstart, hsteps]
  rfl

end Package

namespace Project

/-- The id that a project file gives, if it can be read and has one. -/
def id? (t : Text) : Option Text :=
  match Xml.read t with
  | .ok root => property? (root.childrenTagged "PropertyGroup") "id"
  | .error _ => none

theorem id?_of_read {t : Text} {p : Package} (h : read t = .ok p) : id? t = some p.id := by
  unfold read at h
  split at h
  · cases h
  · rename_i hroot
    rw [id?, hroot]
    split at h
    · rename_i hp
      obtain rfl := Except.ok.inj h
      exact (id_property_of_ofGroups hp).1
    · cases h

end Project

namespace Layout

variable {folder destination packageId : Text}

/-- Behind the input folder come the names of the destination and then the id, in the folder of the
package as in its route. -/
structure Mirrors (folder destination packageId : Text) : Prop where
  folder : Path.withoutDots (base folder destination packageId) =
    Path.withoutDots folder ++ (Path.namesIn destination ++ [packageId]).map .name
  route : Path.segments (Route.base destination packageId) =
    Path.namesIn destination ++ [packageId]

theorem mirrors_of_accepted (hdest : .parent ∉ Path.components destination)
    (habs : Path.isAbsolute destination = false)
    (hpackage : packageId ≠ [] ∧ Project.isSegment packageId = true) :
    Mirrors folder destination packageId := by
  obtain ⟨hrel, hid⟩ := Package.steps_id hpackage
  have hsteps := Path.steps_eq_namesIn hdest
  constructor
  · rw [withoutDots_base habs hrel, hsteps, hid, List.map_append, List.append_assoc]
    rfl
  · apply Path.eq_of_map_stepOf
    rw [← Path.steps_eq, Route.steps_base, hsteps, hid, List.map_append]
    rfl

/-- Accepted settings and projects place a package inside the input folder, where its route says.
A destination that is blank, absolute or climbs is refused, and so is an id that is no single
name. -/
theorem base_mirrors_route (folder : Text) (options : SiteOptions) (t : Text) :
    (∀ p : Package, Settings.check options = .ok () → Project.read t = .ok p →
        Mirrors folder options.destination p.id) ∧
      (Text.trim options.destination = [] ∨ Path.isAbsolute options.destination = true ∨
          .parent ∈ Path.components options.destination →
        ∃ reason, Settings.check options = .error reason) ∧
      ∀ id : Text, Project.id? t = some id → Path.components id ≠ [.name id] →
        ∃ e, Project.read t = .error e := by
  refine ⟨?_, ?_, ?_⟩
  · intro p checked accepted
    obtain ⟨hdest, habs⟩ := Settings.destination_of_check checked
    exact mirrors_of_accepted hdest habs (Project.id_of_read accepted)
  · intro misplaced
    cases hcheck : Settings.check options with
    | error reason => exact ⟨reason, rfl⟩
    | ok =>
      obtain ⟨hblank, -, hdest, habs⟩ := Settings.check_ok_iff.mp hcheck
      rcases misplaced with hmis | hmis | hmis
      · exact absurd hmis hblank
      · rw [habs] at hmis
        cases hmis
      · exact absurd hmis hdest
  · intro id hid hcomponents
    cases hread : Project.read t with
    | error e => exact ⟨e, rfl⟩
    | ok p =>
      have hp : p.id = id := Option.some.inj ((Project.id?_of_read hread).symm.trans hid)
      exact absurd (hp ▸ Package.components_id (Project.id_of_read hread)) hcomponents

/-- A destination with idle slashes and dots is accepted; one that climbs is refused, and so is an
id of two names. -/
theorem exists_base_mirrors_route :
    Mirrors "in/." "./site//api/" "a" ∧
      (∃ reason, Settings.check { destination := "../site" } = .error reason) ∧
        ∃ e, Project.read
            ("<Project><PropertyGroup><title>A</title><id>a/b</id></PropertyGroup></Project>" :
              String) = .error e := by
  refine ⟨?_, ?_, ?_⟩
  · exact (base_mirrors_route "in/." { destination := "./site//api/" } _).1 _ (by cbv)
      Project.read_least
  · exact (base_mirrors_route [] { destination := "../site" } []).2.1 (.inr (.inr (by decide)))
  · exact (base_mirrors_route [] {} _).2.2 "a/b" (by cbv) (by decide)

end Layout

end RefSite
