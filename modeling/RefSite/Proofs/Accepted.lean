import Mathlib
import RefSite.Project
import RefSite.Proofs.Path
import RefSite.Settings

namespace RefSite

namespace Project

open Xml (Element exists_of_bind_eq_ok)

variable {groups : List Element} {name value : Text} {p : Package}

theorem ne_nil_of_property? (h : property? groups name = some value) : value ≠ [] := by
  obtain ⟨e, -, h⟩ := Option.bind_eq_some_iff.mp h
  dsimp only at h
  split at h
  · cases h
  · rename_i hne
    exact Option.some.inj h ▸ hne

theorem property?_of_required (h : required groups name = .ok value) :
    property? groups name = some value := by
  unfold required at h
  split at h
  · rename_i hp
    exact Except.ok.inj h ▸ hp
  · cases h

theorem id_property_of_ofGroups (h : ofGroups groups = .ok p) :
    property? groups "id" = some p.id ∧ isSegment p.id = true := by
  obtain ⟨title, -, h⟩ := exists_of_bind_eq_ok h
  obtain ⟨id, hid, h⟩ := exists_of_bind_eq_ok h
  cases hseg : isSegment id with
  | false =>
    rw [hseg] at h
    cases h
  | true =>
    rw [hseg] at h
    obtain ⟨_, -, h⟩ := exists_of_bind_eq_ok h
    obtain ⟨_, -, h⟩ := exists_of_bind_eq_ok h
    obtain ⟨_, -, h⟩ := exists_of_bind_eq_ok h
    obtain ⟨_, -, h⟩ := exists_of_bind_eq_ok h
    obtain ⟨_, -, h⟩ := exists_of_bind_eq_ok h
    obtain rfl := Except.ok.inj h
    exact ⟨property?_of_required hid, hseg⟩

theorem id_of_ofGroups (h : ofGroups groups = .ok p) : p.id ≠ [] ∧ isSegment p.id = true := by
  obtain ⟨hid, hseg⟩ := id_property_of_ofGroups h
  exact ⟨ne_nil_of_property? hid, hseg⟩

theorem id_of_read {t : Text} (h : read t = .ok p) : p.id ≠ [] ∧ isSegment p.id = true := by
  unfold read at h
  split at h
  · cases h
  · split at h
    · rename_i hp
      obtain rfl := Except.ok.inj h
      exact id_of_ofGroups hp
    · cases h

/-- A title and an id make a project. -/
theorem read_least :
    read ("<Project><PropertyGroup><title>A</title><id>a</id></PropertyGroup></Project>" : String) =
      .ok { title := "A", id := "a" } := by cbv

end Project

/-- Settings are accepted if neither text is blank and the destination is relative and does not
climb. -/
theorem Settings.check_ok_iff {options : SiteOptions} :
    check options = .ok () ↔ Text.trim options.destination ≠ [] ∧
      Text.trim options.style.codeLanguage ≠ [] ∧
        .parent ∉ Path.components options.destination ∧
          Path.isAbsolute options.destination = false := by
  unfold check
  split
  · rename_i hblank
    simp [hblank]
  rename_i hblank
  split
  · rename_i hlanguage
    simp [hlanguage]
  rename_i hlanguage
  split
  · rename_i hout
    simp only [reduceCtorEq, false_iff]
    rintro ⟨-, -, hparent, habs⟩
    rcases hout with hout | hout
    · exact hparent hout
    · rw [habs] at hout
      cases hout
  · rename_i hout
    rw [not_or, Bool.not_eq_true] at hout
    simp [hblank, hlanguage, hout]

theorem Settings.destination_of_check {options : SiteOptions} (h : check options = .ok ()) :
    .parent ∉ Path.components options.destination ∧
      Path.isAbsolute options.destination = false :=
  (check_ok_iff.mp h).2.2

/-- The id of an accepted package is one step of a path. -/
theorem Package.steps_id {id : Text} (h : id ≠ [] ∧ Project.isSegment id = true) :
    Path.isAbsolute id = false ∧ Path.steps id = [.name id] := by
  obtain ⟨hne, hseg⟩ := h
  obtain ⟨hslash, -, hdot, hdots⟩ :
      '/' ∉ id ∧ '\\' ∉ id ∧ id ≠ ['.'] ∧ id ≠ ['.', '.'] := by
    simpa [Project.isSegment, and_assoc] using hseg
  exact ⟨Path.isAbsolute_of_not_mem hslash, Path.steps_of_not_mem hslash hne hdot hdots⟩

end RefSite
