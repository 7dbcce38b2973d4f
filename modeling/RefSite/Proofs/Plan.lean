import Mathlib.Data.List.Forall2
import RefSite.CommandLine.Run
import RefSite.Proofs.Accepted
import RefSite.Proofs.FileView

namespace RefSite

namespace Path

variable {p q : Text}

/-- The path of a folder as it stands before what is in the folder. -/
def asFront (folder : Text) : Text :=
  if folder = [] ∨ folder.getLast? = some '/' then folder else folder ++ "/"

/-- The path of a file in folders that are each in the one before. -/
def within (folders : List Text) (file : Text) : Text := folders.flatMap asFront ++ file

theorem join_eq (h : isAbsolute q = false) : join p q = asFront p ++ q := by
  rw [join, if_neg (Bool.eq_false_iff.mp h), asFront]
  split_ifs <;> rfl

theorem asFront_of_ne_nil (h : p ≠ []) :
    asFront p = if p.getLast? = some '/' then p else p ++ "/" := by
  simp only [asFront, h, false_or]

theorem asFront_asFront (p : Text) : asFront (asFront p) = asFront p := by
  by_cases hp : p = [] ∨ p.getLast? = some '/'
  · rw [asFront, asFront, if_pos hp, if_pos hp]
  · have hslash : (p ++ "/".toList).getLast? = some '/' := List.getLast?_concat
    rw [asFront, asFront, if_neg hp, if_pos (.inr hslash)]

theorem asFront_append (p q : Text) : asFront (asFront p ++ q) = asFront p ++ asFront q := by
  by_cases hq : q = []
  · rw [hq, List.append_nil, asFront_asFront]
    exact (List.append_nil _).symm
  · rw [asFront_of_ne_nil (List.append_ne_nil_of_right_ne_nil _ hq), asFront_of_ne_nil hq,
      List.getLast?_append_of_ne_nil _ hq]
    split_ifs
    · rfl
    · exact List.append_assoc _ _ _

end Path

namespace Layout

variable {destination packageId : Text} {page : Page}

theorem asFront_folderOf {base : Text} (h : Path.isAbsolute page.id = false) :
    Path.asFront (folderOf base page) = Path.asFront base ++ Path.asFront page.id := by
  unfold folderOf
  split
  · rename_i hnil
    rw [hnil]
    exact (List.append_nil _).symm
  · rw [Path.join_eq h, Path.asFront_append]

theorem asFront_base (folder : Text) (hdest : Path.isAbsolute destination = false)
    (hid : Path.isAbsolute packageId = false) :
    Path.asFront (base folder destination packageId) =
      [folder, destination, packageId].flatMap Path.asFront := by
  rw [base, Path.join_eq hid, Path.asFront_append, Path.join_eq hdest, Path.asFront_append]
  simp

end Layout

namespace Settings

variable {options : SiteOptions} {destination : Option Text}

theorem check_of_settle {found : SiteOptions} (h : settle destination found = .ok options) :
    check options = .ok () := by
  dsimp only [settle] at h
  split at h
  · rename_i hcheck
    exact Except.ok.inj h ▸ hcheck
  · cases h

/-- Settings are checked wherever they come from. -/
theorem check_of_load {σ : Type} [FileStore (StateM σ)] {file : Option Text} {folder : Text} {s : σ}
    (h : (load (m := StateM σ) file folder destination s).1 = .ok options) :
    check options = .ok () := by
  obtain ⟨found, -, hsettle⟩ := Xml.exists_of_bind_eq_ok h
  exact check_of_settle hsettle

end Settings

theorem Project.exists_read_of_load {σ : Type} [FileStore (StateM σ)] {path : Text} {p : Package}
    {s : σ} (h : (load (m := StateM σ) path s).1 = .ok p) : ∃ t, read t = .ok p := by
  rw [load, bind_apply] at h
  cases hthere : (FileStore.has (m := StateM σ) path s).1 with
  | false =>
    rw [hthere] at h
    cases h
  | true =>
    rw [hthere] at h
    change ((FileStore.read (m := StateM σ) path >>= _) _).1 = _ at h
    rw [bind_apply] at h
    cases hread : (FileStore.read (m := StateM σ) path
        (FileStore.has (m := StateM σ) path s).2).1 with
    | error fault =>
      rw [hread] at h
      cases h
    | ok content =>
      rw [hread] at h
      exact ⟨content, h⟩

namespace CommandLine

/-- The file shows the page, in a folder that is named by the page's id. This leaves open where a
page with an absolute id goes. -/
structure IsFileOf (a : Arguments) (src : Sources) (page : Page) (f : PlannedFile) : Prop where
  content : f.content = page.body
  path : Path.isAbsolute page.id = false → f.path =
    Path.within [a.folder, src.options.destination, src.package.id, page.id] "index.md"

/-- Files for the page of the package, those of the namespaces and those of the types, and the menu
as the last one. -/
def Planned (a : Arguments) (src : Sources) (plan : List PlannedFile) : Prop :=
  ∃ files manifest, plan = files ++ [manifest] ∧
    List.Forall₂ (IsFileOf a src)
      (src.site.package :: (src.site.namespaces ++ src.site.types)) files ∧
    manifest.path = Path.within [a.folder, src.options.destination, src.package.id] "menu.json" ∧
    manifest.content = Manifest.render src.site.menu

variable {a : Arguments} {src : Sources}

theorem planned_plan (hdest : Path.isAbsolute src.options.destination = false)
    (hid : Path.isAbsolute src.package.id = false) : Planned a src (a.plan src) := by
  have hbase := Layout.asFront_base a.folder hdest hid
  refine ⟨_, _, rfl, List.forall₂_map_right_iff.mpr (List.forall₂_same.mpr fun page _ => ?_), ?_,
    rfl⟩
  · refine ⟨rfl, fun hpage => ?_⟩
    change Path.join _ "index.md" = _
    rw [Path.join_eq (by decide), Layout.asFront_folderOf hpage, Arguments.base, hbase]
    simp [Path.within]
  · change Path.join _ "menu.json" = _
    rw [Path.join_eq (by decide), Arguments.base, hbase]
    rfl

end CommandLine

end RefSite
