import Mathlib.Logic.Function.Basic
import RefSite.Layout

namespace RefSite

/-- The program only looks at the store. -/
def Looks {σ α : Type} (x : StateM σ α) : Prop := ∀ s, (x s).2 = s

section

variable {σ α β : Type}

theorem bind_apply (x : StateM σ α) (f : α → StateM σ β) (s : σ) :
    (x >>= f) s = f (x s).1 (x s).2 := rfl

theorem Looks.pure (a : α) : Looks (pure a : StateM σ α) := fun _ => rfl

theorem Looks.bind {x : StateM σ α} {f : α → StateM σ β} (hx : Looks x) (hf : ∀ a, Looks (f a)) :
    Looks (x >>= f) := by
  intro s
  rw [bind_apply, hf, hx]

/-- What follows a look sees the store as it was. -/
theorem Looks.bind_apply {x : StateM σ α} (hx : Looks x) (f : α → StateM σ β) (s : σ) :
    (x >>= f) s = f (x s).1 s := by
  rw [RefSite.bind_apply, hx]

end

/-- The files of a store, each at its place. A place is what a path leads to, so two paths may have
one place. -/
structure FileView (σ : Type) [FileStore (StateM σ)] where
  Place : Type
  [decidableEq : DecidableEq Place]
  file? : σ → Place → Option ByteArray
  place : σ → Text → Place
  looks_workingFolder : Looks (FileStore.workingFolder (m := StateM σ))
  looks_has : ∀ path, Looks (FileStore.has (m := StateM σ) path)
  looks_isFolder : ∀ path, Looks (FileStore.isFolder (m := StateM σ) path)
  looks_read : ∀ path, Looks (FileStore.read (m := StateM σ) path)
  file?_makeFolder : ∀ path s, file? (FileStore.makeFolder (m := StateM σ) path s).2 = file? s
  place_makeFolder : ∀ path s, place (FileStore.makeFolder (m := StateM σ) path s).2 = place s
  /-- A file that was written is there in place of the one before, and all others are as before. -/
  file?_write : ∀ path content s,
    (FileStore.write (m := StateM σ) path content s).1 = .ok () →
      file? (FileStore.write (m := StateM σ) path content s).2 =
        Function.update (file? s) (place s path) (some (String.ofList content).toUTF8)
  file?_write_error : ∀ path content s fault,
    (FileStore.write (m := StateM σ) path content s).1 = .error fault →
      file? (FileStore.write (m := StateM σ) path content s).2 = file? s
  place_write : ∀ path content s,
    place (FileStore.write (m := StateM σ) path content s).2 = place s

namespace FileView

variable {σ α β : Type} [FileStore (StateM σ)] (v : FileView σ)

/-- The program leaves all files as they are, and all paths lead where they led. -/
structure Keeps (x : StateM σ α) : Prop where
  files : ∀ s, v.file? (x s).2 = v.file? s
  places : ∀ s, v.place (x s).2 = v.place s

variable {v}

theorem keeps_of_looks {x : StateM σ α} (h : Looks x) : v.Keeps x where
  files s := by rw [h s]
  places s := by rw [h s]

theorem Keeps.bind {x : StateM σ α} {f : α → StateM σ β} (hx : v.Keeps x)
    (hf : ∀ a, v.Keeps (f a)) : v.Keeps (x >>= f) where
  files s := by rw [bind_apply, (hf _).files, hx.files]
  places s := by rw [bind_apply, (hf _).places, hx.places]

theorem keeps_makeFolder (folder : Text) :
    v.Keeps (FileStore.makeFolder (m := StateM σ) folder) :=
  ⟨v.file?_makeFolder folder, v.place_makeFolder folder⟩

theorem keeps_settle (folder : Text) (outcome : Except FileFault Unit) :
    v.Keeps (FileStore.settle (m := StateM σ) folder outcome) := by
  apply keeps_of_looks
  cases outcome with
  | ok => exact .pure _
  | error fault =>
    refine (v.looks_isFolder folder).bind fun there => ?_
    split <;> exact .pure _

theorem keeps_makeAlong (folders : List Text) :
    v.Keeps (FileStore.makeAlong (m := StateM σ) folders) := by
  induction folders with
  | nil => exact keeps_of_looks (.pure _)
  | cons folder outer ih =>
    cases folder with
    | nil => exact keeps_of_looks (.pure _)
    | cons c folder =>
      rw [FileStore.makeAlong.eq_3 _ _ (List.cons_ne_nil c folder)]
      refine (keeps_makeFolder _).bind fun outcome => ?_
      split
      · refine ih.bind fun made => ?_
        split
        · exact (keeps_makeFolder _).bind fun outcome => keeps_settle _ outcome
        · exact keeps_of_looks (.pure _)
      · exact keeps_settle _ _

theorem keeps_makeFolders (folder : Text) :
    v.Keeps (FileStore.makeFolders (m := StateM σ) folder) := keeps_makeAlong _

variable (v)

/-- The files with a planned file written, where paths lead to the given places. -/
def put (place : Text → v.Place) (files : v.Place → Option ByteArray) (f : PlannedFile) :
    v.Place → Option ByteArray :=
  have := v.decidableEq
  Function.update files (place f.path) (some (String.ofList f.content).toUTF8)

/-- The files of a store after planned files were written in order. -/
def applied (s : σ) (plan : List PlannedFile) : v.Place → Option ByteArray :=
  plan.foldl (v.put (v.place s)) (v.file? s)

theorem write_of_error {f : PlannedFile} {s : σ} {fault : FileFault}
    (h : (FileStore.makeFolders (m := StateM σ) f.folder s).1 = .error fault) :
    Layout.write (m := StateM σ) f s =
      (.error ⟨f.folder, fault⟩, (FileStore.makeFolders (m := StateM σ) f.folder s).2) := by
  rw [Layout.write, bind_apply, h]
  rfl

theorem write_of_ok {f : PlannedFile} {s s' : σ}
    (h : FileStore.makeFolders (m := StateM σ) f.folder s = (.ok (), s')) :
    Layout.write (m := StateM σ) f s =
      (Layout.atPath f.path (FileStore.write (m := StateM σ) f.path f.content s').1,
        (FileStore.write (m := StateM σ) f.path f.content s').2) := by
  rw [Layout.write, bind_apply, h]
  rfl

/-- What writing one planned file leaves: the file is there, or all files are as before. -/
inductive Written (s : σ) (f : PlannedFile) : Except WriteError Unit × σ → Prop
  | done {s' : σ} : v.file? s' = v.put (v.place s) (v.file? s) f → v.place s' = v.place s →
    Written s f (.ok (), s')
  | failed {s' : σ} (e : WriteError) : v.file? s' = v.file? s → Written s f (.error e, s')

theorem written_write (f : PlannedFile) (s : σ) :
    v.Written s f (Layout.write (m := StateM σ) f s) := by
  have hfiles := (keeps_makeFolders (v := v) f.folder).files s
  have hplaces := (keeps_makeFolders (v := v) f.folder).places s
  rcases hmade : FileStore.makeFolders (m := StateM σ) f.folder s with ⟨made, s'⟩
  rw [hmade] at hfiles hplaces
  cases made with
  | error fault =>
    rw [write_of_error (congrArg Prod.fst hmade), hmade]
    exact .failed _ hfiles
  | ok =>
    rw [write_of_ok hmade]
    cases hwrite : (FileStore.write (m := StateM σ) f.path f.content s').1 with
    | error fault =>
      exact .failed _ ((v.file?_write_error _ _ _ _ hwrite).trans hfiles)
    | ok =>
      refine .done ?_ ((v.place_write _ _ _).trans hplaces)
      rw [v.file?_write _ _ _ hwrite, hfiles, hplaces]
      rfl

theorem applied_cons {s s' : σ} {f : PlannedFile}
    (files : v.file? s' = v.put (v.place s) (v.file? s) f) (places : v.place s' = v.place s)
    (plan : List PlannedFile) : v.applied s (f :: plan) = v.applied s' plan := by
  rw [applied, applied, List.foldl_cons, files, places]

/-- Files are written in order up to the first that fails, and nothing else happens to files. -/
theorem exists_applied (plan : List PlannedFile) (s : σ) :
    ∃ n ≤ plan.length,
      v.file? (Layout.writeAll (m := StateM σ) plan s).2 = v.applied s (plan.take n) ∧
        (n = plan.length ↔ (Layout.writeAll (m := StateM σ) plan s).1 = .ok ()) := by
  induction plan generalizing s with
  | nil => exact ⟨0, Nat.le_refl 0, rfl, iff_of_true rfl rfl⟩
  | cons f plan ih =>
    rw [Layout.writeAll, bind_apply]
    have hwritten := v.written_write f s
    rcases hwrite : Layout.write (m := StateM σ) f s with ⟨outcome, s'⟩
    rw [hwrite] at hwritten
    cases hwritten with
    | failed e hfiles => exact ⟨0, Nat.zero_le _, hfiles, iff_of_false nofun nofun⟩
    | done hfiles hplaces =>
      obtain ⟨n, hn, hall, hiff⟩ := ih s'
      refine ⟨n + 1, Nat.succ_le_succ hn, ?_, ?_⟩
      · rw [List.take_succ_cons, v.applied_cons hfiles hplaces]
        exact hall
      · rw [List.length_cons, Nat.add_right_cancel_iff]
        exact hiff

end FileView

end RefSite
