import Mathlib
import RefSite.CommandLine.Run
import RefSite.Proofs.FileTree
import RefSite.Proofs.Plan
import RefSite.Proofs.Site

namespace RefSite

variable {σ : Type} [FileStore (StateM σ)] (v : FileView σ)

namespace FileView

include v

theorem looks_firstIn? (folders : List Text) :
    Looks (Settings.firstIn? (m := StateM σ) folders) := by
  induction folders with
  | nil => exact .pure _
  | cons folder folders ih =>
    rw [Settings.firstIn?]
    refine (v.looks_has _).bind fun there => ?_
    split
    · exact .pure _
    · exact ih

theorem looks_discover? (folder : Text) : Looks (Settings.discover? (m := StateM σ) folder) := by
  unfold Settings.discover?
  split
  · exact v.looks_workingFolder.bind fun start => v.looks_firstIn? _
  · exact (Looks.pure folder).bind fun start => v.looks_firstIn? _

theorem looks_readFile (path : Text) : Looks (Settings.readFile (m := StateM σ) path) := by
  refine (v.looks_read path).bind fun content => ?_
  split <;> exact .pure _

theorem looks_find (file : Option Text) (folder : Text) :
    Looks (Settings.find (m := StateM σ) file folder) := by
  cases file with
  | some path =>
    refine (v.looks_has path).bind fun there => ?_
    split
    · exact v.looks_readFile path
    · exact .pure _
  | none =>
    refine (v.looks_discover? folder).bind fun found => ?_
    split
    · exact v.looks_readFile _
    · exact .pure _

theorem looks_settings (file : Option Text) (folder : Text) (destination : Option Text) :
    Looks (Settings.load (m := StateM σ) file folder destination) :=
  (v.looks_find file folder).bind fun _ => .pure _

theorem looks_project (path : Text) : Looks (Project.load (m := StateM σ) path) := by
  refine (v.looks_has path).bind fun there => ?_
  split
  · refine (v.looks_read path).bind fun content => ?_
    split <;> exact .pure _
  · exact .pure _

theorem looks_readExport (path : Text) :
    Looks (CommandLine.readExport (m := StateM σ) path) := by
  refine (v.looks_read path).bind fun content => ?_
  split <;> exact .pure _

end FileView

namespace CommandLine

variable (a : Arguments) (s : σ)

def settingsStage : Except Failure SiteOptions :=
  (Settings.load (m := StateM σ) a.config a.folder a.destination s).1.mapError .input

def inputStage : Except Failure Text :=
  (FileStore.read (m := StateM σ) a.input s).1.mapError fun fault => .file ⟨a.input, fault⟩

def documentStage : Except Failure Export :=
  inputStage a s >>= fun content => (Export.read content).mapError .document

def projectStage : Except Failure Package :=
  (Project.load (m := StateM σ) (Project.pathFor a.input) s).1.mapError .input

def failed? {α : Type} : Except Failure α → Option Failure
  | .ok _ => none
  | .error failure => some failure

/-- The failure of the first stage that fails. -/
def firstFailure? : Option Failure :=
  [failed? (settingsStage a s), failed? (inputStage a s), failed? (documentStage a s),
    failed? (projectStage a s)].findSome? id

/-- The stages give the sources, so none of them fails. -/
structure Loads (src : Sources) : Prop where
  settings : settingsStage a s = .ok src.options
  document : documentStage a s = .ok src.document
  project : projectStage a s = .ok src.package

def loaded : Except Failure Sources := do
  let options ← settingsStage a s
  let document ← documentStage a s
  let package ← projectStage a s
  return { options, document, package }

theorem readExport_apply : (readExport (m := StateM σ) a.input s).1 = documentStage a s := by
  unfold readExport documentStage inputStage
  rw [bind_apply]
  cases (FileStore.read (m := StateM σ) a.input s).1 <;> rfl

include v in
/-- Loading only looks, so each stage finds the store as it was. -/
theorem load_apply : load (m := StateM σ) a s = (loaded a s, s) := by
  rw [load, (v.looks_settings _ _ _).bind_apply]
  unfold loaded settingsStage
  cases (Settings.load (m := StateM σ) a.config a.folder a.destination s).1 with
  | error e => rfl
  | ok options =>
    change (readExport (m := StateM σ) a.input >>= _) s = _
    rw [(v.looks_readExport _).bind_apply, readExport_apply]
    cases documentStage a s with
    | error failure => rfl
    | ok document =>
      change (Project.load (m := StateM σ) (Project.pathFor a.input) >>= _) s = _
      rw [(v.looks_project _).bind_apply]
      unfold projectStage
      cases (Project.load (m := StateM σ) (Project.pathFor a.input) s).1 <;> rfl

theorem failed?_loaded : failed? (loaded a s) = firstFailure? a s := by
  unfold firstFailure? loaded documentStage
  cases settingsStage a s with
  | error failure => rfl
  | ok options =>
    cases inputStage a s with
    | error failure => rfl
    | ok content =>
      change failed? ((Export.read content).mapError .document >>= _) =
        List.findSome? id [none, none, failed? ((Export.read content).mapError .document), _]
      cases (Export.read content).mapError Failure.document with
      | error failure => rfl
      | ok document => cases projectStage a s <;> rfl

variable {a s}

theorem eq_ok_of_mapError {ε ε' α : Type} {f : ε → ε'} {x : Except ε α} {b : α}
    (h : x.mapError f = .ok b) : x = .ok b := by
  cases x with
  | error e => cases h
  | ok b' => exact congrArg Except.ok (Except.ok.inj h)

/-- What was loaded was checked, so neither the destination nor the package's id is absolute. -/
theorem Loads.planned {src : Sources} (h : Loads a s src) : Planned a src (a.plan src) := by
  have hcheck := Settings.check_of_load (eq_ok_of_mapError h.settings)
  obtain ⟨t, hread⟩ := Project.exists_read_of_load (eq_ok_of_mapError h.project)
  exact planned_plan (Settings.destination_of_check hcheck).2
    (Package.steps_id (Project.id_of_read hread)).1

theorem loads_of_loaded {src : Sources} (h : loaded a s = .ok src) : Loads a s src := by
  obtain ⟨options, hoptions, h⟩ := Xml.exists_of_bind_eq_ok h
  obtain ⟨document, hdocument, h⟩ := Xml.exists_of_bind_eq_ok h
  obtain ⟨package, hpackage, h⟩ := Xml.exists_of_bind_eq_ok h
  obtain rfl := Except.ok.inj h
  exact ⟨hoptions, hdocument, hpackage⟩

include v in
theorem run_of_error {failure : Failure} (h : loaded a s = .error failure) :
    run (m := StateM σ) a s = ({ failure? := some failure }, s) := by
  rw [run, bind_apply, load_apply v, h]
  rfl

include v in
theorem run_of_loaded {src : Sources} (h : loaded a s = .ok src) :
    run (m := StateM σ) a s =
      (match (Layout.writeAll (m := StateM σ) (a.plan src) s).1 with
        | .error e => { lines := opening a.verbose src, failure? := some (.file e) }
        | .ok () => { lines := opening a.verbose src ++ closing (a.base src) src.site },
        (Layout.writeAll (m := StateM σ) (a.plan src) s).2) := by
  rw [run, bind_apply, load_apply v, h]
  change (Layout.writeAll (m := StateM σ) (a.plan src) >>= _) s = _
  rw [bind_apply]
  cases (Layout.writeAll (m := StateM σ) (a.plan src) s).1 <;> rfl

include v in
/-- A run that has loaded its sources fails where writing fails. -/
theorem failure?_run {src : Sources} (h : loaded a s = .ok src) :
    (run (m := StateM σ) a s).1.failure? = none ↔
      (Layout.writeAll (m := StateM σ) (a.plan src) s).1 = .ok () := by
  rw [run_of_loaded v h]
  cases (Layout.writeAll (m := StateM σ) (a.plan src) s).1 with
  | error e => exact iff_of_false nofun nofun
  | ok => exact iff_of_true rfl rfl

variable (a s)

inductive Outcome : Prop
  /-- A stage of loading failed, and all files are as they were. -/
  | refused (failure : Failure) :
    firstFailure? a s = some failure → (run (m := StateM σ) a s).1.failure? = some failure →
      v.file? (run (m := StateM σ) a s).2 = v.file? s → Outcome
  /-- The first `n` files of the plan were written, all of them exactly if the run succeeded. -/
  | wrote (src : Sources) (n : Nat) :
    firstFailure? a s = none → Loads a s src → Planned a src (a.plan src) →
      n ≤ (a.plan src).length →
        v.file? (run (m := StateM σ) a s).2 = v.applied s ((a.plan src).take n) →
        (n = (a.plan src).length ↔ (run (m := StateM σ) a s).1.failure? = none) → Outcome

/-- A run that cannot load tells the first fault and leaves all files alone; any other has written
its plan as far as it came. -/
theorem run_outcome : Outcome v a s := by
  cases h : loaded a s with
  | error failure =>
    have hfirst : firstFailure? a s = some failure := by
      rw [← failed?_loaded, h]
      rfl
    have hrun := run_of_error v h
    exact .refused failure hfirst (by rw [hrun]) (by rw [hrun])
  | ok src =>
    have hfirst : firstFailure? a s = none := by
      rw [← failed?_loaded, h]
      rfl
    obtain ⟨n, hn, hfiles, hiff⟩ := v.exists_applied (a.plan src) s
    have loads := loads_of_loaded h
    refine .wrote src n hfirst loads loads.planned hn ?_ (hiff.trans (failure?_run v h).symm)
    rw [run_of_loaded v h]
    exact hfiles

/-- A tree with an export and its project, and a folder in the place of the manifest. -/
def blocked : FileTree where
  workingFolder := ["w"]
  nodes := [(["w"], .folder),
    (["Acme.xml", "w"], .file ("<doc><members/></doc>" : String).toUTF8),
    (["Acme.csproj", "w"], .file
      ("<p><PropertyGroup><title>A</title><id>a</id></PropertyGroup></p>" : String).toUTF8),
    (["docs", "w"], .folder), (["a", "docs", "w"], .folder),
    (["menu.json", "a", "docs", "w"], .folder)]

theorem writeAll_blocked (body manifest : Text) :
    ∃ t, Layout.writeAll (m := StateM FileTree) [⟨"docs/a", "docs/a/index.md", body⟩,
        ⟨"docs/a", "docs/a/menu.json", manifest⟩] blocked =
          (.error ⟨"docs/a/menu.json", .isFolder⟩, t) ∧
      t.file? ["index.md", "a", "docs", "w"] = some (String.ofList body).toUTF8 := by
  refine ⟨_, Prod.ext (by cbv) rfl, by cbv⟩

set_option maxRecDepth 1000 in
/-- The page of the package is written before the manifest fails. -/
theorem exists_run_outcome :
    ∃ (a : Arguments) (t : FileTree) (src : Sources), Loads a t src ∧
      Outcome FileTree.view a t ∧
        (run (m := StateM FileTree) a t).1.failure? =
            some (.file ⟨"docs/a/menu.json", .isFolder⟩) ∧
          (run (m := StateM FileTree) a t).2.file? ["index.md", "a", "docs", "w"] =
            some (String.ofList src.site.package.body).toUTF8 := by
  let src : Sources :=
    { options := {}, document := ⟨[]⟩, package := { title := "A", id := "a" } }
  have loads : Loads { input := "Acme.xml" } blocked src := ⟨by cbv, by cbv, by cbv⟩
  have hloaded : loaded { input := "Acme.xml" } blocked = .ok src := by
    rw [loaded, loads.settings, loads.document, loads.project]
    rfl
  have hbase : Arguments.base { input := "Acme.xml" } src = "docs/a" := by cbv
  have hplan : Arguments.plan { input := "Acme.xml" } src =
      [⟨"docs/a", "docs/a/index.md", src.site.package.body⟩,
        ⟨"docs/a", "docs/a/menu.json", src.site.manifest⟩] := by
    rw [Arguments.plan, hbase]
    rfl
  obtain ⟨t, hwrite, hfile⟩ := writeAll_blocked src.site.package.body src.site.manifest
  refine ⟨_, _, src, loads, run_outcome FileTree.view _ _, ?_, ?_⟩
  · rw [run_of_loaded FileTree.view hloaded, hplan, hwrite]
  · rw [run_of_loaded FileTree.view hloaded, hplan, hwrite]
    exact hfile

/-- A tree with an export that documents a type whose name is an absolute path. -/
def rooted : FileTree where
  workingFolder := ["w"]
  nodes := [(["w"], .folder),
    (["Acme.xml", "w"], .file
      ("<doc><members><member name='T:/tmp/x'/></members></doc>" : String).toUTF8),
    (["Acme.csproj", "w"], .file
      ("<p><PropertyGroup><title>A</title><id>a</id></PropertyGroup></p>" : String).toUTF8)]

theorem writeAll_rooted (body other manifest : Text) :
    ∃ t, Layout.writeAll (m := StateM FileTree) [⟨"docs/a", "docs/a/index.md", body⟩,
        ⟨"/tmp/x", "/tmp/x/index.md", other⟩, ⟨"docs/a", "docs/a/menu.json", manifest⟩] rooted =
          (.ok (), t) ∧
      t.file? ["index.md", "x", "tmp", "a", "docs", "w"] = none ∧
        t.file? ["index.md", "x", "tmp"] = some (String.ofList other).toUTF8 := by
  refine ⟨_, Prod.ext (by cbv) rfl, by cbv, by cbv⟩

/-- The site of a single type has a single page besides the package's. -/
theorem exists_site_rooted (src : Sources)
    (h : src.document = ⟨[{ tag := "member", attributes := [("name", "T:/tmp/x")] }]⟩) :
    ∃ page, src.site.namespaces = [] ∧ src.site.types = [page] ∧ page.id = "/tmp/x" := by
  have hmarkers : src.document.entries.filter Entry.isNamespaceMarker = [] := by
    rw [h]
    cbv
  have howners : owners src.document.entries = ["/tmp/x".toList] := by
    rw [h]
    cbv
  obtain ⟨e, hfirst, hm⟩ : ∃ e, firstType? src.document.entries "/tmp/x" = some e ∧
      e.isNamespaceMarker = false := by
    rw [h]
    exact ⟨_, by cbv, by cbv⟩
  obtain ⟨he, hk, ho⟩ := of_firstType? hfirst
  have hdocumented : Documented src.document.entries "/tmp/x" := ⟨e, he, hk, ho, hm⟩
  have hpages := Site.forall₂_typePages src.options.style
    fun _ => Export.valid_of_mem (x := src.document)
  rw [howners, List.filter_cons, if_pos (decide_eq_true hdocumented), List.filter_nil] at hpages
  obtain ⟨page, _, ⟨-, -, -, hid⟩, hnil, htypes⟩ := List.forall₂_cons_left_iff.mp hpages
  cases hnil
  exact ⟨page, congrArg (List.map _) hmarkers, htypes, hid.trans (by decide)⟩

set_option maxRecDepth 1000 in
/-- A run succeeds, and the page of a type is not below the folder of the package, where its id says
it is. -/
theorem exists_written_elsewhere :
    ∃ (a : Arguments) (t : FileTree) (src : Sources) (page : Page), Loads a t src ∧
      page ∈ src.site.types ∧ page.id = "/tmp/x" ∧
        (run (m := StateM FileTree) a t).1.failure? = none ∧
          (run (m := StateM FileTree) a t).2.file? (t.place (Path.within
            [a.folder, src.options.destination, src.package.id, page.id] "index.md")) = none ∧
          (run (m := StateM FileTree) a t).2.file? (t.place "/tmp/x/index.md") =
            some (String.ofList page.body).toUTF8 := by
  let src : Sources :=
    { options := {}, document := ⟨[{ tag := "member", attributes := [("name", "T:/tmp/x")] }]⟩
      package := { title := "A", id := "a" } }
  have loads : Loads { input := "Acme.xml" } rooted src := ⟨by cbv, by cbv, by cbv⟩
  have hloaded : loaded { input := "Acme.xml" } rooted = .ok src := by
    rw [loaded, loads.settings, loads.document, loads.project]
    rfl
  obtain ⟨page, hnamespaces, htypes, hid⟩ := exists_site_rooted src rfl
  have hbase : Arguments.base { input := "Acme.xml" } src = "docs/a" := by cbv
  have hplan : Arguments.plan { input := "Acme.xml" } src =
      [⟨"docs/a", "docs/a/index.md", src.site.package.body⟩,
        ⟨"/tmp/x", "/tmp/x/index.md", page.body⟩,
        ⟨"docs/a", "docs/a/menu.json", src.site.manifest⟩] := by
    have hpage : Layout.plannedPage "docs/a" page =
        ⟨"/tmp/x", "/tmp/x/index.md", page.body⟩ := by
      rw [Layout.plannedPage, Layout.folderOf, hid]
      rfl
    rw [Arguments.plan, hbase, Layout.plan, Site.pages, hnamespaces, htypes, ← hpage]
    rfl
  obtain ⟨t, hwrite, hnone, hfile⟩ :=
    writeAll_rooted src.site.package.body page.body src.site.manifest
  have hrun := run_of_loaded FileTree.view hloaded
  rw [hplan, hwrite] at hrun
  refine ⟨_, _, src, page, loads, htypes ▸ List.mem_singleton_self page, hid, ?_⟩
  rw [hrun, hid]
  exact ⟨rfl, hnone, hfile⟩

end CommandLine

end RefSite
