import Mathlib
import RefSite.Project

namespace RefSite

/-- The first of a list with a property. -/
def First {α : Type} (q : α → Prop) (xs : List α) (x : α) : Prop :=
  q x ∧ ∃ before behind, xs = before ++ x :: behind ∧ ∀ y ∈ before, ¬ q y

theorem findSome?_eq_some_iff_first {α β : Type} {f : α → Option β} {xs : List α} {b : β} :
    xs.findSome? f = some b ↔ ∃ x, First (fun y => f y ≠ none) xs x ∧ f x = some b := by
  rw [List.findSome?_eq_some_iff]
  constructor
  · rintro ⟨before, x, behind, hxs, hx, hbefore⟩
    exact ⟨x, ⟨by simp [hx], before, behind, hxs, by simpa using hbefore⟩, hx⟩
  · rintro ⟨x, ⟨-, before, behind, hxs, hbefore⟩, hx⟩
    exact ⟨before, x, behind, hxs, hx, by simpa using hbefore⟩

theorem find?_eq_some_iff_first {α : Type} {q : α → Prop} [DecidablePred q] {xs : List α} {x : α} :
    xs.find? (fun y => decide (q y)) = some x ↔ First q xs x := by
  simp [List.find?_eq_some_iff_append, First]

namespace Project

open Xml (Element)

variable {root group e : Element} {groups groups' : List Element} {name value : Text}
  {check : Check} {reason : Invalid}

def IsGroup (e : Element) : Prop := e.tag = "PropertyGroup".toList

/-- The element is the first child with the name in the first property group that has one. -/
def Declares (root : Element) (name : Text) (e : Element) : Prop :=
  ∃ group, First (fun g => IsGroup g ∧ ∃ c ∈ g.children, c.tag = name) root.children group ∧
    First (fun c => c.tag = name) group.children e

/-- The trimmed text of the element that declares the property is the value, and not blank. -/
def Has (root : Element) (name value : Text) : Prop :=
  value ≠ [] ∧ ∃ e, Declares root name e ∧ Text.trim e.innerText = value

theorem child?_eq_some_iff : group.child? name = some e ↔
    First (fun c => c.tag = name) group.children e :=
  find?_eq_some_iff_first

theorem child?_ne_none_iff : group.child? name ≠ none ↔ ∃ c ∈ group.children, c.tag = name := by
  simp [Element.child?]

theorem findSome?_childrenTagged (tag : Text) :
    (root.childrenTagged tag).findSome? (·.child? name) = some e ↔
      ∃ group, First (fun g => g.tag = tag ∧ ∃ c ∈ g.children, c.tag = name) root.children group ∧
        First (fun c => c.tag = name) group.children e := by
  have hwithin : (root.childrenTagged tag).findSome? (·.child? name) =
      root.children.findSome? fun g => if g.tag = tag then g.child? name else none := by
    simp only [Element.childrenTagged, ← List.head?_filterMap, List.filterMap_filter,
      decide_eq_true_eq]
  have hany (g : Element) : (if g.tag = tag then g.child? name else none) ≠ none ↔
      g.tag = tag ∧ ∃ c ∈ g.children, c.tag = name := by
    by_cases hg : g.tag = tag <;> simp [hg, child?_ne_none_iff]
  simp only [hwithin, findSome?_eq_some_iff_first, hany]
  refine exists_congr fun group => and_congr_right fun hfirst => ?_
  rw [if_pos hfirst.1.1, child?_eq_some_iff]

theorem declares_iff :
    (root.childrenTagged "PropertyGroup").findSome? (·.child? name) = some e ↔
      Declares root name e :=
  findSome?_childrenTagged _

theorem property?_eq_some_iff :
    property? (root.childrenTagged "PropertyGroup") name = some value ↔ Has root name value := by
  simp only [property?, Option.bind_eq_bind, Option.bind_eq_some_iff, declares_iff]
  constructor
  · rintro ⟨e, hdeclares, hvalue⟩
    split at hvalue
    · cases hvalue
    · rename_i hne
      obtain rfl := Option.some.inj hvalue
      exact ⟨hne, e, hdeclares, rfl⟩
  · rintro ⟨hne, e, hdeclares, rfl⟩
    exact ⟨e, hdeclares, if_neg hne⟩

theorem Has.unique {other : Text} (h : Has root name value) (h' : Has root name other) :
    value = other := by
  rw [← property?_eq_some_iff] at h h'
  exact Option.some.inj (h.symm.trans h')

theorem property?_eq_none_iff :
    property? (root.childrenTagged "PropertyGroup") name = none ↔ ∀ value, ¬ Has root name value := by
  simp only [Option.eq_none_iff_forall_ne_some, ne_eq, property?_eq_some_iff]

def IsSegment (id : Text) : Prop := '/' ∉ id ∧ '\\' ∉ id ∧ id ≠ ['.'] ∧ id ≠ ['.', '.']

def IsWebAddress (address : Text) : Prop :=
  "http://".toList <+: address ∨ "https://".toList <+: address

inductive Check
  | present (name : Text)
  | segment
  | webAddress (name : Text)

def addresses : List Text :=
  ["iconUrl", "nugetUrl", "devopsUrl", "RepositoryUrl", "releaseBadgeUrl"]

def checks : List Check :=
  .present "title" :: .present "id" :: .segment :: addresses.map .webAddress

inductive Fails (root : Element) : Check → Invalid → Prop
  | absent {name : Text} : (∀ value, ¬ Has root name value) →
    Fails root (.present name) (.empty name)
  | segment {id : Text} : Has root "id" id → ¬ IsSegment id →
    Fails root .segment (.idNotSegment id)
  | webAddress {name address : Text} : Has root name address → ¬ IsWebAddress address →
    Fails root (.webAddress name) (.notWebAddress name)

def Check.fault? (groups : List Element) : Check → Option Invalid
  | .present name => if property? groups name = none then some (.empty name) else none
  | .segment => (property? groups "id").bind fun id =>
    if isSegment id then none else some (.idNotSegment id)
  | .webAddress name => (property? groups name).bind fun address =>
    if isWebAddress address then none else some (.notWebAddress name)

def package (groups : List Element) : Package where
  title := (property? groups "title").getD []
  id := (property? groups "id").getD []
  description := (property? groups "description").getD []
  summary := (property? groups "summary").getD []
  iconUrl := property? groups "iconUrl"
  nugetUrl := property? groups "nugetUrl"
  devopsUrl := property? groups "devopsUrl"
  repositoryUrl := property? groups "RepositoryUrl"
  releaseBadgeUrl := property? groups "releaseBadgeUrl"

/-- A fault, or what there is without one. -/
def judged {α : Type} (fault : Option Invalid) (a : α) : Except Invalid α :=
  match fault with
  | some reason => .error reason
  | none => .ok a

theorem required_eq (groups : List Element) (name : Text) :
    required groups name =
      judged ((Check.present name).fault? groups) ((property? groups name).getD []) := by
  cases h : property? groups name <;> simp [required, Check.fault?, judged, h]

theorem address?_eq (groups : List Element) (name : Text) :
    address? groups name =
      judged ((Check.webAddress name).fault? groups) (property? groups name) := by
  cases h : property? groups name with
  | none => simp [address?, Check.fault?, judged, h]
  | some address =>
    by_cases hweb : isWebAddress address = true <;>
      simp [address?, Check.fault?, judged, h, hweb]

section

variable {α β : Type} {checks : List Check} {next : α → Except Invalid β} {a : α} {b : β}

/-- What passes a check is judged by the checks behind it. -/
theorem judged_cons (h : next a = judged (checks.findSome? (·.fault? groups)) b) :
    judged (check.fault? groups) a >>= next =
      judged ((check :: checks).findSome? (·.fault? groups)) b := by
  rw [List.findSome?_cons]
  cases check.fault? groups with
  | some reason => rfl
  | none => exact h

theorem judged_segment {id : Text} {x y : Except Invalid β}
    (hid : (property? groups "id").getD [] = id)
    (h : x = judged (checks.findSome? (·.fault? groups)) b) :
    (if !isSegment id then throw (.idNotSegment id) >>= fun _ : PUnit => y else x) =
      judged ((Check.segment :: checks).findSome? (·.fault? groups)) b := by
  subst hid
  rw [List.findSome?_cons, Check.fault?]
  cases property? groups "id" with
  | none => simpa [isSegment] using h
  | some id =>
    cases hsegment : isSegment id with
    | true => simpa [hsegment] using h
    | false =>
      simp [hsegment, judged]
      rfl

end

theorem ofGroups_eq (groups : List Element) :
    ofGroups groups = judged (checks.findSome? (·.fault? groups)) (package groups) := by
  simp only [ofGroups, required_eq, address?_eq]
  apply judged_cons
  apply judged_cons
  apply judged_segment rfl
  apply judged_cons
  apply judged_cons
  apply judged_cons
  apply judged_cons
  apply judged_cons
  rfl

theorem isSegment_iff {id : Text} : isSegment id = true ↔ IsSegment id := by
  simp [isSegment, IsSegment, and_assoc]

theorem isWebAddress_iff {address : Text} : isWebAddress address = true ↔ IsWebAddress address := by
  simp only [isWebAddress, Bool.or_eq_true, List.isPrefixOf_iff_prefix, IsWebAddress]

theorem fails_iff : Fails root check reason ↔
    check.fault? (root.childrenTagged "PropertyGroup") = some reason := by
  constructor
  · rintro (habsent | ⟨hid, hsegment⟩ | ⟨haddress, hweb⟩)
    · exact if_pos (property?_eq_none_iff.mpr habsent)
    · rw [Check.fault?, property?_eq_some_iff.mpr hid, Option.bind_some,
        if_neg (mt isSegment_iff.mp hsegment)]
    · rw [Check.fault?, property?_eq_some_iff.mpr haddress, Option.bind_some,
        if_neg (mt isWebAddress_iff.mp hweb)]
  · intro h
    cases check with
    | present name =>
      obtain ⟨habsent, ⟨⟩⟩ := Option.ite_none_right_eq_some.mp h
      exact .absent (property?_eq_none_iff.mp habsent)
    | segment =>
      obtain ⟨id, hid, h⟩ := Option.bind_eq_some_iff.mp h
      obtain ⟨hsegment, ⟨⟩⟩ := Option.ite_none_left_eq_some.mp h
      exact .segment (property?_eq_some_iff.mp hid) (mt isSegment_iff.mpr hsegment)
    | webAddress name =>
      obtain ⟨address, haddress, h⟩ := Option.bind_eq_some_iff.mp h
      obtain ⟨hweb, ⟨⟩⟩ := Option.ite_none_left_eq_some.mp h
      exact .webAddress (property?_eq_some_iff.mp haddress) (mt isWebAddress_iff.mpr hweb)

def FirstFault (root : Element) (reason : Invalid) : Prop :=
  ∃ check, First (fun c => ∃ r, Fails root c r) checks check ∧ Fails root check reason

theorem firstFault_iff : FirstFault root reason ↔
    checks.findSome? (·.fault? (root.childrenTagged "PropertyGroup")) = some reason := by
  simp only [FirstFault, findSome?_eq_some_iff_first, fails_iff, Option.ne_none_iff_exists']

theorem mem_checks : check ∈ checks ↔ check = .present "title" ∨ check = .present "id" ∨
    check = .segment ∨ ∃ name ∈ addresses, check = .webAddress name := by
  simp only [checks, List.mem_cons, List.mem_map, eq_comm]

structure Acceptable (root : Element) : Prop where
  title : ∃ title, Has root "title" title
  id : ∃ id, Has root "id" id ∧ IsSegment id
  addresses : ∀ name ∈ addresses, ∀ address, Has root name address → IsWebAddress address

theorem acceptable_iff_not_fails :
    Acceptable root ↔ ∀ check ∈ checks, ∀ reason, ¬ Fails root check reason := by
  constructor
  · rintro ⟨⟨title, htitle⟩, ⟨id, hid, hsegment⟩, haddresses⟩ check hcheck reason hfails
    rcases mem_checks.mp hcheck with rfl | rfl | rfl | ⟨name, hname, rfl⟩
    · cases hfails with
      | absent habsent => exact habsent title htitle
    · cases hfails with
      | absent habsent => exact habsent id hid
    · cases hfails with
      | segment hid' hnot => exact hnot (hid.unique hid' ▸ hsegment)
    · cases hfails with
      | webAddress haddress hnot => exact hnot (haddresses name hname _ haddress)
  · intro hpasses
    have hpresent (name : Text) (hname : .present name ∈ checks) : ∃ value, Has root name value := by
      by_contra habsent
      exact hpasses _ hname _ (.absent (not_exists.mp habsent))
    obtain ⟨id, hid⟩ := hpresent "id" (mem_checks.mpr (.inr (.inl rfl)))
    refine ⟨hpresent "title" (mem_checks.mpr (.inl rfl)), ⟨id, hid, ?_⟩, ?_⟩
    · by_contra hsegment
      exact hpasses _ (mem_checks.mpr (.inr (.inr (.inl rfl)))) _ (.segment hid hsegment)
    · intro name hname address haddress
      by_contra hweb
      exact hpasses _ (mem_checks.mpr (.inr (.inr (.inr ⟨name, hname, rfl⟩)))) _
        (.webAddress haddress hweb)

theorem acceptable_iff : Acceptable root ↔
    checks.findSome? (·.fault? (root.childrenTagged "PropertyGroup")) = none := by
  rw [acceptable_iff_not_fails, List.findSome?_eq_none_iff]
  simp only [Option.eq_none_iff_forall_ne_some, ne_eq, fails_iff]

/-- The value of the property, or nothing where the project does not have it. -/
def HasOrEmpty (root : Element) (name value : Text) : Prop :=
  Has root name value ∨ value = [] ∧ ∀ v, ¬ Has root name v

/-- The package holds just the values that the project has. -/
structure Describes (root : Element) (p : Package) : Prop where
  title : Has root "title" p.title
  id : Has root "id" p.id
  description : HasOrEmpty root "description" p.description
  summary : HasOrEmpty root "summary" p.summary
  iconUrl : ∀ address, p.iconUrl = some address ↔ Has root "iconUrl" address
  nugetUrl : ∀ address, p.nugetUrl = some address ↔ Has root "nugetUrl" address
  devopsUrl : ∀ address, p.devopsUrl = some address ↔ Has root "devopsUrl" address
  repositoryUrl : ∀ address, p.repositoryUrl = some address ↔ Has root "RepositoryUrl" address
  releaseBadgeUrl : ∀ address, p.releaseBadgeUrl = some address ↔ Has root "releaseBadgeUrl" address

theorem hasOrEmpty_getD (root : Element) (name : Text) :
    HasOrEmpty root name ((property? (root.childrenTagged "PropertyGroup") name).getD []) := by
  cases h : property? (root.childrenTagged "PropertyGroup") name with
  | none => exact .inr ⟨rfl, property?_eq_none_iff.mp h⟩
  | some value => exact .inl (property?_eq_some_iff.mp h)

theorem has_getD (h : ∃ value, Has root name value) :
    Has root name ((property? (root.childrenTagged "PropertyGroup") name).getD []) := by
  obtain ⟨value, hvalue⟩ := h
  rw [property?_eq_some_iff.mpr hvalue]
  exact hvalue

theorem Acceptable.describes (h : Acceptable root) :
    Describes root (package (root.childrenTagged "PropertyGroup")) where
  title := has_getD h.title
  id := has_getD (h.id.imp fun _ hid => hid.1)
  description := hasOrEmpty_getD root _
  summary := hasOrEmpty_getD root _
  iconUrl _ := property?_eq_some_iff
  nugetUrl _ := property?_eq_some_iff
  devopsUrl _ := property?_eq_some_iff
  repositoryUrl _ := property?_eq_some_iff
  releaseBadgeUrl _ := property?_eq_some_iff

def properties : List Text := "title" :: "id" :: "description" :: "summary" :: addresses

/-- The group has only properties that the project has already, be they blank. -/
def Repeats (root group : Element) : Prop :=
  ∀ c ∈ group.children, c.tag ∈ properties → ∃ e, Declares root c.tag e

theorem ofGroups_congr
    (h : ∀ name ∈ properties, property? groups name = property? groups' name) :
    ofGroups groups = ofGroups groups' := by
  simp only [properties, addresses, List.forall_mem_cons] at h
  obtain ⟨htitle, hid, hdescription, hsummary, hicon, hnuget, hdevops, hrepository, hbadge, -⟩ := h
  simp only [ofGroups, required, address?, htitle, hid, hdescription, hsummary, hicon, hnuget,
    hdevops, hrepository, hbadge]

/-- The first group with a property is not the last one, if the last one repeats it. -/
theorem Repeats.property?_append (h : Repeats root group) (hname : name ∈ properties) :
    property? (root.childrenTagged "PropertyGroup" ++ [group]) name =
      property? (root.childrenTagged "PropertyGroup") name := by
  have hfirst : (root.childrenTagged "PropertyGroup" ++ [group]).findSome? (·.child? name) =
      (root.childrenTagged "PropertyGroup").findSome? (·.child? name) := by
    rw [List.findSome?_append]
    by_cases hchild : group.child? name = none
    · simp only [List.findSome?_cons, List.findSome?_nil, hchild, Option.or_none]
    · obtain ⟨c, hc, rfl⟩ := child?_ne_none_iff.mp hchild
      obtain ⟨e, he⟩ := h c hc hname
      rw [declares_iff.mpr he, Option.some_or]
  rw [property?, hfirst, property?]

theorem Repeats.ofGroups_eq (h : Repeats root group) :
    ofGroups (root.childrenTagged "PropertyGroup" ++ [group]) =
      ofGroups (root.childrenTagged "PropertyGroup") :=
  ofGroups_congr fun _ hname => h.property?_append hname

theorem childrenTagged_append (hgroup : IsGroup group) :
    ({ root with children := root.children ++ [group] } : Element).childrenTagged "PropertyGroup" =
      root.childrenTagged "PropertyGroup" ++ [group] := by
  have hlast : [group].filter (·.tag = "PropertyGroup".toList) = [group] :=
    List.filter_cons_of_pos (decide_eq_true hgroup)
  simp only [Element.childrenTagged, List.filter_append, hlast]

theorem read_of_root {t : Text} (h : Xml.read t = .ok root) :
    read t = (ofGroups (root.childrenTagged "PropertyGroup")).mapError .invalid := by
  rw [read, h]
  dsimp only
  cases ofGroups (root.childrenTagged "PropertyGroup") <;> rfl

theorem Acceptable.read {t : Text} (h : Acceptable root) (hroot : Xml.read t = .ok root) :
    Project.read t = .ok (package (root.childrenTagged "PropertyGroup")) := by
  rw [read_of_root hroot, Project.ofGroups_eq, acceptable_iff.mp h]
  rfl

theorem FirstFault.read {t : Text} (h : FirstFault root reason) (hroot : Xml.read t = .ok root) :
    Project.read t = .error (.invalid reason) := by
  rw [read_of_root hroot, Project.ofGroups_eq, firstFault_iff.mp h]
  rfl

theorem exists_firstFault (h : ¬ Acceptable root) : ∃ reason, FirstFault root reason := by
  simp only [firstFault_iff]
  exact Option.ne_none_iff_exists'.mp (mt acceptable_iff.mpr h)

/-- A project is accepted just if it has what it has to have, and then the package holds its values.
Otherwise the first fault is given. A group at the end that repeats properties changes nothing. -/
theorem read_verdict (t : Text) :
    (∀ error, Xml.read t = .error error → read t = .error (.projectMalformed error)) ∧
      ∀ root, Xml.read t = .ok root →
        ((∃ p, read t = .ok p) ↔ Acceptable root) ∧
        (∀ p, read t = .ok p → Describes root p) ∧
        (¬ Acceptable root → ∃ reason, FirstFault root reason ∧ read t = .error (.invalid reason)) ∧
        ∀ (t' : Text) (group : Element), IsGroup group → Repeats root group →
          Xml.read t' = .ok { root with children := root.children ++ [group] } →
            read t' = read t := by
  refine ⟨fun error h => by rw [read, h], fun root hroot => ?_⟩
  have hfault (h : ¬ Acceptable root) :
      ∃ reason, FirstFault root reason ∧ read t = .error (.invalid reason) := by
    obtain ⟨reason, hfirst⟩ := exists_firstFault h
    exact ⟨reason, hfirst, hfirst.read hroot⟩
  have haccepted {p : Package} (hp : read t = .ok p) : Acceptable root := by
    by_contra h
    obtain ⟨reason, -, hread⟩ := hfault h
    rw [hread] at hp
    cases hp
  refine ⟨⟨fun ⟨p, hp⟩ => haccepted hp, fun h => ⟨_, h.read hroot⟩⟩, fun p hp => ?_, hfault, ?_⟩
  · have h := haccepted hp
    obtain rfl := Except.ok.inj ((h.read hroot).symm.trans hp)
    exact h.describes
  · intro t' group hgroup hrepeats hroot'
    rw [read_of_root hroot', read_of_root hroot, childrenTagged_append hgroup, hrepeats.ofGroups_eq]

/-- A project whose second group has the id and a blank address, with `last` behind it. -/
def repeated (last : String) : Text :=
  ("<P><PropertyGroup><title> A </title></PropertyGroup>" ++
    "<PropertyGroup><title>B</title><id>a</id><iconUrl/></PropertyGroup>" ++ last ++ "</P>").toList

/-- The group at the end has the id and the address once more. -/
theorem exists_read_verdict : ∃ (t' : Text) (root group : Element),
    t' = repeated "<PropertyGroup><iconUrl>c</iconUrl><id>/</id></PropertyGroup>" ∧
    Xml.read (repeated "") = .ok root ∧ IsGroup group ∧ Repeats root group ∧
    Xml.read t' = .ok { root with children := root.children ++ [group] } ∧
    Acceptable root ∧ Describes root { title := "A", id := "a" } ∧
    read t' = .ok { title := "A", id := "a" } ∧
    read "<P></Q>" = .error (.projectMalformed (.malformed (.wrongEnd "P" "Q"))) ∧
    ∃ reason, FirstFault { tag := "P" } reason ∧ read "<P/>" = .error (.invalid reason) := by
  let title (text : Text) : Element := { tag := "title", text }
  let id (text : Text) : Element := { tag := "id", text }
  let icon (text : Text) : Element := { tag := "iconUrl", text }
  let propertyGroup (children : List Element) : Element := { tag := "PropertyGroup", children }
  let root : Element :=
    { tag := "P"
      children := [propertyGroup [title " A "], propertyGroup [title "B", id "a", icon []]] }
  let group := propertyGroup [icon "c", id "/"]
  have hroot : Xml.read (repeated "") = .ok root := by cbv
  have hroot' : Xml.read (repeated
      "<PropertyGroup><iconUrl>c</iconUrl><id>/</id></PropertyGroup>") =
      .ok { root with children := root.children ++ [group] } := by cbv
  have hread : read (repeated "") = .ok { title := "A", id := "a" } := by cbv
  have hempty : read "<P/>" = .error (.invalid (.empty "title")) := by cbv
  have hrepeats : Repeats root group := by
    intro c hc _
    rcases List.mem_cons.mp hc with rfl | hc
    · exact ⟨icon [], declares_iff.mp rfl⟩
    · obtain rfl := List.mem_singleton.mp hc
      exact ⟨id "a", declares_iff.mp rfl⟩
  obtain ⟨haccepted, hdescribes, -, hsame⟩ := (read_verdict _).2 root hroot
  obtain ⟨hnone, -, hfault, -⟩ := (read_verdict "<P/>").2 { tag := "P" } (by cbv)
  refine ⟨_, root, group, rfl, hroot, rfl, hrepeats, hroot', ?_, hdescribes _ hread, ?_, ?_, ?_⟩
  · exact haccepted.mp ⟨_, hread⟩
  · rw [hsame _ group rfl hrepeats hroot', hread]
  · exact (read_verdict "<P></Q>").1 _ (by cbv)
  · refine hfault fun h => ?_
    obtain ⟨p, hp⟩ := hnone.mpr h
    rw [hempty] at hp
    cases hp

end Project

end RefSite
