import Mathlib
import RefSite.Proofs.Accepted
import RefSite.Proofs.Run

namespace RefSite.Settings

open Toml (Value Fields)

/-- A setting is a text under a key of one of two sections. -/
inductive Setting
  | destination
  | codeLanguage
  | phrase (p : Phrase)

inductive Section
  | output
  | labels

namespace Section

def name : Section → Text
  | .output => "output"
  | .labels => "labels"

def keys : Section → List Text
  | .output => ["destination", "code_language"]
  | .labels => Phrase.all.map Phrase.key

end Section

namespace Setting

def part : Setting → Section
  | .destination | .codeLanguage => .output
  | .phrase _ => .labels

def key : Setting → Text
  | .destination => "destination"
  | .codeLanguage => "code_language"
  | .phrase p => p.key

def standard : Setting → Text
  | .destination => "docs"
  | .codeLanguage => "C#"
  | .phrase p => p.spanish

def value (options : SiteOptions) : Setting → Text
  | .destination => options.destination
  | .codeLanguage => options.style.codeLanguage
  | .phrase p => options.style.wording p

end Setting

def optionsOf (values : Setting → Text) : SiteOptions where
  destination := values .destination
  style := { codeLanguage := values .codeLanguage, wording := fun p => values (.phrase p) }

variable {document : Fields}

theorem value_optionsOf (values : Setting → Text) (setting : Setting) :
    setting.value (optionsOf values) = values setting := by
  cases setting <;> rfl

def fieldsOf (document : Fields) (s : Section) : Fields :=
  match document.lookup s.name with
  | some (.table _ fields) => fields
  | _ => []

def given? (document : Fields) (setting : Setting) : Option Text :=
  match (fieldsOf document setting.part).lookup setting.key with
  | some (.text t) => some t
  | _ => none

/-- Sections are tables and settings are texts, as far as the document has them. -/
structure Textual (document : Fields) : Prop where
  tables : ∀ (s : Section) (v : Value), document.lookup s.name = some v →
    ∃ form fields, v = .table form fields
  texts : ∀ (setting : Setting) (v : Value),
    (fieldsOf document setting.part).lookup setting.key = some v → ∃ t, v = .text t

def others (keys : List Text) (fields : Fields) : Fields := fields.filter (!keys.contains ·.1)

/-- No number under another key is out of range, so that the document can be read at all. -/
structure Legible (document : Fields) : Prop where
  around : Value.fieldsReadable (others ["output", "labels"] document) = true
  within : ∀ s : Section, Value.fieldsReadable (others s.keys (fieldsOf document s)) = true

theorem Textual.text? (h : Textual document) (setting : Setting) :
    text? (fieldsOf document setting.part) setting.key setting.standard =
      some ((given? document setting).getD setting.standard) := by
  unfold Settings.text? given?
  cases hv : (fieldsOf document setting.part).lookup setting.key with
  | none => rfl
  | some v =>
    obtain ⟨t, rfl⟩ := h.texts setting v hv
    rfl

theorem Textual.section? (h : Textual document) (s : Section) :
    Settings.section? document s.name s.keys =
      if Value.fieldsReadable (others s.keys (fieldsOf document s)) then
        some (fieldsOf document s)
      else none := by
  unfold Settings.section? fieldsOf
  cases hv : document.lookup s.name with
  | none => rfl
  | some v =>
    obtain ⟨form, fields, rfl⟩ := h.tables s v hv
    rfl

theorem Textual.wording? (h : Textual document) :
    wording? (fieldsOf document .labels) =
      some fun p => (given? document (.phrase p)).getD p.spanish := by
  have htext (p : Phrase) : Settings.text? (fieldsOf document .labels) p.key p.spanish =
      some ((given? document (.phrase p)).getD p.spanish) := h.text? (.phrase p)
  simp [Settings.wording?, htext]

/-- What the document sets, over the defaults. -/
def fromDocument (document : Fields) (setting : Setting) : Text :=
  (given? document setting).getD setting.standard

/-- A document sets each setting by itself, if it can be read at all. -/
theorem Textual.ofFields?_eq_some_iff (h : Textual document) {options : SiteOptions} :
    ofFields? document = some options ↔
      Legible document ∧ options = optionsOf (fromDocument document) := by
  have hwhole : record? ["output", "labels"] (.table .header document) =
      if Value.fieldsReadable (others ["output", "labels"] document) then some document
      else none := rfl
  have houtput : Settings.section? document "output" ["destination", "code_language"] = _ :=
    h.section? .output
  have hlabels : Settings.section? document "labels" (Phrase.all.map Phrase.key) = _ :=
    h.section? .labels
  have hdestination : Settings.text? (fieldsOf document .output) "destination" "docs" = _ :=
    h.text? .destination
  have hlanguage : Settings.text? (fieldsOf document .output) "code_language" "C#" = _ :=
    h.text? .codeLanguage
  simp only [Settings.ofFields?, hwhole, Option.bind_eq_bind, Option.bind_eq_some_iff,
    Option.ite_none_right_eq_some, Option.some.injEq, and_assoc, exists_and_left, exists_eq_left',
    houtput, hdestination, hlanguage, hlabels, h.wording?]
  constructor
  · rintro ⟨haround, hout, hlab, rfl⟩
    exact ⟨⟨haround, fun | .output => hout | .labels => hlab⟩, rfl⟩
  · rintro ⟨⟨haround, hwithin⟩, rfl⟩
    exact ⟨haround, hwithin .output, hwithin .labels, rfl⟩

section

variable {σ : Type} [FileStore (StateM σ)] {st : σ} {file destination : Option Text}
  {folder path content : Text} {options : SiteOptions}

/-- The settings file is the given one or, without one, the one that the search finds. -/
inductive Chosen (st : σ) (folder path : Text) : Option Text → Prop
  | given : (FileStore.has (m := StateM σ) path st).1 = true → Chosen st folder path (some path)
  | found : (discover? (m := StateM σ) folder st).1 = some path → Chosen st folder path none

/-- The settings file reads as the document, which has texts for settings. -/
structure Gives (st : σ) (file : Option Text) (folder : Text) (document : Fields) : Prop where
  text : ∃ path content, Chosen st folder path file ∧
    (FileStore.read (m := StateM σ) path st).1 = .ok content ∧ Toml.read? content = some document
  legible : Legible document
  textual : Textual document

/-- The destination of the command line lies over the one in the file. -/
def override (destination : Option Text) : Setting → Option Text
  | .destination => destination
  | _ => none

/-- Each setting from the uppermost layer that has it. -/
def layered (document : Fields) (destination : Option Text) (setting : Setting) : Text :=
  ((override destination setting).or (given? document setting)).getD setting.standard

theorem readFile_apply
    (hread : (FileStore.read (m := StateM σ) path st).1 = .ok content) :
    (readFile (m := StateM σ) path st).1 = read content := by
  rw [readFile, bind_apply, hread]
  rfl

theorem find_apply (v : FileView σ) (h : Chosen st folder path file)
    (hread : (FileStore.read (m := StateM σ) path st).1 = .ok content) :
    (find (m := StateM σ) file folder st).1 = read content := by
  cases h with
  | given hthere =>
    rw [find, (v.looks_has path).bind_apply, hthere]
    exact readFile_apply hread
  | found hfound =>
    rw [find, (v.looks_discover? folder).bind_apply, hfound]
    exact readFile_apply hread

theorem settle_optionsOf (document : Fields) (destination : Option Text) :
    settle destination (optionsOf (fromDocument document)) =
      match check (optionsOf (layered document destination)) with
      | .ok () => .ok (optionsOf (layered document destination))
      | .error reason => .error (.invalid reason) := by
  have hlayered : { optionsOf (fromDocument document) with
      destination := destination.getD (optionsOf (fromDocument document)).destination } =
        optionsOf (layered document destination) := by
    cases destination <;> rfl
  rw [← hlayered]
  rfl

theorem Gives.load_eq (v : FileView σ) (h : Gives st file folder document)
    (destination : Option Text) :
    (load (m := StateM σ) file folder destination st).1 =
      match check (optionsOf (layered document destination)) with
      | .ok () => .ok (optionsOf (layered document destination))
      | .error reason => .error (.invalid reason) := by
  obtain ⟨path, content, hchosen, hread, hdocument⟩ := h.text
  have hoptions : ofFields? document = some (optionsOf (fromDocument document)) :=
    h.textual.ofFields?_eq_some_iff.mpr ⟨h.legible, rfl⟩
  have hcontent : read content = .ok (optionsOf (fromDocument document)) := by
    rw [read, hdocument, Option.bind_eq_bind, Option.bind_some, hoptions]
  rw [load, bind_apply, find_apply v hchosen hread, hcontent, ← settle_optionsOf]
  rfl

/-- A relative path that does not climb. -/
def ValidDestination (destination : Text) : Prop :=
  Text.trim destination ≠ [] ∧ .parent ∉ Path.components destination ∧
    Path.isAbsolute destination = false

theorem validDestination_of_check (h : check options = .ok ()) :
    ValidDestination options.destination := by
  obtain ⟨hblank, -, hstays⟩ := check_ok_iff.mp h
  exact ⟨hblank, hstays⟩

/-- Settings that a file gives are accepted just if what comes out of the layers passes the checks,
and then these are the values. A destination of the command line that is not valid is always
rejected. Of another file nothing matters but what it gives for the settings that are not
overridden, and no setting depends on what is given for another. -/
theorem load_layered (v : FileView σ) (h : Gives st file folder document)
    (destination : Option Text) :
    ((∃ options, (load (m := StateM σ) file folder destination st).1 = .ok options) ↔
      check (optionsOf (layered document destination)) = .ok ()) ∧
    (∀ options, (load (m := StateM σ) file folder destination st).1 = .ok options →
      ∀ setting, setting.value options = layered document destination setting) ∧
    (∀ d, destination = some d → ¬ ValidDestination d →
      ∀ options, (load (m := StateM σ) file folder destination st).1 ≠ .ok options) ∧
    ∀ (st' : σ) (file' : Option Text) (folder' : Text) (document' : Fields),
      Gives st' file' folder' document' →
      ((∀ setting, override destination setting = none →
          given? document' setting = given? document setting) →
        (load (m := StateM σ) file' folder' destination st').1 =
          (load (m := StateM σ) file folder destination st).1) ∧
      ∀ setting, given? document' setting = given? document setting → ∀ options options',
        (load (m := StateM σ) file folder destination st).1 = .ok options →
        (load (m := StateM σ) file' folder' destination st').1 = .ok options' →
          setting.value options' = setting.value options := by
  have hvalue {st : σ} {file : Option Text} {folder : Text} {document : Fields}
      (h : Gives st file folder document) {options : SiteOptions}
      (hload : (load (m := StateM σ) file folder destination st).1 = .ok options) :
      check (optionsOf (layered document destination)) = .ok () ∧
        options = optionsOf (layered document destination) := by
    rw [h.load_eq v] at hload
    split at hload
    · rename_i hcheck
      exact ⟨hcheck, (Except.ok.inj hload).symm⟩
    · cases hload
  refine ⟨⟨fun ⟨options, hload⟩ => (hvalue h hload).1, fun hcheck => ?_⟩, ?_, ?_, ?_⟩
  · exact ⟨_, by rw [h.load_eq v, hcheck]⟩
  · intro options hload setting
    rw [(hvalue h hload).2, value_optionsOf]
  · rintro d rfl hinvalid options hload
    exact hinvalid (validDestination_of_check (hvalue h hload).1)
  · intro st' file' folder' document' h'
    refine ⟨fun hsame => ?_, fun setting hsame options options' hload hload' => ?_⟩
    · have hlayered : layered document' destination = layered document destination := by
        funext setting
        unfold layered
        cases hover : override destination setting with
        | some t => rfl
        | none => rw [hsame setting hover]
      rw [h.load_eq v, h'.load_eq v, hlayered]
    · rw [(hvalue h hload).2, (hvalue h' hload').2, value_optionsOf, value_optionsOf, layered,
        layered, hsame]

end

/-- A file whose destination leads out, and one that gives none. -/
def overridden : FileTree where
  nodes := [
    (["a"], .file ("x = 1\n[output]\ndestination = '/'\ny = 2\n[labels]\nclass = 'Class'" :
      String).toUTF8),
    (["b"], .file ("[labels]\nclass = 'Class'\n[z]" : String).toUTF8)]

def leadingOut : Fields :=
  [("x".toList, .integer 1),
    ("output".toList,
      .table .header [("destination".toList, .text ['/']), ("y".toList, .integer 2)]),
    ("labels".toList, .table .header [("class".toList, .text "Class".toList)])]

def labelsOnly : Fields :=
  [("labels".toList, .table .header [("class".toList, .text "Class".toList)]),
    ("z".toList, .table .header [])]

theorem exists_text_class {p : Phrase} {v : Value}
    (hv : [("class".toList, Value.text "Class".toList)].lookup p.key = some v) :
    ∃ t, v = .text t := by
  obtain ⟨before, behind, hfields, -⟩ := List.lookup_eq_some_iff.mp hv
  have hmem : (p.key, v) ∈ [("class".toList, Value.text "Class".toList)] := by
    rw [hfields]
    simp
  exact ⟨_, congrArg Prod.snd (List.mem_singleton.mp hmem)⟩

theorem gives_leadingOut : Gives overridden (some "a".toList) "" leadingOut where
  text := ⟨"a".toList,
    "x = 1\n[output]\ndestination = '/'\ny = 2\n[labels]\nclass = 'Class'".toList,
    .given (by cbv), by cbv, by cbv⟩
  legible := ⟨by decide, fun | .output => by decide | .labels => by decide⟩
  textual := {
    tables := by
      intro s v hv
      cases s with
      | output => exact ⟨_, _, (Option.some.inj hv).symm⟩
      | labels => exact ⟨_, _, (Option.some.inj hv).symm⟩
    texts := by
      intro setting v hv
      cases setting with
      | destination => exact ⟨_, (Option.some.inj hv).symm⟩
      | codeLanguage => cases hv
      | phrase p => exact exists_text_class hv }

theorem gives_labelsOnly : Gives overridden (some "b".toList) "" labelsOnly where
  text := ⟨"b".toList, "[labels]\nclass = 'Class'\n[z]".toList, .given (by cbv), by cbv, by cbv⟩
  legible := ⟨by decide, fun | .output => by decide | .labels => by decide⟩
  textual := {
    tables := by
      intro s v hv
      cases s with
      | output => cases hv
      | labels => exact ⟨_, _, (Option.some.inj hv).symm⟩
    texts := by
      intro setting v hv
      cases setting with
      | destination => cases hv
      | codeLanguage => cases hv
      | phrase p => exact exists_text_class hv }

/-- A destination that leads out does no harm under another one, and one that lies above all is
rejected whatever the file gives. -/
theorem exists_load_layered :
    ∃ options, (load (m := StateM FileTree) (some "a".toList) "" (some ['s']) overridden).1 =
        .ok options ∧
      options.destination = ['s'] ∧ options.style.codeLanguage = "C#".toList ∧
      options.style.wording .signature = "Class".toList ∧
      (load (m := StateM FileTree) (some "b".toList) "" (some ['s']) overridden).1 =
        .ok options ∧
      ¬ ValidDestination ['/'] ∧
      ∀ options', (load (m := StateM FileTree) (some "b".toList) "" (some ['/']) overridden).1 ≠
        .ok options' := by
  obtain ⟨haccepted, hvalues, -, hother⟩ :=
    load_layered FileTree.view gives_leadingOut (some ['s'])
  obtain ⟨options, hload⟩ := haccepted.mpr (check_ok_iff.mpr ⟨by decide, by decide, by decide +kernel⟩)
  obtain ⟨hsame, hfree⟩ := hother overridden (some "b".toList) "" labelsOnly gives_labelsOnly
  have hload' := (hsame fun setting hover => by
    cases setting with
    | destination => cases hover
    | codeLanguage => rfl
    | phrase p => cases p <;> rfl).trans hload
  have hclimbs : ¬ ValidDestination ['/'] := fun h => nomatch h.2.2
  exact ⟨options, hload, hvalues options hload .destination, hvalues options hload .codeLanguage,
    hvalues options hload (.phrase .signature), hload', hclimbs,
    (load_layered FileTree.view gives_labelsOnly (some ['/'])).2.2.1 _ rfl hclimbs⟩

end RefSite.Settings
