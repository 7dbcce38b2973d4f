import RefSite.Entry
import RefSite.Proofs.NormalLines

namespace RefSite

open Xml (Element)

namespace Markdown

variable {t left right l : Text} {c last : Char}

/-- The pieces of a row between its bars, the row behind the character `last`. A bar behind a
backslash is part of a piece. -/
def cellsAfter (last : Char) : Text → List Text
  | [] => [[]]
  | c :: t =>
    if c = '|' ∧ last ≠ '\\' then [] :: cellsAfter c t else (cellsAfter c t).modifyHead (c :: ·)

def cells (row : Text) : List Text := cellsAfter '\n' row

/-- The number of bars that no backslash stands right before. -/
def bareBars (row : Text) : Nat :=
  (('\n' :: row).zip row).countP fun (last, c) => c = '|' ∧ last ≠ '\\'

theorem length_cellsAfter (last : Char) (t : Text) :
    (cellsAfter last t).length =
      ((last :: t).zip t).countP (fun (last, c) => c = '|' ∧ last ≠ '\\') + 1 := by
  induction t generalizing last with
  | nil => rfl
  | cons c t ih =>
    rw [cellsAfter, List.zip_cons_cons, List.countP_cons]
    by_cases hbar : c = '|' ∧ last ≠ '\\'
    · rw [if_pos hbar, if_pos (by simpa using hbar), List.length_cons, ih]
    · rw [if_neg hbar, if_neg (by simpa using hbar), List.length_modifyHead, ih]

theorem length_cells (row : Text) : (cells row).length = bareBars row + 1 := length_cellsAfter _ row

/-- Each bar of the text stands behind a backslash. -/
def Guarded (last : Char) : Text → Prop
  | [] => True
  | c :: t => (c = '|' → last = '\\') ∧ Guarded c t

theorem guarded_of_not_mem (last : Char) (h : '|' ∉ t) : Guarded last t := by
  induction t generalizing last with
  | nil => trivial
  | cons c t ih =>
    obtain ⟨hc, ht⟩ : '|' ≠ c ∧ '|' ∉ t := by simpa using h
    exact ⟨fun he => absurd he.symm hc, ih c ht⟩

theorem guarded_escapeBars (last : Char) (t : Text) : Guarded last (escapeBars t) := by
  induction t generalizing last with
  | nil => trivial
  | cons c t ih =>
    rw [escapeBars, Text.replace, List.flatMap_cons]
    by_cases hc : c = '|'
    · rw [if_pos hc]
      exact ⟨fun he => absurd he (by decide), fun _ => rfl, ih '|'⟩
    · rw [if_neg hc]
      exact ⟨fun he => absurd he hc, ih c⟩

/-- A guarded text stays in one piece up to the space behind it. -/
theorem cellsAfter_append (h : Guarded last t) (rest : Text) :
    cellsAfter last (t ++ ' ' :: rest) = (cellsAfter ' ' rest).modifyHead (t ++ ' ' :: ·) := by
  induction t generalizing last with
  | nil => rw [List.nil_append, cellsAfter, if_neg (by simp)]; rfl
  | cons c t ih =>
    obtain ⟨hc, ht⟩ := h
    rw [List.cons_append, cellsAfter, if_neg fun hbar => hbar.2 (hc hbar.1), ih ht,
      List.modifyHead_modifyHead]
    rfl

/-- A cell is what stands between two bars, with the spaces around it. -/
theorem cellsAfter_cell (h : Guarded ' ' t) (rest : Text) :
    cellsAfter '|' (' ' :: (t ++ ' ' :: '|' :: rest)) =
      (' ' :: (t ++ [' '])) :: cellsAfter '|' rest := by
  rw [cellsAfter, if_neg (by simp), cellsAfter_append h, cellsAfter, if_pos (by simp)]
  rfl

theorem cells_tableRow (hleft : Guarded ' ' left) (hright : Guarded ' ' right) :
    cells (tableRow left right) =
      [[], ' ' :: (left ++ [' ']), ' ' :: (right ++ [' ']), []] := by
  have hrow : tableRow left right =
      '|' :: ' ' :: (left ++ ' ' :: '|' :: ' ' :: (right ++ ' ' :: '|' :: [])) := by
    simp [tableRow]
  rw [hrow, cells, cellsAfter, if_pos (by simp), cellsAfter_cell hleft, cellsAfter_cell hright]
  rfl

theorem not_mem_escapeBars (h : '\n' ∉ t) : '\n' ∉ escapeBars t := by
  intro hmem
  obtain ⟨c, hc, hbreak⟩ := List.mem_flatMap.mp hmem
  split_ifs at hbreak
  · exact absurd hbreak (by decide)
  · exact h (List.mem_singleton.mp hbreak ▸ hc)

/-- The row has two cells with the given texts, between three bars and with spaces around them. -/
def HasCells (row left right : Text) : Prop :=
  bareBars row = 3 ∧ cells row = [[], ' ' :: (left ++ [' ']), ' ' :: (right ++ [' ']), []]

theorem hasCells_tableRow (hleft : Guarded ' ' left) (hright : Guarded ' ' right) :
    HasCells (tableRow left right) left right := by
  have hcells := cells_tableRow hleft hright
  have hlength := length_cells (tableRow left right)
  rw [hcells] at hlength
  exact ⟨(Nat.succ.inj hlength).symm, hcells⟩

end Markdown

theorem Comment.break_not_mem_oneLine (e : Element) : '\n' ∉ Comment.oneLine e := by
  intro h
  rcases Text.exists_of_mem_join h with h | ⟨l, hl, hbreak⟩
  · exact absurd h (by decide)
  · exact Markdown.break_not_mem_of_mem_normalLines (List.mem_of_mem_filter hl) hbreak

namespace Entry

variable {e : Entry} {x : Element} {w : Wording} {d : Described}

/-- A table of a fragment: its title, the caption of its first column and what it describes. The
second column is captioned as the description. -/
structure Table where
  title : Phrase
  left : Phrase
  described : List Described

def tables (e : Entry) : List Table :=
  [⟨.parameters, .name, e.params⟩, ⟨.typeParameters, .name, e.typeParams⟩,
    ⟨.exceptions, .exception, e.exceptions⟩]

def Table.header (w : Wording) (t : Table) : Text :=
  Markdown.tableRow (w t.left) (w .description)

def Table.lines (w : Wording) (t : Table) : List Text :=
  table (w t.title) (w t.left) (w .description) t.described

variable {t : Table}

theorem mem_tables : t ∈ e.tables ↔ t = ⟨.parameters, .name, e.params⟩ ∨
    t = ⟨.typeParameters, .name, e.typeParams⟩ ∨ t = ⟨.exceptions, .exception, e.exceptions⟩ := by
  simp [tables]

theorem exists_fragment_eq (w : Wording) (e : Entry) : ∃ front middle back, fragment w e =
    front ++ (Table.lines w ⟨.parameters, .name, e.params⟩ ++
      (Table.lines w ⟨.typeParameters, .name, e.typeParams⟩ ++
        (middle ++ (Table.lines w ⟨.exceptions, .exception, e.exceptions⟩ ++ back)))) := by
  refine ⟨["### " ++ Markdown.escapeHtml e.caption, []] ++ block e.summary,
    titled (w .returns) e.returns ++ titled (w .value) e.value,
    titled (w .remarks) e.remarks ++ titled (w .examples) e.examples, ?_⟩
  simp only [fragment, Table.lines, List.append_assoc]

/-- The tables of a fragment are among its lines. -/
theorem lines_infix_fragment (w : Wording) (h : t ∈ e.tables) : t.lines w <:+: fragment w e := by
  obtain ⟨front, middle, back, he⟩ := exists_fragment_eq w e
  rw [he]
  apply List.infix_append_of_infix_right
  rcases mem_tables.mp h with rfl | rfl | rfl
  · exact (List.prefix_append _ _).isInfix
  · exact List.infix_append_of_infix_right (List.prefix_append _ _).isInfix
  · exact List.infix_append_of_infix_right
      (List.infix_append_of_infix_right (List.infix_append_of_infix_right
        (List.prefix_append _ _).isInfix))

theorem break_not_mem_described {tag key : Text} (h : d ∈ described x tag key) : '\n' ∉ d.text := by
  obtain ⟨child, -, rfl⟩ := List.mem_map.mp h
  exact Comment.break_not_mem_oneLine child

theorem break_not_mem_of_ofElement? (h : ofElement? x = some e) (ht : t ∈ e.tables)
    (hd : d ∈ t.described) : '\n' ∉ d.text := by
  obtain ⟨id, -, he⟩ := Option.bind_eq_some_iff.mp h
  obtain rfl := Option.some.inj he
  rcases mem_tables.mp ht with rfl | rfl | rfl
  · exact break_not_mem_described hd
  · exact break_not_mem_described hd
  · exact break_not_mem_described hd

/-- A caption is written as it is. With captions without bars, each row of a table has exactly two
cells, and what is described is in one line. -/
theorem fragment_tables (h : ofElement? x = some e) (hname : '|' ∉ w .name)
    (hexception : '|' ∉ w .exception) (hdescription : '|' ∉ w .description) (ht : t ∈ e.tables) :
    t.lines w <:+: fragment w e ∧
      Markdown.HasCells (t.header w) (w t.left) (w .description) ∧
      ∀ d ∈ t.described,
        Markdown.HasCells (row d) (Markdown.escapeBars (rowName d.name))
            (Markdown.escapeBars d.text) ∧
          '\n' ∉ Markdown.escapeBars d.text := by
  refine ⟨lines_infix_fragment w ht, ?_, ?_⟩
  · refine Markdown.hasCells_tableRow ?_ (Markdown.guarded_of_not_mem _ hdescription)
    rcases mem_tables.mp ht with rfl | rfl | rfl
    · exact Markdown.guarded_of_not_mem _ hname
    · exact Markdown.guarded_of_not_mem _ hname
    · exact Markdown.guarded_of_not_mem _ hexception
  · intro d hd
    exact ⟨Markdown.hasCells_tableRow (Markdown.guarded_escapeBars _ _)
      (Markdown.guarded_escapeBars _ _),
      Markdown.not_mem_escapeBars (break_not_mem_of_ofElement? h ht hd)⟩

theorem exists_ofElement? {name : Text} {id : Identifier} (hname : x.attribute? "name" = some name)
    (hid : Identifier.parse? name = some id) :
    ∃ e, ofElement? x = some e ∧ e.params = described x "param" "name" := by
  have hread : x.attribute? "name" >>= Identifier.parse? = some id :=
    Option.bind_eq_some_iff.mpr ⟨name, hname, hid⟩
  exact ⟨_, Option.bind_eq_some_iff.mpr ⟨id, hread, rfl⟩, rfl⟩

/-- A list with a bar behind a backslash, in the row of a parameter. -/
theorem exists_fragment_tables : ∃ (x : Element) (e : Entry) (t : Table) (d : Described),
    ofElement? x = some e ∧ t ∈ e.tables ∧ d ∈ t.described ∧
      t.lines Phrase.spanish <:+: fragment Phrase.spanish e ∧
      row d = "| `x\\|y` | a \\\\| b - c |" ∧ Markdown.bareBars (row d) = 3 ∧
      Markdown.cells (row d) = ["".toList, " `x\\|y` ", " a \\\\| b - c ", ""] := by
  let item : Element := { tag := "item", text := "c" }
  let list : Element := { tag := "list", children := [item] }
  let param : Element :=
    { tag := "param", attributes := [("name", "x|y")], text := "a \\| b", children := [list] }
  let x : Element := { tag := "member", attributes := [("name", "M:A.Do")], children := [param] }
  obtain ⟨id, hid⟩ : ∃ id, Identifier.parse? "M:A.Do" = some id := ⟨_, rfl⟩
  have hparam : Comment.oneLine param = "a \\| b - c" := by
    have hcontent : Comment.content param = "a \\| b\n- c\n" := rfl
    rw [Comment.oneLine, Comment.lines, hcontent]
    decide
  obtain ⟨e, he, hparams⟩ := exists_ofElement? (x := x) rfl hid
  have hparams : e.params = [{ name := "x|y", text := "a \\| b - c" }] := by
    rw [hparams, ← hparam]
    rfl
  have ht : ⟨.parameters, .name, e.params⟩ ∈ e.tables := List.mem_cons_self
  obtain ⟨hwithin, -, hrows⟩ := fragment_tables (w := Phrase.spanish) he (by decide) (by decide)
    (by decide) ht
  have hd : ⟨"x|y", "a \\| b - c"⟩ ∈ e.params := hparams ▸ List.mem_cons_self
  obtain ⟨⟨hbars, hcells⟩, -⟩ := hrows _ hd
  refine ⟨x, e, _, _, he, ht, hd, hwithin, by decide, hbars, ?_⟩
  rw [hcells]
  decide

/-- A caption of two lines breaks the header. -/
theorem exists_broken_header : ∃ (x : Element) (e : Entry) (w : Wording) (t : Table),
    ofElement? x = some e ∧ '|' ∉ w .name ∧ '|' ∉ w .exception ∧ '|' ∉ w .description ∧
      t ∈ e.tables ∧ t.described ≠ [] ∧ t.header w ∈ fragment w e ∧
      ∃ left right, Markdown.cells (t.header w) = [[], left, right, []] ∧ '\n' ∈ right := by
  let param : Element :=
    { tag := "param", attributes := [("name", "x")], text := "Text." }
  let x : Element := { tag := "member", attributes := [("name", "M:A.Do")], children := [param] }
  let w : Wording := fun p => if p = .description then "Descripción\nlarga" else p.spanish
  obtain ⟨id, hid⟩ : ∃ id, Identifier.parse? "M:A.Do" = some id := ⟨_, rfl⟩
  obtain ⟨e, he, hparams⟩ := exists_ofElement? (x := x) rfl hid
  have hsome : e.params ≠ [] := by
    rw [hparams]
    exact List.cons_ne_nil _ _
  have ht : ⟨.parameters, .name, e.params⟩ ∈ e.tables := List.mem_cons_self
  have hheader : Table.header w ⟨.parameters, .name, e.params⟩ ∈ fragment w e := by
    refine (lines_infix_fragment w ht).subset ?_
    rw [Table.lines, table, if_neg hsome]
    exact List.mem_append_left _ (List.mem_append_left _ (by simp [Table.header]))
  have hcells : Markdown.cells (Markdown.tableRow "Nombre" "Descripción\nlarga") =
      ["".toList, " Nombre ", " Descripción\nlarga ", ""] := by decide
  exact ⟨x, e, w, _, he, by decide, by decide, by decide, ht, hsome, hheader, _, _, hcells,
    by decide⟩

end Entry

end RefSite
