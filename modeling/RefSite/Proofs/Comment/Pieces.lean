import RefSite.Comment
import RefSite.Proofs.Fence

namespace RefSite.Comment

open Xml (Element)

inductive Piece
  | char (c : Char)
  | block (code : Text)
  deriving DecidableEq

variable {a : Piece} {ps qs : List Piece} {code : Text}

def Piece.text : Piece → Text
  | .char c => [c]
  | .block code => Markdown.fenced code

def write (ps : List Piece) : Text := ps.flatMap Piece.text

def plain (t : Text) : List Piece := t.map Piece.char

def Piece.isBlank : Piece → Bool
  | .char c => Text.isBlank c
  | .block _ => false

def trimPieces (ps : List Piece) : List Piece :=
  (ps.dropWhile Piece.isBlank).rdropWhile Piece.isBlank

def linkPieces (label : List Piece) (target : Text) : List Piece :=
  plain "[" ++ label ++ plain "](" ++ plain target ++ plain ")"

def emphasizePieces (mark : Text) (content : List Piece) : List Piece :=
  if trimPieces content = [] then [] else plain mark ++ trimPieces content ++ plain mark

def referencePieces (attributes : Xml.Attributes) (content : List Piece) : List Piece :=
  match attributes.lookup "langword".toList, attributes.lookup "href".toList,
    attributes.lookup "cref".toList with
  | some word, _, _ => plain (Markdown.codeSpan word)
  | none, some href, _ =>
    linkPieces (if trimPieces content = [] then plain href else trimPieces content) href
  | none, none, some cref =>
    if trimPieces content = [] then plain (memberLink cref)
    else match Identifier.parse? cref with
      | some id => linkPieces (trimPieces content) id.target
      | none => trimPieces content
  | none, none, none => trimPieces content

def itemPieces (term : Option (List Piece)) (description : List Piece) : List Piece :=
  if trimPieces (term.getD []) = [] then trimPieces description
  else plain "**" ++ trimPieces (term.getD []) ++ plain "**: " ++ trimPieces description

mutual

def pieces : Element → List Piece
  | ⟨_, _, text, children, _⟩ => plain (Markdown.escapeTicks text) ++ runPieces children

def runPieces : List Element → List Piece
  | [] => []
  | e :: es => inlinePieces e ++ plain (Markdown.escapeTicks e.tail) ++ runPieces es

def inlinePieces : Element → List Piece
  | ⟨tag, attributes, text, children, _⟩ =>
    match Role.of tag with
    | .reference =>
      referencePieces attributes (plain (Markdown.escapeTicks text) ++ runPieces children)
    | .parameterName =>
      plain (Markdown.codeSpan ((attributes.lookup "name".toList).getD []))
    | .code => plain (Markdown.codeSpan (text ++ Element.innerTexts children))
    | .codeBlock => plain "\n" ++ [.block (text ++ Element.innerTexts children)] ++ plain "\n"
    | .paragraph =>
      plain "\n" ++ (plain (Markdown.escapeTicks text) ++ runPieces children) ++ plain "\n"
    | .lineBreak => plain "\n"
    | .strong => emphasizePieces "**" (plain (Markdown.escapeTicks text) ++ runPieces children)
    | .emphasis => emphasizePieces "*" (plain (Markdown.escapeTicks text) ++ runPieces children)
    | .list =>
      plain "\n" ++ itemsPieces (attributes.lookup "type".toList = some "number".toList) 1 children
    | .plain => plain (Markdown.escapeTicks text) ++ runPieces children

def itemsPieces (numbered : Bool) (n : Nat) : List Element → List Piece
  | [] => []
  | ⟨tag, _, text, children, _⟩ :: es =>
    if tag = "item" then
      plain (itemMarker numbered n) ++
        itemPieces (piecesOf "term" children)
          ((piecesOf "description" children).getD
            (plain (Markdown.escapeTicks text) ++ runPieces children)) ++
        plain "\n" ++ itemsPieces numbered (n + 1) es
    else itemsPieces numbered n es

def piecesOf (tag : Text) : List Element → Option (List Piece)
  | [] => none
  | e :: es => if e.tag = tag then some (pieces e) else piecesOf tag es

end

@[simp] theorem write_nil : write [] = [] := rfl

@[simp] theorem write_cons (a : Piece) (ps : List Piece) : write (a :: ps) = a.text ++ write ps :=
  rfl

@[simp] theorem write_append (ps qs : List Piece) : write (ps ++ qs) = write ps ++ write qs :=
  List.flatMap_append

@[simp] theorem write_plain (t : Text) : write (plain t) = t := by
  induction t with
  | nil => rfl
  | cons c t ih => exact congrArg (c :: ·) ih

theorem write_eq_nil_iff : write ps = [] ↔ ps = [] := by
  cases ps with
  | nil => exact iff_of_true rfl rfl
  | cons a ps =>
    cases a with
    | char c => exact iff_of_false (List.cons_ne_nil _ _) (List.cons_ne_nil _ _)
    | block code =>
      obtain ⟨t, ht⟩ := Markdown.fenced_eq_cons code
      rw [write_cons, Piece.text, ht]
      exact iff_of_false (List.cons_ne_nil _ _) (List.cons_ne_nil _ _)

theorem write_dropWhile (ps : List Piece) :
    write (ps.dropWhile Piece.isBlank) = Text.trimStart (write ps) := by
  induction ps with
  | nil => rfl
  | cons a ps ih =>
    cases a with
    | char c =>
      have hwrite : write (.char c :: ps) = c :: write ps := rfl
      rw [hwrite, Text.trimStart]
      by_cases hc : Piece.isBlank (.char c) = true
      · have hchar : Text.isBlank c = true := hc
        rw [List.dropWhile_cons_of_pos hc, List.dropWhile_cons_of_pos hchar, ih, Text.trimStart]
      · have hchar : ¬ Text.isBlank c = true := hc
        rw [List.dropWhile_cons_of_neg hc, List.dropWhile_cons_of_neg hchar, hwrite]
    | block code =>
      obtain ⟨t, ht⟩ := Markdown.fenced_eq_cons code
      rw [List.dropWhile_cons_of_neg Bool.false_ne_true, write_cons, Piece.text, ht]
      exact (List.dropWhile_cons_of_neg (by decide)).symm

theorem write_rdropWhile (ps : List Piece) :
    write (ps.rdropWhile Piece.isBlank) = Text.trimEnd (write ps) := by
  rw [Text.trimEnd_eq]
  induction ps using List.reverseRecOn with
  | nil => rfl
  | append_singleton ps a ih =>
    cases a with
    | char c =>
      have hwrite : write (ps ++ [.char c]) = write ps ++ [c] := write_append ps [.char c]
      rw [hwrite]
      by_cases hc : Piece.isBlank (.char c) = true
      · have hchar : Text.isBlank c = true := hc
        rw [List.rdropWhile_concat_pos _ _ _ hc, List.rdropWhile_concat_pos _ _ _ hchar, ih]
      · have hchar : ¬ Text.isBlank c = true := hc
        rw [List.rdropWhile_concat_neg _ _ _ hc, List.rdropWhile_concat_neg _ _ _ hchar, hwrite]
    | block code =>
      obtain ⟨t, ht⟩ := Markdown.fenced_eq_concat code
      rw [List.rdropWhile_concat_neg _ _ _ Bool.false_ne_true, write_append, write_cons, write_nil,
        Piece.text, ht, List.append_nil, ← List.append_assoc]
      exact (List.rdropWhile_concat_neg _ _ _ (by decide)).symm

theorem write_trimPieces (ps : List Piece) : write (trimPieces ps) = Text.trim (write ps) := by
  rw [trimPieces, write_rdropWhile, write_dropWhile, Text.trim]

theorem trimPieces_eq_nil_iff : trimPieces ps = [] ↔ Text.trim (write ps) = [] := by
  rw [← write_trimPieces, write_eq_nil_iff]

theorem write_emphasizePieces (mark : Text) (ps : List Piece) :
    write (emphasizePieces mark ps) = Markdown.emphasize mark (write ps) := by
  simp only [emphasizePieces, Markdown.emphasize, trimPieces_eq_nil_iff]
  split_ifs
  · rfl
  · simp only [write_append, write_plain, write_trimPieces]

theorem write_linkPieces (label : List Piece) (target : Text) :
    write (linkPieces label target) = Markdown.link (write label) target := by
  simp only [linkPieces, Markdown.link, write_append, write_plain]

theorem write_referencePieces (attributes : Xml.Attributes) (ps : List Piece) :
    write (referencePieces attributes ps) = reference attributes (write ps) := by
  rw [referencePieces, reference]
  generalize attributes.lookup "langword".toList = word
  generalize attributes.lookup "href".toList = address
  generalize attributes.lookup "cref".toList = member
  rcases word with _ | word
  · rcases address with _ | address
    · rcases member with _ | cref
      · exact write_trimPieces ps
      · simp only [trimPieces_eq_nil_iff]
        split_ifs
        · exact write_plain _
        · cases Identifier.parse? cref with
          | none => exact write_trimPieces ps
          | some id => rw [write_linkPieces, write_trimPieces]
    · simp only [trimPieces_eq_nil_iff, write_linkPieces]
      split_ifs
      · rw [write_plain]
      · rw [write_trimPieces]
  · exact write_plain _

theorem write_itemPieces (term : Option (List Piece)) (ps : List Piece) :
    write (itemPieces term ps) = itemText (term.map write) (write ps) := by
  have hterm : (term.map write).getD [] = write (term.getD []) := by cases term <;> rfl
  simp only [itemPieces, itemText, trimPieces_eq_nil_iff, hterm]
  split_ifs
  · exact write_trimPieces ps
  · simp only [write_append, write_plain, write_trimPieces]

mutual

/-- Blocks can be written last. -/
theorem write_pieces : ∀ e : Element, write (pieces e) = content e
  | ⟨_, _, text, children, _⟩ => by
    rw [pieces, content, write_append, write_plain, write_runPieces children]

theorem write_runPieces : ∀ es : List Element, write (runPieces es) = run es
  | [] => by rw [runPieces, run, write_nil]
  | e :: es => by
    rw [runPieces, run, write_append, write_append, write_plain, write_inlinePieces e,
      write_runPieces es]

theorem write_inlinePieces : ∀ e : Element, write (inlinePieces e) = inline e
  | ⟨tag, attributes, text, children, _⟩ => by
    have hcontent : write (plain (Markdown.escapeTicks text) ++ runPieces children) =
        Markdown.escapeTicks text ++ run children := by
      rw [write_append, write_plain, write_runPieces children]
    rw [inlinePieces, inline]
    cases Role.of tag with
    | reference => rw [write_referencePieces, hcontent]
    | parameterName => exact write_plain _
    | code => exact write_plain _
    | codeBlock =>
      rw [Markdown.codeBlock_eq, write_append, write_append, write_plain, write_cons, write_nil,
        List.append_nil]
      rfl
    | paragraph => rw [write_append, write_append, write_plain, hcontent]
    | lineBreak => exact write_plain _
    | strong => rw [write_emphasizePieces, hcontent]
    | emphasis => rw [write_emphasizePieces, hcontent]
    | list => rw [write_append, write_plain, write_itemsPieces _ _ children]
    | plain => exact hcontent

theorem write_itemsPieces (numbered : Bool) (n : Nat) :
    ∀ es : List Element, write (itemsPieces numbered n es) = items numbered n es
  | [] => by rw [itemsPieces, items, write_nil]
  | ⟨tag, _, text, children, _⟩ :: es => by
    rw [itemsPieces, items]
    split_ifs
    · rw [write_append, write_append, write_append, write_plain, write_plain, write_itemPieces,
        ← Option.getD_map write, map_write_piecesOf "term" children,
        map_write_piecesOf "description" children, write_append, write_plain,
        write_runPieces children, write_itemsPieces numbered (n + 1) es]
    · exact write_itemsPieces numbered n es

theorem map_write_piecesOf (tag : Text) :
    ∀ es : List Element, (piecesOf tag es).map write = contentOf tag es
  | [] => by rw [piecesOf, contentOf, Option.map_none]
  | e :: es => by
    rw [piecesOf, contentOf]
    split_ifs
    · rw [Option.map_some, write_pieces e]
    · exact map_write_piecesOf tag es

end

end RefSite.Comment
