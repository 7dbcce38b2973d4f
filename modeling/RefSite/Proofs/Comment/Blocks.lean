import RefSite.Proofs.Comment.Pieces

namespace RefSite.Comment

open Xml (Element)

variable {e child item part root : Element} {es : List Element} {a : Piece} {ps : List Piece}
  {code : Text} {term : Option (List Piece)} {attributes : Xml.Attributes}

def itemParts (item : Element) : List Element :=
  (item.child? "term").toList ++ [(item.child? "description").getD item]

/-- In its role, the element shows code in a block. The code is its own text or is found in an
element that shows its content. -/
inductive Shows : Element → Text → Prop
  | code {e : Element} : Role.of e.tag = .codeBlock → Shows e e.innerText
  | content {e child : Element} {code : Text} :
    Role.of e.tag ∈ [.paragraph, .strong, .emphasis, .plain] → child ∈ e.children →
    Shows child code → Shows e code
  | label {e child : Element} {code : Text} :
    Role.of e.tag = .reference → e.attribute? "langword" = none → child ∈ e.children →
    Shows child code → Shows e code
  | item {e item part child : Element} {code : Text} :
    Role.of e.tag = .list → item ∈ e.children → item.tag = "item".toList → part ∈ itemParts item →
    child ∈ part.children → Shows child code → Shows e code

theorem pieces_eq (e : Element) :
    pieces e = plain (Markdown.escapeTicks e.text) ++ runPieces e.children := by
  cases e
  rw [pieces]

theorem inlinePieces_eq (e : Element) :
    inlinePieces e =
      match Role.of e.tag with
      | .reference => referencePieces e.attributes (pieces e)
      | .parameterName => plain (Markdown.codeSpan ((e.attribute? "name").getD []))
      | .code => plain (Markdown.codeSpan e.innerText)
      | .codeBlock => plain "\n" ++ [.block e.innerText] ++ plain "\n"
      | .paragraph => plain "\n" ++ pieces e ++ plain "\n"
      | .lineBreak => plain "\n"
      | .strong => emphasizePieces "**" (pieces e)
      | .emphasis => emphasizePieces "*" (pieces e)
      | .list =>
        plain "\n" ++ itemsPieces (e.attribute? "type" = some "number".toList) 1 e.children
      | .plain => pieces e := by
  cases e
  rw [inlinePieces, pieces, Element.innerText]
  rfl

theorem piecesOf_eq (tag : Text) (e : Element) :
    piecesOf tag e.children = (e.child? tag).map pieces := by
  rw [Element.child?]
  induction e.children with
  | nil => rw [piecesOf]; rfl
  | cons e es ih =>
    rw [piecesOf, List.find?_cons, ih]
    by_cases h : e.tag = tag <;> simp [h]

theorem mem_pieces (h : child ∈ e.children) (ha : a ∈ inlinePieces child) : a ∈ pieces e := by
  have hrun : ∀ es, child ∈ es → a ∈ runPieces es := by
    intro es
    induction es with
    | nil => exact fun h => nomatch h
    | cons e es ih =>
      intro h
      rw [runPieces]
      rcases List.mem_cons.mp h with rfl | h
      · exact List.mem_append_left _ (List.mem_append_left _ ha)
      · exact List.mem_append_right _ (ih h)
  rw [pieces_eq]
  exact List.mem_append_right _ (hrun _ h)

theorem block_mem_trimPieces (h : .block code ∈ ps) : .block code ∈ trimPieces ps :=
  Text.mem_rdropWhile (Text.mem_dropWhile h rfl) rfl

theorem block_mem_emphasizePieces (mark : Text) (h : .block code ∈ ps) :
    .block code ∈ emphasizePieces mark ps := by
  have htrim := block_mem_trimPieces h
  rw [emphasizePieces, if_neg (List.ne_nil_of_mem htrim)]
  exact List.mem_append_left _ (List.mem_append_right _ htrim)

theorem block_mem_referencePieces (hword : attributes.lookup "langword".toList = none)
    (h : .block code ∈ ps) : .block code ∈ referencePieces attributes ps := by
  have htrim := block_mem_trimPieces h
  have hlink (target : Text) : .block code ∈ linkPieces (trimPieces ps) target :=
    List.mem_append_left _ <| List.mem_append_left _ <| List.mem_append_left _ <|
      List.mem_append_right _ htrim
  simp only [referencePieces, hword, if_neg (List.ne_nil_of_mem htrim)]
  split
  · rename_i heq
    cases heq
  · exact hlink _
  · split
    · exact hlink _
    · exact htrim
  · exact htrim

theorem block_mem_itemPieces (h : .block code ∈ term.getD [] ∨ .block code ∈ ps) :
    .block code ∈ itemPieces term ps := by
  unfold itemPieces
  split_ifs with hblank
  · rcases h with h | h
    · exact absurd hblank (List.ne_nil_of_mem (block_mem_trimPieces h))
    · exact block_mem_trimPieces h
  · rcases h with h | h
    · exact List.mem_append_left _ <| List.mem_append_left _ <| List.mem_append_right _
        (block_mem_trimPieces h)
    · exact List.mem_append_right _ (block_mem_trimPieces h)

theorem block_mem_itemsPieces (numbered : Bool) (n : Nat) (hitem : item ∈ es)
    (htag : item.tag = "item".toList) (hpart : part ∈ itemParts item)
    (h : .block code ∈ pieces part) : .block code ∈ itemsPieces numbered n es := by
  have hshown : .block code ∈ itemPieces (piecesOf "term" item.children)
      ((piecesOf "description" item.children).getD (pieces item)) := by
    apply block_mem_itemPieces
    rw [piecesOf_eq, piecesOf_eq]
    rcases List.mem_append.mp hpart with hterm | hdescription
    · left
      rw [Option.mem_toList.mp hterm]
      exact h
    · right
      obtain rfl := List.mem_singleton.mp hdescription
      rwa [Option.getD_map]
  induction es generalizing n with
  | nil => cases hitem
  | cons e es ih =>
    obtain ⟨tag, attributes, text, children, tail⟩ := e
    rw [itemsPieces]
    rcases List.mem_cons.mp hitem with rfl | hitem
    · rw [if_pos htag]
      rw [pieces] at hshown
      exact List.mem_append_left _ (List.mem_append_left _ (List.mem_append_right _ hshown))
    · split_ifs
      · exact List.mem_append_right _ (ih (n + 1) hitem)
      · exact ih n hitem

theorem Shows.block_mem (h : Shows e code) : .block code ∈ inlinePieces e := by
  induction h with
  | code hrole =>
    rw [inlinePieces_eq, hrole]
    simp
  | @content e child code hrole hchild _ ih =>
    have hmem := mem_pieces hchild ih
    simp only [List.mem_cons, List.not_mem_nil, or_false] at hrole
    rw [inlinePieces_eq]
    rcases hrole with hrole | hrole | hrole | hrole <;> rw [hrole]
    · exact List.mem_append_left _ (List.mem_append_right _ hmem)
    · exact block_mem_emphasizePieces _ hmem
    · exact block_mem_emphasizePieces _ hmem
    · exact hmem
  | label hrole hword hchild _ ih =>
    rw [inlinePieces_eq, hrole]
    exact block_mem_referencePieces hword (mem_pieces hchild ih)
  | item hrole hitem htag hpart hchild _ ih =>
    rw [inlinePieces_eq, hrole]
    exact List.mem_append_right _ (block_mem_itemsPieces _ _ hitem htag hpart (mem_pieces hchild ih))

/-- Each block that a comment shows stands somewhere among its pieces. -/
theorem exists_pieces_eq (hchild : child ∈ root.children) (h : Shows child code) :
    ∃ as bs, pieces root = as ++ .block code :: bs :=
  List.append_of_mem (mem_pieces hchild h.block_mem)

end RefSite.Comment
