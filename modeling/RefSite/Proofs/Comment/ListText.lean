import Mathlib.Algebra.BigOperators.Group.List.Basic
import Mathlib.Algebra.Order.BigOperators.Group.List
import Mathlib.Algebra.Order.Group.Nat
import RefSite.Comment
import RefSite.Proofs.Letters

namespace RefSite.Comment

open Xml (Element)
open Text (Blank)

variable {p : Char → Bool} {e item : Element} {es : List Element} {tag : Text}

/-- Plain text under a tag, with white space behind it. -/
structure Leaf (tag : Text) (e : Element) : Prop where
  tag_eq : e.tag = tag
  children : e.children = []
  tail : Blank e.tail

inductive PlainItem : Element → Prop
  | text {item : Element} : item.children = [] → PlainItem item
  | term {item term : Element} : Blank item.text → item.children = [term] →
    Leaf "term" term → PlainItem item
  | description {item description : Element} : Blank item.text → item.children = [description] →
    Leaf "description" description → PlainItem item
  | both {item term description : Element} : Blank item.text →
    item.children = [term, description] → Leaf "term" term →
    Leaf "description" description → PlainItem item

/-- The items of a list, each with white space behind it. -/
def PlainItems (es : List Element) : Prop :=
  ∀ item ∈ es, item.tag = "item" ∧ PlainItem item ∧ Blank item.tail

/-- A list of such items, with white space before them. -/
structure PlainList (e : Element) : Prop where
  tag : e.tag = "list"
  text : Blank e.text
  items : PlainItems e.children

/-- The text of a term that is all that the item holds. -/
def loneTerm (item : Element) : Text :=
  match item.children with
  | [term] => if term.tag = "term" then term.text else []
  | _ => []

/-- The marks of the items and of their terms, and those before backticks of the text. -/
def listMarks : Text := "-.:*\\0123456789"

def shownItem (item : Element) : Text :=
  itemText (contentOf "term" item.children)
    ((contentOf "description" item.children).getD (content item))

theorem items_cons (numbered : Bool) (n : Nat) (htag : item.tag = "item") (es : List Element) :
    items numbered n (item :: es) =
      itemMarker numbered n ++ shownItem item ++ "\n" ++ items numbered (n + 1) es := by
  obtain ⟨tag, attributes, text, children, tail⟩ := item
  rw [items, if_pos htag, shownItem, content]

theorem contentOf_self (htag : e.tag = tag) (es : List Element) :
    contentOf tag (e :: es) = some (content e) := by
  rw [contentOf, if_pos htag]

theorem contentOf_cons_of_ne (htag : e.tag ≠ tag) (es : List Element) :
    contentOf tag (e :: es) = contentOf tag es := by
  rw [contentOf, if_neg htag]

theorem contentOf_nil (tag : Text) : contentOf tag [] = none := by
  rw [contentOf]

theorem filter_itemText (hp : Excludes p listMarks) (term : Option Text) (description : Text) :
    (itemText term description).filter p = (term.getD []).filter p ++ description.filter p := by
  unfold itemText
  dsimp only
  split_ifs with hblank
  · rw [hp.filter_trim, hp.filter_of_blank (Text.trim_eq_nil_iff.mp hblank), List.nil_append]
  · have hopening : "**".toList.filter p = [] := hp.filter_of_subset (by decide)
    have hclosing : "**: ".toList.filter p = [] := hp.filter_of_subset (by decide)
    simp only [List.filter_append, hopening, hclosing, hp.filter_trim, List.nil_append,
      List.append_nil]

theorem mem_digits {c : Char} (h : c.isDigit = true) : c ∈ "0123456789".toList := by
  have hcode : c.toNat - 48 < 10 ∧ c = Char.ofNat (c.toNat - 48 + 48) := by
    have hrange : 48 ≤ c.toNat ∧ c.toNat ≤ 57 := by
      simpa [Char.isDigit, UInt32.le_iff_toNat_le] using h
    rw [Nat.sub_add_cancel hrange.1, Char.ofNat_toNat]
    exact ⟨by omega, rfl⟩
  have hdigits : ∀ n < 10, Char.ofNat (n + 48) ∈ "0123456789".toList := by decide
  rw [hcode.2]
  exact hdigits _ hcode.1

theorem filter_itemMarker (hp : Excludes p listMarks) (numbered : Bool) (n : Nat) :
    (itemMarker numbered n).filter p = [] := by
  have hdigits : (Nat.toDigits 10 n).filter p = [] := by
    apply hp.filter_of_subset
    intro c hc
    have hdigit := mem_digits (Nat.isDigit_of_mem_toDigits (by decide) (by decide) hc)
    exact List.mem_append_right " -.:*\\".toList hdigit
  have hdot : ". ".toList.filter p = [] := hp.filter_of_subset (by decide)
  unfold itemMarker
  split_ifs
  · rw [List.filter_append, hdigits, hdot, List.nil_append]
  · exact hp.filter_of_subset (by decide)

namespace Leaf

theorem filter_content (h : Leaf tag e) (hp : Excludes p listMarks) :
    (content e).filter p = e.text.filter p := by
  rw [content_eq, h.children, run, List.append_nil, hp.filter_escapeTicks (by decide)]

theorem filter_innerTexts (h : Leaf tag e) (hp : Excludes p listMarks) (es : List Element) :
    (Element.innerTexts (e :: es)).filter p =
      e.text.filter p ++ (Element.innerTexts es).filter p := by
  rw [Element.innerTexts_cons, Element.innerText_eq, h.children, List.filter_append,
    List.filter_append, hp.filter_of_blank h.tail, List.append_nil]
  simp [Element.innerTexts]

/-- A term within the content of an item is shown as it is. -/
theorem filter_run (h : Leaf "term" e) (hp : Excludes p listMarks) :
    (run [e]).filter p = e.text.filter p := by
  have hinline : inline e = content e := by
    obtain ⟨tag, attributes, text, children, tail⟩ := e
    obtain rfl := h.tag_eq
    rw [inline, content]
    rfl
  rw [run_cons, run, List.append_nil, List.filter_append, hinline, h.filter_content hp,
    hp.filter_escapeTicks (by decide), hp.filter_of_blank h.tail, List.append_nil]

end Leaf

/-- What is shown of an item is its text, once, and a term without a description once more. -/
theorem PlainItem.filter_shownItem (h : PlainItem item) (hp : Excludes p listMarks) :
    (shownItem item).filter p = (loneTerm item).filter p ++ item.innerText.filter p := by
  have hcontent : (content item).filter p = item.text.filter p ++ (run item.children).filter p := by
    rw [content_eq, List.filter_append, hp.filter_escapeTicks (by decide)]
  have hinner : item.innerText.filter p =
      item.text.filter p ++ (Element.innerTexts item.children).filter p := by
    rw [Element.innerText_eq, List.filter_append]
  have hend : (Element.innerTexts []).filter p = [] := by
    rw [Element.innerTexts, List.filter_nil]
  have hne : "description".toList ≠ "term".toList := by decide
  rw [shownItem, filter_itemText hp, hinner, loneTerm]
  cases h with
  | text hchildren =>
    rw [hchildren] at hcontent ⊢
    rw [contentOf_nil, contentOf_nil, Option.getD_none, Option.getD_none, hcontent, run, hend]
    rfl
  | term htext hchildren hterm =>
    rw [hchildren] at hcontent ⊢
    dsimp only
    rw [contentOf_self hterm.tag_eq, contentOf_cons_of_ne (hterm.tag_eq ▸ hne.symm), contentOf_nil,
      if_pos hterm.tag_eq, Option.getD_some, Option.getD_none, hcontent, hterm.filter_content hp,
      hterm.filter_run hp, hterm.filter_innerTexts hp, hend, List.append_nil]
  | description htext hchildren hdescription =>
    rw [hchildren]
    dsimp only
    rw [contentOf_self hdescription.tag_eq, contentOf_cons_of_ne (hdescription.tag_eq ▸ hne),
      contentOf_nil, if_neg (hdescription.tag_eq ▸ hne), Option.getD_some, Option.getD_none,
      hdescription.filter_content hp, hdescription.filter_innerTexts hp, hend,
      hp.filter_of_blank htext, List.append_nil]
    rfl
  | both htext hchildren hterm hdescription =>
    rw [hchildren]
    dsimp only
    rw [contentOf_self hterm.tag_eq, contentOf_cons_of_ne (hterm.tag_eq ▸ hne.symm),
      contentOf_self hdescription.tag_eq, Option.getD_some, Option.getD_some,
      hterm.filter_content hp, hdescription.filter_content hp, hterm.filter_innerTexts hp,
      hdescription.filter_innerTexts hp, hend, hp.filter_of_blank htext, List.append_nil]
    rfl

theorem filter_items (h : PlainItems es) (hp : Excludes p listMarks) (numbered : Bool) (n : Nat) :
    (items numbered n es).filter p =
      es.flatMap fun item => (loneTerm item).filter p ++ item.innerText.filter p := by
  induction es generalizing n with
  | nil =>
    rw [items]
    rfl
  | cons item es ih =>
    obtain ⟨⟨htag, hitem, -⟩, hes⟩ := List.forall_mem_cons.mp h
    have hbreak : "\n".toList.filter p = [] := hp.filter_of_blank (by decide)
    rw [items_cons numbered n htag, List.filter_append, List.filter_append, List.filter_append,
      filter_itemMarker hp, hitem.filter_shownItem hp, hbreak, ih hes, List.nil_append,
      List.append_nil, List.flatMap_cons]

theorem filter_innerTexts (h : PlainItems es) (hp : Excludes p listMarks) :
    (Element.innerTexts es).filter p = es.flatMap fun item => item.innerText.filter p := by
  induction es with
  | nil =>
    rw [Element.innerTexts]
    rfl
  | cons item es ih =>
    obtain ⟨⟨-, -, htail⟩, hes⟩ := List.forall_mem_cons.mp h
    rw [Element.innerTexts_cons, List.filter_append, List.filter_append, hp.filter_of_blank htail,
      ih hes, List.append_nil, List.flatMap_cons]

/-- What is added to some elements of a list shows, as nothing is taken away from others. -/
theorem flatMap_append_eq_iff {α β : Type} {f g : α → List β} {l : List α} :
    (l.flatMap fun x => f x ++ g x) = l.flatMap g ↔ ∀ x ∈ l, f x = [] := by
  constructor
  · intro h
    have hlength := congrArg List.length h
    simp only [List.length_flatMap, List.length_append, List.sum_map_add] at hlength
    have hnone : (l.map fun x => (f x).length).sum = 0 := by omega
    rw [List.sum_eq_zero_iff] at hnone
    intro x hx
    exact List.length_eq_zero_iff.mp (hnone _ (List.mem_map_of_mem hx))
  · intro h
    refine List.flatMap_congr fun x hx => ?_
    rw [h x hx, List.nil_append]

theorem PlainList.inline_eq (h : PlainList e) :
    inline e = "\n" ++ Comment.items (e.attribute? "type" = some "number".toList) 1 e.children := by
  obtain ⟨tag, attributes, text, children, tail⟩ := e
  obtain rfl := h.tag
  rw [inline]
  rfl

/-- A list shows the letters of its text, each once and in order, just if no item is a term alone
that has letters. The letters can be any class of characters without white space and marks. -/
theorem PlainList.letters_iff (h : PlainList e) (hp : Excludes p listMarks) :
    (inline e).filter p = e.innerText.filter p ↔
      ∀ item ∈ e.children, (loneTerm item).filter p = [] := by
  have hbreak : "\n".toList.filter p = [] := hp.filter_of_blank (by decide)
  rw [h.inline_eq, Element.innerText_eq, List.filter_append, List.filter_append, hbreak,
    hp.filter_of_blank h.text, filter_items h.items hp, filter_innerTexts h.items hp,
    List.nil_append, List.nil_append]
  exact flatMap_append_eq_iff

/-- What words are made of, but for the digits that also number the items. -/
def isLetter (c : Char) : Bool := Text.isWord c && !c.isDigit

/-- One item of each form, the lone term without letters. -/
theorem exists_letters :
    ∃ e : Element, PlainList e ∧ Excludes isLetter listMarks ∧
      inline e = "\n1. Größe\n2. **1**: 1\n3. a\\`b\n4. **Two**: Second\n" ∧
        (inline e).filter isLetter = e.innerText.filter isLetter := by
  let one : Element := { tag := "term", text := "1" }
  let two : Element := { tag := "term", text := "Two ", tail := "\n" }
  let ticks : Element := { tag := "description", text := "a`b" }
  let second : Element := { tag := "description", text := "Second", tail := " " }
  let item (text : Text) (children : List Element) : Element :=
    { tag := "item", text, children, tail := "\n" }
  let e : Element :=
    { tag := "list", attributes := [("type", "number")], text := "\n",
      children := [item "Größe" [], item [] [one], item " " [ticks], item "\n" [two, second]] }
  have hitems : PlainItems e.children := by
    have hone : Leaf "term" one := ⟨rfl, rfl, by decide⟩
    have htwo : Leaf "term" two := ⟨rfl, rfl, by decide⟩
    have hticks : Leaf "description" ticks := ⟨rfl, rfl, by decide⟩
    have hsecond : Leaf "description" second := ⟨rfl, rfl, by decide⟩
    simp only [e, PlainItems, List.forall_mem_cons]
    exact ⟨⟨rfl, .text rfl, by decide⟩, ⟨rfl, .term (by decide) rfl hone, by decide⟩,
      ⟨rfl, .description (by decide) rfl hticks, by decide⟩,
      ⟨rfl, .both (by decide) rfl htwo hsecond, by decide⟩, List.forall_mem_nil _⟩
  have hlist : PlainList e := ⟨rfl, by decide, hitems⟩
  have hletters : Excludes isLetter listMarks :=
    excludes_of_isWord (fun _ hc => (Bool.and_eq_true_iff.mp hc).1) (by decide +kernel)
  refine ⟨e, hlist, hletters, by decide +kernel, (hlist.letters_iff hletters).mpr ?_⟩
  decide +kernel

/-- A term alone is shown twice. -/
theorem exists_letters_repeated :
    ∃ e : Element, PlainList e ∧ e.innerText = "Two" ∧ inline e = "\n- **Two**: Two\n" ∧
      ∀ p : Char → Bool, p 'T' = true → (inline e).filter p ≠ e.innerText.filter p := by
  let term : Element := { tag := "term", text := "Two" }
  let item : Element := { tag := "item", children := [term] }
  let e : Element := { tag := "list", children := [item] }
  have hitem : PlainItem item := .term (by decide) rfl ⟨rfl, rfl, by decide⟩
  have hlist : PlainList e :=
    ⟨rfl, by decide, List.forall_mem_singleton.mpr ⟨rfl, hitem, by decide⟩⟩
  have hinner : e.innerText = "Two" := by decide +kernel
  have hinline : inline e = "\n- **Two**: Two\n" := by decide +kernel
  refine ⟨e, hlist, hinner, hinline, ?_⟩
  intro p hp h
  have hcount := congrArg (List.count 'T') h
  rw [hinner, hinline, List.count_filter hp, List.count_filter hp] at hcount
  exact absurd hcount (by decide)

end RefSite.Comment
