import Mathlib
import RefSite.Proofs.Xml.RoundTrip

namespace RefSite.Xml

/-- The tokens to come, and the names of the open elements, the innermost first. -/
structure Reader where
  openNames : List Text
  rest : List (Except Fault Token)

namespace Reader

/-- The next token, or nothing at the end. An end tag has to name the innermost open element. -/
def next (r : Reader) : Except Fault (Option (Token × Reader)) :=
  match r.rest with
  | [] => .ok none
  | .error fault :: _ => .error fault
  | .ok (.start tag attributes) :: rest =>
    .ok (some (.start tag attributes, ⟨tag :: r.openNames, rest⟩))
  | .ok (.stop tag) :: rest =>
    match r.openNames with
    | [] => .error (.endWithoutStart tag)
    | name :: names =>
      if tag = name then .ok (some (.stop tag, ⟨names, rest⟩)) else .error (.wrongEnd name tag)
  | .ok token :: rest => .ok (some (token, ⟨r.openNames, rest⟩))

def ofText (t : Text) : Reader := { openNames := [], rest := tokens (dropMark (dropMark t)) }

end Reader

/-- The text that a token stands for. Tags stand for none, and asides for the empty text. -/
def Token.text? : Token → Option Text
  | .start .. | .empty .. | .stop _ => none
  | .text t | .cdata t => some t
  | .reference name => some (decodeReference name)
  | .aside => some []

def Token.opens : Token → Bool
  | .start .. | .empty .. => true
  | _ => false

/-- Starts open a name, and ends close the innermost one. -/
def Token.Moves (names names' : List Text) : Token → Prop
  | .start tag _ => names' = tag :: names
  | .stop tag => names = tag :: names'
  | _ => names' = names

/-- A token, and the element that was being read when it came. -/
structure Delivery where
  within : Option Text
  token : Token

/-- Reads on inside of an element, given its tag, what it holds so far and the reader. The tokens
that come, and what the element holds at the end. -/
inductive ReadsInside : Text → Frame → Reader → List Delivery → Except Error (Frame × Reader) → Prop
  | fault {parent : Text} {f : Frame} {r : Reader} {fault : Fault} :
    r.next = .error fault → ReadsInside parent f r [] (.error (.malformed fault))
  | ended {parent : Text} {f : Frame} {r : Reader} :
    r.next = .ok none → ReadsInside parent f r [] (.ok (f, r))
  | text {parent t : Text} {f : Frame} {r s : Reader} {token : Token} {log : List Delivery}
    {result : Except Error (Frame × Reader)} :
    r.next = .ok (some (token, s)) → token.text? = some t →
    ReadsInside parent (f.addText t) s log result →
    ReadsInside parent f r (⟨some parent, token⟩ :: log) result
  | empty {parent tag : Text} {attributes : Attributes} {f : Frame} {r s : Reader}
    {log : List Delivery} {result : Except Error (Frame × Reader)} :
    r.next = .ok (some (.empty tag attributes, s)) →
    ReadsInside parent (f.addChild { tag, attributes }) s log result →
    ReadsInside parent f r (⟨some parent, .empty tag attributes⟩ :: log) result
  | startFails {parent tag : Text} {attributes : Attributes} {f : Frame} {r s : Reader}
    {log : List Delivery} {error : Error} :
    r.next = .ok (some (.start tag attributes, s)) →
    ReadsInside tag { tag, attributes } s log (.error error) →
    ReadsInside parent f r (⟨some parent, .start tag attributes⟩ :: log) (.error error)
  | start {parent tag : Text} {attributes : Attributes} {f child : Frame} {r s u : Reader}
    {log log' : List Delivery} {result : Except Error (Frame × Reader)} :
    r.next = .ok (some (.start tag attributes, s)) →
    ReadsInside tag { tag, attributes } s log (.ok (child, u)) →
    ReadsInside parent (f.addChild child.close) u log' result →
    ReadsInside parent f r (⟨some parent, .start tag attributes⟩ :: (log ++ log')) result
  | stop {parent : Text} {f : Frame} {r s : Reader} :
    r.next = .ok (some (.stop parent, s)) →
    ReadsInside parent f r [⟨some parent, .stop parent⟩] (.ok (f, s))
  /-- The end of another element would be passed over. -/
  | passed {parent tag : Text} {f : Frame} {r s : Reader} {log : List Delivery}
    {result : Except Error (Frame × Reader)} :
    r.next = .ok (some (.stop tag, s)) → tag ≠ parent →
    ReadsInside parent f s log result →
    ReadsInside parent f r (⟨some parent, .stop tag⟩ :: log) result

/-- Passes over what stands before the root element, and reads it. -/
inductive ReadsRoot : Reader → List Delivery → Except Error Element → Prop
  | fault {r : Reader} {fault : Fault} :
    r.next = .error fault → ReadsRoot r [] (.error (.malformed fault))
  | ended {r : Reader} : r.next = .ok none → ReadsRoot r [] (.error .noRoot)
  | start {tag : Text} {attributes : Attributes} {r s : Reader} {log : List Delivery}
    {result : Except Error (Frame × Reader)} :
    r.next = .ok (some (.start tag attributes, s)) →
    ReadsInside tag { tag, attributes } s log result →
    ReadsRoot r (⟨none, .start tag attributes⟩ :: log) (result.map fun root => root.1.close)
  | empty {tag : Text} {attributes : Attributes} {r s : Reader} :
    r.next = .ok (some (.empty tag attributes, s)) →
    ReadsRoot r [⟨none, .empty tag attributes⟩] (.ok { tag, attributes })
  | passed {r s : Reader} {token : Token} {log : List Delivery} {result : Except Error Element} :
    r.next = .ok (some (token, s)) → token.opens = false → ReadsRoot s log result →
    ReadsRoot r (⟨none, token⟩ :: log) result

variable {parent tag name t : Text} {chain : List Text} {attributes : Attributes} {token : Token}
  {f g : Frame} {outer : List Frame} {r s : Reader} {fault : Fault} {log : List Delivery}
  {inside : Except Error (Frame × Reader)} {result : Except Error Element}

namespace Reader

theorem next_eq_none (h : r.next = .ok none) : r.rest = [] := by
  unfold next at h
  split at h
  · assumption
  · cases h
  · cases h
  · split at h
    · cases h
    · split at h <;> cases h
  · cases h

theorem next_eq_some (h : r.next = .ok (some (token, s))) :
    r.rest = .ok token :: s.rest ∧ token.Moves r.openNames s.openNames := by
  obtain ⟨names, rest⟩ := r
  unfold next at h
  dsimp only at h ⊢
  split at h
  · cases h
  · cases h
  · cases h
    exact ⟨rfl, rfl⟩
  · split at h
    · cases h
    · split at h
      · rename_i heq
        cases h
        exact ⟨rfl, heq ▸ rfl⟩
      · cases h
  · rename_i hstart hstop
    cases h
    refine ⟨rfl, ?_⟩
    cases token with
    | start tag attributes => exact (hstart tag attributes rfl).elim
    | stop tag => exact (hstop tag rfl).elim
    | _ => rfl

theorem length_of_next (h : r.next = .ok (some (token, s))) : s.rest.length < r.rest.length := by
  rw [(next_eq_some h).1]
  exact Nat.lt_succ_self _

theorem next_eq_error (h : r.next = .error fault) :
    (∃ rest, r.rest = .error fault :: rest) ∨ ∃ tag rest, r.rest = .ok (.stop tag) :: rest ∧
      ((r.openNames = [] ∧ fault = .endWithoutStart tag) ∨
        ∃ name names, r.openNames = name :: names ∧ tag ≠ name ∧ fault = .wrongEnd name tag) := by
  obtain ⟨names, rest⟩ := r
  unfold next at h
  dsimp only at h ⊢
  split at h
  · cases h
  · cases h
    exact .inl ⟨_, rfl⟩
  · cases h
  · split at h
    · cases h
      exact .inr ⟨_, _, rfl, .inl ⟨rfl, rfl⟩⟩
    · split at h
      · cases h
      · rename_i hne
        cases h
        exact .inr ⟨_, _, rfl, .inr ⟨_, _, rfl, hne, rfl⟩⟩
  · cases h

/-- As long as there is anything to read, these are the names of the open elements. -/
def Within (chain : List Text) (r : Reader) : Prop := r.openNames = chain ∨ r.rest = []

theorem Within.openNames_eq {rest : List (Except Fault Token)} {head : Except Fault Token}
    (h : r.Within chain) (hrest : r.rest = head :: rest) : r.openNames = chain :=
  h.resolve_right fun hend => nomatch hrest.symm.trans hend

theorem Within.moves (h : r.Within chain) (hnext : r.next = .ok (some (token, s))) :
    token.Moves chain s.openNames := by
  obtain ⟨hrest, hmoves⟩ := next_eq_some hnext
  rw [← h.openNames_eq hrest]
  exact hmoves

theorem Within.start (h : r.Within chain) (hnext : r.next = .ok (some (.start tag attributes, s))) :
    s.Within (tag :: chain) :=
  .inl (h.moves hnext)

theorem Within.empty (h : r.Within chain)
    (hnext : r.next = .ok (some (.empty tag attributes, s))) : s.Within chain :=
  .inl (h.moves hnext)

theorem Within.text (h : r.Within chain) (hnext : r.next = .ok (some (token, s)))
    (htext : token.text? = some t) : s.Within chain := by
  have hmoves := h.moves hnext
  cases token with
  | start | stop => cases htext
  | _ => exact .inl hmoves

/-- An end tag is handed out for the innermost open element alone. -/
theorem Within.stop (h : r.Within (name :: chain)) (hnext : r.next = .ok (some (.stop tag, s))) :
    tag = name ∧ s.Within chain := by
  have hmoves : name :: chain = tag :: s.openNames := h.moves hnext
  injection hmoves with htag hrest
  exact ⟨htag.symm, .inl hrest.symm⟩

theorem Within.not_stop (h : r.Within []) : r.next ≠ .ok (some (.stop tag, s)) := by
  intro hnext
  cases h.moves hnext

end Reader

/-- An end tag that is delivered closes the element that is being read. -/
def Delivery.Proper (d : Delivery) : Prop := ∀ tag, d.token = .stop tag → d.within = some tag

theorem Delivery.proper_text {parent : Option Text} (h : token.text? = some t) :
    Proper ⟨parent, token⟩ := by
  rintro tag rfl
  cases h

theorem ReadsInside.rest_eq (h : ReadsInside parent f r log inside) :
    ∀ g s, inside = .ok (g, s) → r.rest = (log.map Delivery.token).map .ok ++ s.rest := by
  induction h with
  | fault => nofun
  | ended =>
    rintro g s ⟨⟩
    rfl
  | text hnext _ _ ih | empty hnext _ ih | passed hnext _ _ ih =>
    intro g s hinside
    rw [(Reader.next_eq_some hnext).1, ih g s hinside]
    rfl
  | startFails => nofun
  | start hnext _ _ ih ih' =>
    intro g s hinside
    rw [(Reader.next_eq_some hnext).1, ih _ _ rfl, ih' g s hinside]
    simp
  | stop hnext =>
    rintro g s ⟨⟩
    exact (Reader.next_eq_some hnext).1

/-- At the end of the tokens nothing comes any more. -/
theorem ReadsInside.of_rest_eq_nil (h : ReadsInside parent f r log (.ok (g, s)))
    (hr : r.rest = []) : log = [] ∧ s.rest = [] := by
  have hsplit := h.rest_eq g s rfl
  rw [hr] at hsplit
  obtain ⟨hlog, hs⟩ := List.append_eq_nil_iff.mp hsplit.symm
  exact ⟨List.map_eq_nil_iff.mp (List.map_eq_nil_iff.mp hlog), hs⟩

/-- The chain of the elements that are being read is that of the open names, before and after. -/
theorem ReadsInside.within (h : ReadsInside parent f r log inside)
    (hr : r.Within (parent :: chain)) :
    (∀ d ∈ log, d.Proper) ∧ ∀ g s, inside = .ok (g, s) → s.Within chain := by
  induction h generalizing chain with
  | fault => exact ⟨nofun, nofun⟩
  | ended hnext =>
    refine ⟨nofun, ?_⟩
    rintro g s ⟨⟩
    exact .inr (Reader.next_eq_none hnext)
  | text hnext htext _ ih =>
    obtain ⟨hlog, hs⟩ := ih (hr.text hnext htext)
    exact ⟨List.forall_mem_cons.mpr ⟨Delivery.proper_text htext, hlog⟩, hs⟩
  | empty hnext _ ih =>
    obtain ⟨hlog, hs⟩ := ih (hr.empty hnext)
    exact ⟨List.forall_mem_cons.mpr ⟨nofun, hlog⟩, hs⟩
  | startFails hnext _ ih =>
    obtain ⟨hlog, -⟩ := ih (hr.start hnext)
    exact ⟨List.forall_mem_cons.mpr ⟨nofun, hlog⟩, nofun⟩
  | start hnext _ _ ih ih' =>
    obtain ⟨hlog, hu⟩ := ih (hr.start hnext)
    obtain ⟨hlog', hs⟩ := ih' (hu _ _ rfl)
    exact ⟨List.forall_mem_cons.mpr ⟨nofun, List.forall_mem_append.mpr ⟨hlog, hlog'⟩⟩, hs⟩
  | stop hnext =>
    refine ⟨?_, ?_⟩
    · intro d hd
      obtain rfl := List.mem_singleton.mp hd
      rintro tag ⟨⟩
      rfl
    · rintro g s ⟨⟩
      exact (hr.stop hnext).2
  | passed hnext hne => exact absurd (hr.stop hnext).1 hne

theorem ReadsRoot.proper (h : ReadsRoot r log result) (hr : r.Within []) :
    ∀ d ∈ log, d.Proper := by
  induction h with
  | fault => nofun
  | ended => nofun
  | start hnext hinside => exact List.forall_mem_cons.mpr ⟨nofun, (hinside.within (hr.start hnext)).1⟩
  | empty =>
    intro d hd
    obtain rfl := List.mem_singleton.mp hd
    nofun
  | @passed r s token log result hnext hopens _ ih =>
    cases token with
    | start | empty => cases hopens
    | stop => exact absurd hnext hr.not_stop
    | _ => exact List.forall_mem_cons.mpr ⟨nofun, ih (.inl (hr.moves hnext))⟩

def readBehind (f : Frame) (rest : List (Except Fault Token)) : List Frame → Except Error Element
  | [] => .ok f.close
  | g :: outer => readInside (g.addChild f.close) outer rest

theorem readInside_nil (f : Frame) (outer : List Frame) :
    readInside f outer [] = readBehind f [] outer := by
  cases outer <;> rfl

theorem readInside_start_token (f : Frame) (outer : List Frame) (tag : Text)
    (attributes : Attributes) (rest : List (Except Fault Token)) :
    readInside f outer (.ok (.start tag attributes) :: rest) =
      readInside { tag, attributes } (f :: outer) rest := rfl

theorem readInside_stop_token (f : Frame) (outer : List Frame) (tag : Text)
    (rest : List (Except Fault Token)) :
    readInside f outer (.ok (.stop tag) :: rest) =
      if tag = f.tag then readBehind f rest outer
      else .error (.malformed (.wrongEnd f.tag tag)) := by
  unfold readInside
  cases outer <;> rfl

theorem tag_addText (f : Frame) (t : Text) : (f.addText t).tag = f.tag := by
  unfold Frame.addText
  cases f.children <;> rfl

theorem readInside_of_text? (h : token.text? = some t) (rest : List (Except Fault Token)) :
    readInside f outer (.ok token :: rest) = readInside (f.addText t) outer rest := by
  cases token with
  | start | empty | stop => cases h
  | aside =>
    cases h
    rw [readInside, Frame.addText_nil]
  | _ =>
    cases h
    rfl

/-- The recursion reads what the frames around the element lead to. -/
theorem ReadsInside.readInside_eq (h : ReadsInside parent f r log inside) (hf : f.tag = parent)
    (hr : r.Within (parent :: outer.map Frame.tag)) :
    readInside f outer r.rest = inside.bind fun (g, s) => readBehind g s.rest outer := by
  induction h generalizing outer with
  | fault hnext =>
    rcases Reader.next_eq_error hnext with
      ⟨rest, hrest⟩ | ⟨tag, rest, hrest, ⟨hnames, -⟩ | ⟨name, names, hnames, hne, rfl⟩⟩
    · rw [hrest]
      rfl
    · cases hnames.symm.trans (hr.openNames_eq hrest)
    · obtain ⟨rfl, -⟩ := List.cons.inj (hnames.symm.trans (hr.openNames_eq hrest))
      rw [hrest, readInside_stop_token, hf, if_neg hne]
      rfl
  | @ended _ f r hnext =>
    have hrest := Reader.next_eq_none hnext
    have hend : readInside f outer r.rest = readBehind f r.rest outer := by
      rw [hrest, readInside_nil]
    exact hend
  | text hnext htext _ ih =>
    rw [(Reader.next_eq_some hnext).1, readInside_of_text? htext]
    exact ih ((tag_addText _ _).trans hf) (hr.text hnext htext)
  | empty hnext _ ih =>
    rw [(Reader.next_eq_some hnext).1]
    exact ih hf (hr.empty hnext)
  | startFails hnext _ ih =>
    subst hf
    rw [(Reader.next_eq_some hnext).1, readInside_start_token]
    exact ih rfl (hr.start hnext)
  | start hnext hchild _ ih ih' =>
    subst hf
    have hstart := hr.start hnext
    have hrest := ih' rfl ((hchild.within hstart).2 _ _ rfl)
    rw [(Reader.next_eq_some hnext).1, readInside_start_token, ← hrest]
    exact ih rfl hstart
  | stop hnext =>
    rw [(Reader.next_eq_some hnext).1, readInside_stop_token, if_pos hf.symm]
    rfl
  | passed hnext hne => exact absurd (hr.stop hnext).1 hne

theorem ReadsRoot.readRoot_eq (h : ReadsRoot r log result) (hr : r.Within []) :
    readRoot r.rest = result := by
  induction h with
  | fault hnext =>
    rcases Reader.next_eq_error hnext with
      ⟨rest, hrest⟩ | ⟨tag, rest, hrest, ⟨-, rfl⟩ | ⟨name, names, hnames, -⟩⟩
    · rw [hrest]
      rfl
    · rw [hrest]
      rfl
    · cases hnames.symm.trans (hr.openNames_eq hrest)
  | ended hnext =>
    rw [Reader.next_eq_none hnext]
    rfl
  | @start tag attributes _ s _ result hnext hinside =>
    have hin : readInside { tag, attributes } [] s.rest = _ :=
      hinside.readInside_eq rfl (hr.start hnext)
    rw [(Reader.next_eq_some hnext).1]
    cases result <;> exact hin
  | empty hnext =>
    rw [(Reader.next_eq_some hnext).1]
    rfl
  | @passed r s token log result hnext hopens _ ih =>
    have hs := hr.moves hnext
    rw [(Reader.next_eq_some hnext).1]
    cases token with
    | start | empty => cases hopens
    | stop => exact absurd hnext hr.not_stop
    | _ => exact ih (.inl hs)

theorem exists_readsInside (parent : Text) (f : Frame) (r : Reader) :
    ∃ log inside, ReadsInside parent f r log inside := by
  induction hn : r.rest.length using Nat.strong_induction_on generalizing parent f r with
  | _ n ih =>
    subst hn
    cases hnext : r.next with
    | error fault => exact ⟨_, _, .fault hnext⟩
    | ok found =>
      cases found with
      | none => exact ⟨_, _, .ended hnext⟩
      | some found =>
        obtain ⟨token, s⟩ := found
        have hs := Reader.length_of_next hnext
        have htext (t : Text) (ht : token.text? = some t) :
            ∃ log inside, ReadsInside parent f r log inside := by
          obtain ⟨_, _, h⟩ := ih _ hs parent (f.addText t) s rfl
          exact ⟨_, _, .text hnext ht h⟩
        cases token with
        | start tag attributes =>
          obtain ⟨log, inside, h⟩ := ih _ hs tag { tag, attributes } s rfl
          cases inside with
          | error error => exact ⟨_, _, .startFails hnext h⟩
          | ok read =>
            obtain ⟨child, u⟩ := read
            have hu : u.rest.length < r.rest.length := by
              have hlength := congrArg List.length (h.rest_eq _ _ rfl)
              rw [List.length_append] at hlength
              omega
            obtain ⟨_, _, h'⟩ := ih _ hu parent (f.addChild child.close) u rfl
            exact ⟨_, _, .start hnext h h'⟩
        | empty tag attributes =>
          obtain ⟨_, _, h⟩ := ih _ hs parent (f.addChild { tag, attributes }) s rfl
          exact ⟨_, _, .empty hnext h⟩
        | stop tag =>
          by_cases htag : tag = parent
          · subst htag
            exact ⟨_, _, .stop hnext⟩
          · obtain ⟨_, _, h⟩ := ih _ hs parent f s rfl
            exact ⟨_, _, .passed hnext htag h⟩
        | _ => exact htext _ rfl

theorem exists_readsRoot (r : Reader) : ∃ log result, ReadsRoot r log result := by
  induction hn : r.rest.length using Nat.strong_induction_on generalizing r with
  | _ n ih =>
    subst hn
    cases hnext : r.next with
    | error fault => exact ⟨_, _, .fault hnext⟩
    | ok found =>
      cases found with
      | none => exact ⟨_, _, .ended hnext⟩
      | some found =>
        obtain ⟨token, s⟩ := found
        cases token with
        | start tag attributes =>
          obtain ⟨_, _, h⟩ := exists_readsInside tag { tag, attributes } s
          exact ⟨_, _, .start hnext h⟩
        | empty tag attributes => exact ⟨_, _, .empty hnext⟩
        | _ =>
          obtain ⟨_, _, h⟩ := ih _ (Reader.length_of_next hnext) s rfl
          exact ⟨_, _, .passed hnext rfl h⟩

end RefSite.Xml
