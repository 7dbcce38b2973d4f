import RefSite.Proofs.Xml.Recursion

namespace RefSite.Xml

variable {parent : Text} {f : Frame} {r : Reader} {log : List Delivery}
  {inside : Except Error (Frame × Reader)} {result : Except Error Element}

/-- Tokens that are properly nested, with the text and the elements that they stand for. Text behind
an element is its tail. -/
inductive Content : List Token → Text → List Element → Prop
  | nil : Content [] [] []
  | text {token : Token} {t s : Text} {ts : List Token} {es : List Element} :
    token.text? = some t → Content ts s es → Content (token :: ts) (t ++ s) es
  | empty {tag tail : Text} {attributes : Attributes} {ts : List Token} {es : List Element} :
    Content ts tail es →
    Content (.empty tag attributes :: ts) [] ({ tag, attributes, tail } :: es)
  | element {tag text tail : Text} {attributes : Attributes} {inner ts : List Token}
    {children es : List Element} :
    Content inner text children → Content ts tail es →
    Content (.start tag attributes :: (inner ++ .stop tag :: ts)) []
      ({ tag, attributes, text, children, tail } :: es)

inductive Whole : List Token → Element → Prop
  | empty {tag : Text} {attributes : Attributes} :
    Whole [.empty tag attributes] { tag, attributes }
  | element {tag text : Text} {attributes : Attributes} {inner : List Token}
    {children : List Element} :
    Content inner text children →
    Whole (.start tag attributes :: (inner ++ [.stop tag])) { tag, attributes, text, children }

/-- What was consumed is the element, behind tokens that are no tags. End tags can be missing only
where the text has ended. -/
def Nested (ts : List (Except Fault Token)) (consumed : List Token) (e : Element) : Prop :=
  ∃ (before element : List Token) (missing : List Text) (rest : List (Except Fault Token)),
    consumed = before ++ element ∧ ts = consumed.map .ok ++ rest ∧
      (∀ token ∈ before, token.text? ≠ none) ∧ Whole (element ++ missing.map .stop) e ∧
        (missing = [] ∨ rest = [])

/-- With the end tags of what is still open at the end of the text, the tokens are properly nested
within the element, and it holds what they stand for. -/
theorem ReadsInside.content (h : ReadsInside parent f r log inside) (hlog : ∀ d ∈ log, d.Proper) :
    ∀ g s, inside = .ok (g, s) → ∃ inner missing t es, Content inner t es ∧ g = f.addContent t es ∧
      log.map Delivery.token ++ missing.map .stop = inner ++ [.stop parent] ∧
        (missing = [] ∨ s.rest = []) := by
  induction h with
  | fault => nofun
  | @ended parent f r hnext =>
    rintro g s ⟨⟩
    exact ⟨[], [parent], [], [], .nil, (Frame.addContent_nil f).symm, rfl,
      .inr (Reader.next_eq_none hnext)⟩
  | text hnext htext _ ih =>
    intro g s hinside
    obtain ⟨inner, missing, t, es, hinner, rfl, htokens, hend⟩ :=
      ih (List.forall_mem_cons.mp hlog).2 g s hinside
    exact ⟨_, missing, _, es, .text htext hinner, (Frame.addContent_append ..).symm,
      congrArg _ htokens, hend⟩
  | @empty parent tag attributes f _ _ _ _ hnext _ ih =>
    intro g s hinside
    obtain ⟨inner, missing, t, es, hinner, rfl, htokens, hend⟩ :=
      ih (List.forall_mem_cons.mp hlog).2 g s hinside
    have hadd := Frame.addContent_child f { tag, attributes, tail := t } es
    exact ⟨_, missing, _, _, .empty hinner, hadd.symm, congrArg _ htokens, hend⟩
  | startFails => nofun
  | @start parent tag attributes f child r s u log log' inside hnext hchild hrest ih ih' =>
    intro g v hinside
    obtain ⟨-, hlogs⟩ := List.forall_mem_cons.mp hlog
    obtain ⟨hproper, hproper'⟩ := List.forall_mem_append.mp hlogs
    obtain ⟨inner, missing, t, es, hinner, rfl, htokens, hend⟩ := ih hproper _ _ rfl
    obtain ⟨inner', missing', t', es', hinner', rfl, htokens', hend'⟩ := ih' hproper' g v hinside
    subst hinside
    have helement : Content (.start tag attributes :: (inner ++ .stop tag :: inner')) []
        ({ tag, attributes, text := t, children := es, tail := t' } :: es') :=
      .element hinner hinner'
    refine ⟨_, missing ++ missing', _, _, helement, ?_, ?_, ?_⟩
    · rw [Frame.close_addContent, Frame.addContent_child]
    · -- nothing comes behind a child that is cut short
      have hswap : log'.map Delivery.token ++ missing.map Token.stop =
          missing.map Token.stop ++ log'.map Delivery.token := by
        rcases hend with rfl | hend
        · simp
        · simp [(hrest.of_rest_eq_nil hend).1]
      have hnested : log.map Delivery.token ++ (log'.map Delivery.token ++
          (missing.map Token.stop ++ missing'.map Token.stop)) =
            (inner ++ [.stop tag]) ++ (inner' ++ [.stop parent]) := by
        rw [← htokens, ← htokens', ← List.append_assoc (log'.map _), hswap]
        simp
      simpa using hnested
    · rcases hend with rfl | hend
      · exact hend'
      · exact .inr (hrest.of_rest_eq_nil hend).2
  | @stop parent f r s hnext =>
    rintro g s ⟨⟩
    exact ⟨[], [], [], [], .nil, (Frame.addContent_nil f).symm, rfl, .inl rfl⟩
  | passed hnext hne =>
    have hproper := (List.forall_mem_cons.mp hlog).1 _ rfl
    exact absurd (Option.some.inj hproper).symm hne

theorem ReadsRoot.nested (h : ReadsRoot r log result) (hlog : ∀ d ∈ log, d.Proper) :
    ∀ e, result = .ok e → Nested r.rest (log.map Delivery.token) e := by
  induction h with
  | fault => nofun
  | ended => nofun
  | @start tag attributes r s log inside hnext hinside =>
    intro e he
    obtain ⟨⟨g, u⟩, rfl, rfl⟩ := exists_of_map_eq_ok he
    obtain ⟨inner, missing, t, es, hinner, rfl, htokens, hend⟩ :=
      hinside.content (List.forall_mem_cons.mp hlog).2 g u rfl
    have hwhole : Whole (.start tag attributes :: log.map Delivery.token ++ missing.map .stop)
        { tag, attributes, text := t, children := es } := by
      rw [List.cons_append, htokens]
      exact .element hinner
    have hrest : r.rest = .ok (.start tag attributes) ::
        ((log.map Delivery.token).map .ok ++ u.rest) := by
      rw [(Reader.next_eq_some hnext).1, hinside.rest_eq _ u rfl]
    rw [Frame.close_addContent]
    exact ⟨[], _, missing, u.rest, rfl, hrest, nofun, hwhole, hend⟩
  | empty hnext =>
    rintro e ⟨⟩
    exact ⟨[], _, [], _, rfl, (Reader.next_eq_some hnext).1, nofun, .empty, .inl rfl⟩
  | @passed r s token log result hnext hopens _ ih =>
    intro e he
    obtain ⟨hproper, hlog⟩ := List.forall_mem_cons.mp hlog
    obtain ⟨before, element, missing, rest, htokens, hrest, hbefore, hwhole, hend⟩ := ih hlog e he
    have htoken : token.text? ≠ none := by
      cases token with
      | start | empty => cases hopens
      | stop tag => cases hproper tag rfl
      | _ => nofun
    refine ⟨token :: before, element, missing, rest, congrArg _ htokens, ?_,
      List.forall_mem_cons.mpr ⟨htoken, hbefore⟩, hwhole, hend⟩
    rw [(Reader.next_eq_some hnext).1, hrest]
    rfl

/-- A text is read by recursion, and each end tag that is delivered closes the element that is being
read. What is consumed for a root element is properly nested, and only the end of the text cuts it
short. -/
theorem read_nested (t : Text) :
    (∃ log, ReadsRoot (.ofText t) log (read t)) ∧
      ∀ log result, ReadsRoot (.ofText t) log result →
        result = read t ∧ (∀ d ∈ log, ∀ tag, d.token = .stop tag → d.within = some tag) ∧
          ∀ e, result = .ok e →
            Nested (tokens (dropMark (dropMark t))) (log.map Delivery.token) e := by
  have hopen : (Reader.ofText t).Within [] := .inl rfl
  have hread {log : List Delivery} {result : Except Error Element}
      (h : ReadsRoot (.ofText t) log result) : result = read t := (h.readRoot_eq hopen).symm
  refine ⟨?_, fun log result h => ⟨hread h, h.proper hopen, h.nested (h.proper hopen)⟩⟩
  obtain ⟨log, result, h⟩ := exists_readsRoot (.ofText t)
  rw [← hread h]
  exact ⟨log, h⟩

/-- Elements without a name, and one that is cut short. -/
theorem exists_read_nested :
    ∃ (log : List Delivery) (e : Element) (d : Delivery),
      ReadsRoot (.ofText "<!----><><></>x<a>") log (.ok e) ∧ d ∈ log ∧ d.token = .stop [] ∧
        read "<!----><><></>x<a>" = .ok e ∧ d.within = some [] ∧
          Nested (tokens (dropMark (dropMark "<!----><><></>x<a>"))) (log.map Delivery.token) e := by
  let start : Reader := ⟨[], [.ok .aside, .ok (.start [] []), .ok (.start [] []), .ok (.stop []),
    .ok (.text ['x']), .ok (.start ['a'] [])]⟩
  have hstart : Reader.ofText "<!----><><></>x<a>" = start := by cbv
  have hfirst {f : Frame} : ReadsInside [] f
      ⟨[[], []], [.ok (.stop []), .ok (.text ['x']), .ok (.start ['a'] [])]⟩ _ _ := .stop rfl
  have hlast {f : Frame} : ReadsInside ['a'] f ⟨[['a'], []], []⟩ _ _ := .ended rfl
  have hroot {f : Frame} : ReadsInside [] f ⟨[[]], [.ok (.start [] []), .ok (.stop []),
      .ok (.text ['x']), .ok (.start ['a'] [])]⟩ _ _ :=
    .start rfl hfirst (.text rfl rfl (.start rfl hlast (.ended rfl)))
  have hrun : ReadsRoot start _ _ := .passed rfl rfl (.start rfl hroot)
  rw [← hstart] at hrun
  obtain ⟨hread, hproper, hnested⟩ := (read_nested _).2 _ _ hrun
  exact ⟨_, _, ⟨some [], .stop []⟩, hrun, by simp, rfl, hread.symm, hproper _ (by simp) _ rfl,
    hnested _ rfl⟩

end RefSite.Xml
