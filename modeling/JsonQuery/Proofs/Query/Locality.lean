/-
  JsonQuery.Proofs.Query.Locality
  ───────────────────────────────
  Where a query text goes wrong, and why nothing behind that place matters.

  Every reader of queries is local: its law comes from those at shorter texts, so that the
  laws together are one induction on the text.
-/
import JsonQuery.Proofs.Query.Lookahead
import JsonQuery.Proofs.Query.Parsing
import JsonQuery.Proofs.Query.Viable

namespace JsonQuery

namespace Grammar

open Query Text

/-! ## §1. The law of each reader. -/

/-- The readers are local at one text. -/
structure LocalAt (text : List Char) : Prop where
  statements : ∀ inside, Local 0 (readStatements inside) text
  segment : ∀ inside afterGroup, Local 0 (readSegment inside afterGroup) text
  group : Local 0 readGroup text
  statement : ∀ inside done, Local 0 (readStatement inside done) text
  calls : Local 0 readCalls text
  items : ∀ close, Local 0 (readItems close) text
  item : Local 0 readItem text
  assigned : Local 0 readAssigned text

/-- An item other than a group, whose mark is known. -/
def readPlainItem (type? : Option LiteralType) (text : List Char) :
    Except Fault (Reading Operand) :=
  if type?.isSome then
    (readLiteral text).map fun literal => ⟨.literal literal.value, literal.length⟩
  else
    (readToken isSpecial text).map fun token =>
      ⟨.literal (coerce (trimBlankEnd token.value)), token.length⟩

/-- What follows a character of a text is shorter than the text. -/
theorem length_drop_lt {text : List Char} {n : Nat} {c : Char}
    (h : (text.drop n).head? = some c) : (text.drop (n + 1)).length < text.length := by
  have hne : text ≠ [] := by
    rintro rfl
    simp at h
  have hpos := List.length_pos_iff.mpr hne
  rw [List.length_drop]
  omega

/-- What follows the name of a function. -/
def readBehindName (name : Reading (List Char)) (text : List Char) :
    Except Fault (Reading Call) := do
  if name.value.isEmpty then throw ⟨.missingName, text⟩
  require '(' ["("] (text.drop name.length)
  let args ← readItems ')' (text.drop (name.length + 1))
  return ⟨.mk (String.ofList name.value) args.value, name.length + 1 + args.length⟩

/-- A phrase that one reader reads behind the first character. -/
theorem local_readPhrase {γ : Type} {read : List Char → Except Fault (Reading γ)} {c : Char}
    {rest : List Char} {done : Statement} (next : γ → Statement) (hread : Local 0 read rest)
    (hphrase : ∀ u, readPhrase done c u = (read u).map fun p => ⟨next p.value, p.length⟩) :
    Local 0 (fun t => (readPhrase done c (t.drop 1)).map (·.behind 1)) (c :: rest) := by
  refine .congr (fun t => (read (t.drop 1)).map fun p => ⟨next p.value, 1 + p.length⟩) ?_ ?_
  · intro u _
    rw [hphrase]
    cases read (u.drop 1) <;> rfl
  · refine hread.map (by omega) fun p => ?_
    show p.length + 1 ≤ 1 + p.length
    omega

/-- The first character tells what reads the phrase. -/
theorem LocalAt.phrase {rest : List Char} (h : LocalAt rest) (done : Statement) (c : Char) :
    Local 0 (fun t => (readPhrase done c (t.drop 1)).map (·.behind 1)) (c :: rest) := by
  -- a fault of the character itself needs nothing behind it
  have hfault : ∀ reason, (∀ u, readPhrase done c u = .error ⟨reason, c :: u⟩) →
      Local 0 (fun t => (readPhrase done c (t.drop 1)).map (·.behind 1)) (c :: rest) := by
    intro reason hreason
    refine .congr (fun t => .error ⟨reason, t.drop 0⟩) ?_ (.error fun _ => Nat.le_refl 0)
    intro u hag
    obtain ⟨u, rfl⟩ := hag.of_cons
    show (readPhrase done c u).map _ = _
    rw [hreason]
    rfl
  by_cases hstep : c = '.'
  · subst hstep
    exact local_readPhrase (fun step => done ++ [step]) (readStep_local rest) fun _ => rfl
  by_cases hlist : c = '['
  · subst hlist
    cases done with
    | nil => exact local_readPhrase (fun items => [.list items]) (h.items ']') fun _ => rfl
    | cons command done => exact hfault .listInside fun _ => rfl
  by_cases hgroup : c = '('
  · subst hgroup
    exact hfault .groupInside fun _ => rfl
  by_cases hassign : c = '='
  · subst hassign
    cases htarget : assignTarget done with
    | error reason => exact hfault reason fun u => by simp only [readPhrase, htarget]
    | ok target =>
      refine local_readPhrase (fun value => target.1 ++ [.assign target.2 value]) h.assigned
        fun u => ?_
      simp only [readPhrase, htarget]
  by_cases hcall : c = '#'
  · subst hcall
    exact local_readPhrase (fun calls => done ++ [.call calls]) h.calls fun _ => rfl
  · exact hfault (.stray c) fun u => readPhrase.eq_6 _ _ _ hstep hlist hgroup hassign hcall

section Induction

variable {text : List Char} (ih : ∀ u : List Char, u.length < text.length → LocalAt u)

include ih

theorem localStatements_of
    (hsegment : ∀ inside afterGroup, Local 0 (readSegment inside afterGroup) text)
    (inside : Bool) : Local 0 (readStatements inside) text := by
  refine .congr (fun t => readSegment inside false (t.drop 0) >>= fun segment =>
    if (t.drop segment.length).head? = some '|' then
      readStatements inside (t.drop (segment.length + 1)) >>= fun more =>
      .ok ⟨segment.value ++ more.value, segment.length + 1 + more.length⟩
    else .ok segment) ?_ ?_
  · intro u _
    rw [readStatements.eq_def]
    rfl
  · refine (hsegment inside false).bind (by omega) fun segment _ => .ite (fun hpipe => ?_) fun _ =>
      .ok (Nat.le_refl _)
    refine ((ih _ (length_drop_lt hpipe)).statements inside).bind (by omega) fun more _ => .ok ?_
    show more.length + (segment.length + 1) ≤ segment.length + 1 + more.length
    omega

theorem localSegment_of (hstatement : ∀ inside done, Local 0 (readStatement inside done) text)
    (inside afterGroup : Bool) : Local 0 (readSegment inside afterGroup) text := by
  by_cases hopen : text.head? = some '('
  · obtain ⟨rest, rfl⟩ := List.head?_eq_some_iff.mp hopen
    refine .congr (fun t => readGroup (t.drop 1) >>= fun group =>
      readSegment inside true (t.drop (group.length + 1)) >>= fun more =>
      .ok ⟨group.value ++ more.value, 1 + group.length + more.length⟩) ?_ ?_
    · intro u hag
      obtain ⟨u, rfl⟩ := hag.of_cons
      rw [readSegment.eq_def]
      rfl
    · refine (ih rest (by simp)).group.bind (by omega) fun group _ => ?_
      have hlt : (('(' :: rest).drop (group.length + 1)).length < ('(' :: rest).length := by
        rw [List.length_drop, List.length_cons]
        omega
      refine ((ih _ hlt).segment inside true).bind (by omega) fun more _ => .ok ?_
      show more.length + (group.length + 1) ≤ 1 + group.length + more.length
      omega
  · refine .congr (fun t => readStatement inside [] (t.drop 0) >>= fun statement =>
      .ok ⟨if afterGroup && statement.value.isEmpty then [] else [statement.value],
        statement.length⟩) ?_ ?_
    · intro u hag
      -- a text that agrees does not begin with a bracket either
      rw [← hag.head?] at hopen
      rw [readSegment.eq_def]
      split
      · exact absurd rfl hopen
      · refine bind_congr_of_ok fun statement _ => ?_
        split <;> rfl
    · exact (hstatement inside []).bind (by omega) fun _ _ => .ok (Nat.le_refl _)

omit ih in
theorem localGroup_of (hstatements : ∀ inside, Local 0 (readStatements inside) text) :
    Local 0 readGroup text := by
  refine .congr (fun t => readStatements true (t.drop 0) >>= fun statements =>
    require ')' [")"] (t.drop statements.length) >>= fun _ =>
    .ok ⟨statements.value, statements.length + 1⟩) ?_ ?_
  · intro u _
    rw [readGroup.eq_def]
    rfl
  · exact (hstatements true).bind (by omega) fun statements _ => .require (.ok (by simp))

theorem localAssigned_of : Local 0 readAssigned text := by
  by_cases hopen : text.head? = some '('
  · obtain ⟨rest, rfl⟩ := List.head?_eq_some_iff.mp hopen
    refine .congr (fun t => readGroup (t.drop 1) >>= fun group =>
      .ok ⟨.query (ofStatements group.value), group.length + 1⟩) ?_ ?_
    · intro u hag
      obtain ⟨u, rfl⟩ := hag.of_cons
      rw [readAssigned.eq_def]
      rfl
    · exact (ih rest (by simp)).group.bind (by omega) fun group _ => .ok (Nat.le_refl _)
  · refine .congr (fun t => (readLiteral (t.drop 0)).map fun literal =>
      ⟨.literal literal.value, literal.length⟩) ?_ ?_
    · intro u hag
      rw [← hag.head?] at hopen
      rw [readAssigned.eq_def]
      split
      · exact absurd rfl hopen
      · rfl
    · exact (readLiteral_local text).1.map (by omega) fun _ => Nat.le_refl _

theorem localItem_of : Local 0 readItem text := by
  by_cases hopen : text.head? = some '('
  · obtain ⟨rest, rfl⟩ := List.head?_eq_some_iff.mp hopen
    refine .congr (fun t => readGroup (t.drop 1) >>= fun group =>
      .ok ⟨.query (ofStatements group.value), group.length + 1⟩) ?_ ?_
    · intro u hag
      obtain ⟨u, rfl⟩ := hag.of_cons
      rw [readItem.eq_def]
      rfl
    · exact (ih rest (by simp)).group.bind (by omega) fun group _ => .ok (Nat.le_refl _)
  · have h : LocalLiteral (fun t => readPlainItem (marked? t) t) text :=
      .of_marked _
        (fun hs _ => ((readLiteral_local text).2 hs).map (d := 0) (by omega) fun _ => Nat.le_refl _)
        (readToken_localLiteral (fun v => Operand.literal (coerce (trimBlankEnd v))) text)
    refine .congr _ (fun u hag => ?_) h.1
    rw [← hag.head?] at hopen
    rw [readItem.eq_def]
    split
    · exact absurd rfl hopen
    · rfl

theorem localBehindItem_of (close : Char) (item : Reading Operand) (length : Nat) :
    Local length (readBehindItem close item length) text := by
  refine .congr _ (fun u _ => rfl) (.ite (c := ',') (fun hcomma => ?_) fun _ => .require (.ok ?_))
  · refine ((ih _ (length_drop_lt hcomma)).items close).bind (by omega) fun more _ => .ok ?_
    show more.length + (length + 1) ≤ length + 1 + more.length
    omega
  · show length ≤ length + 1
    omega

theorem localItems_of (hitem : Local 0 readItem text) (close : Char) :
    Local 0 (readItems close) text := by
  cases text with
  | nil =>
    refine .congr (fun t => .error ⟨.missing [close.toString], t.drop 0⟩) ?_
      (.error fun _ => Nat.le_refl 0)
    intro u hag
    rw [hag.of_nil, readItems_nil]
    rfl
  | cons c rest =>
    by_cases hblank : isBlank c = true
    · refine .congr (fun t => (readItems close (t.drop 1)).map (·.behind 1)) ?_ ?_
      · intro u hag
        obtain ⟨u, rfl⟩ := hag.of_cons
        rw [readItems_cons, if_pos hblank]
        rfl
      · refine ((ih rest (by simp)).items close).map (by omega) fun a => ?_
        simp only [Reading.behind]
        omega
    by_cases hclose : c = close
    · refine .congr (fun _ => .ok ⟨[], 1⟩) ?_ (.ok (by simp))
      intro u hag
      obtain ⟨u, rfl⟩ := hag.of_cons
      rw [readItems_cons, if_neg hblank, if_pos hclose]
    -- an item, the blanks behind it, and the character behind those
    refine .congr (fun t => readItem (t.drop 0) >>= fun item =>
      readBehindItem close item (item.length + blankCount (t.drop item.length)) t) ?_ ?_
    · intro u hag
      obtain ⟨u, rfl⟩ := hag.of_cons
      rw [readItems_cons, if_neg hblank, if_neg hclose]
      rfl
    refine hitem.bind (by omega) fun item _ => ?_
    refine Local.mono (m := item.length + blankCount ((c :: rest).drop item.length)) ?_ (by omega)
    refine .congr _ (fun u hag => ?_) (localBehindItem_of ih close item _)
    rw [Agree.blankCount (t := (c :: rest).drop item.length)]
    exact (hag.mono (by omega : _ ≤ _)).drop

theorem localCall_of : Local 0 readCall text := by
  refine .congr (fun t => readToken endsName (t.drop 0) >>= fun name => readBehindName name t)
    (fun u _ => rfl) ?_
  refine (readToken_local endsName _).1.bind (by omega) fun name hname => ?_
  by_cases hempty : name.value.isEmpty = true
  · -- the name is missing at the place it was to begin at
    have hlen := readToken_value_nil hname (List.isEmpty_iff.mp hempty)
    refine .congr (fun t => .error ⟨.missingName, t.drop 0⟩) (fun u _ => ?_)
      (.error fun _ => by omega)
    unfold readBehindName
    rw [if_pos hempty]
    rfl
  · refine .congr (fun t => require '(' ["("] (t.drop name.length) >>= fun _ =>
      readItems ')' (t.drop (name.length + 1)) >>= fun args =>
      .ok ⟨.mk (String.ofList name.value) args.value, name.length + 1 + args.length⟩)
      (fun u _ => ?_) (.require ?_)
    · unfold readBehindName
      rw [if_neg hempty]
      rfl
    · have hne : text ≠ [] := by
        rintro rfl
        injection hname with hname
        exact hempty (hname ▸ rfl)
      have hlt : (text.drop (name.length + 1)).length < text.length := by
        have hpos := List.length_pos_iff.mpr hne
        rw [List.length_drop]
        omega
      refine ((ih _ hlt).items ')').bind (by omega) fun args _ => .ok ?_
      show args.length + (name.length + 1) ≤ name.length + 1 + args.length
      omega

theorem localBehindCall_of (call : Call) (length : Nat) :
    Local length (readBehindCall call length) text := by
  refine .congr _ (fun u _ => rfl) (.ite (c := '#') (fun hmark => ?_) fun _ => .ok (Nat.le_refl _))
  refine (ih _ (length_drop_lt hmark)).calls.bind (by omega) fun more _ => .ok ?_
  show more.length + (length + 1) ≤ length + 1 + more.length
  omega

theorem localCalls_of : Local 0 readCalls text := by
  refine .congr (fun t => readCall (t.drop 0) >>= fun call =>
    readBehindCall call.value call.length t) (fun u _ => readCalls_eq u) ?_
  exact (localCall_of ih).bind (by omega) fun call _ => localBehindCall_of ih _ _

theorem localStatement_of (inside : Bool) (done : Statement) :
    Local 0 (readStatement inside done) text := by
  cases text with
  | nil =>
    refine .congr (fun _ => .ok ⟨done, 0⟩) ?_ (.ok (Nat.le_refl 0))
    intro u hag
    rw [hag.of_nil, readStatement_nil]
  | cons c rest =>
    -- texts that agree begin with the same character, and so take the same branch
    by_cases hend : (c = '|' || (inside && c = ')')) = true
    · refine .congr (fun _ => .ok ⟨done, 0⟩) ?_ (.ok (Nat.le_refl 0))
      intro u hag
      obtain ⟨u, rfl⟩ := hag.of_cons
      rw [readStatement_cons, if_pos hend]
    cases hform : terminalForm? done with
    | some form =>
      refine .congr (fun t => .error ⟨.notLast form, t.drop 0⟩) ?_
        (.error fun _ => Nat.le_refl 0)
      intro u hag
      obtain ⟨u, rfl⟩ := hag.of_cons
      rw [readStatement_cons, if_neg hend, hform]
      rfl
    | none =>
      refine .congr (fun t => (readPhrase done c ((t.drop 0).drop 1)).map (·.behind 1)
        >>= fun phrase => (readStatement inside phrase.value (t.drop phrase.length)).map
          (·.behind phrase.length)) ?_ ?_
      · intro u hag
        obtain ⟨u, rfl⟩ := hag.of_cons
        rw [readStatement_cons, if_neg hend, hform]
        show readPhrase done c u >>= _ = (readPhrase done c u).map _ >>= _
        cases readPhrase done c u with
        | error f => rfl
        | ok phrase =>
          show _ = (readStatement inside phrase.value ((c :: u).drop (1 + phrase.length))).map _
          rw [Nat.add_comm 1]
          simp only [Reading.behind, Nat.add_comm 1]
          rfl
      · have hphrase := (ih rest (Nat.lt_succ_self _)).phrase done c
        refine hphrase.bind (d := 0) (by omega) fun phrase hread => ?_
        obtain ⟨p, -, rfl⟩ := map_eq_ok_iff.mp hread
        have hlt : ((c :: rest).drop (1 + p.length)).length < (c :: rest).length := by
          rw [List.length_drop, List.length_cons]
          omega
        refine ((ih _ hlt).statement inside p.value).map ?_ fun more => ?_
        · show 1 + p.length + 0 ≤ 0 + (1 + p.length)
          omega
        · show more.length + (1 + p.length) ≤ 1 + p.length + more.length
          omega

end Induction

/-- Every reader is local. -/
theorem localAt (text : List Char) : LocalAt text := by
  induction hn : text.length using Nat.strongRecOn generalizing text with
  | _ n ih =>
    subst hn
    have ih : ∀ u : List Char, u.length < text.length → LocalAt u := fun u hu => ih _ hu u rfl
    have hstatement := localStatement_of ih
    have hsegment := localSegment_of ih hstatement
    have hstatements := localStatements_of ih hsegment
    have hitem := localItem_of ih
    exact ⟨hstatements, hsegment, localGroup_of hstatements, hstatement, localCalls_of ih,
      localItems_of ih hitem, hitem, localAssigned_of ih⟩

/-! ## §2. Whole texts. -/

theorem Agree.take_append {n : Nat} {t : List Char} (h : n < t.length) (u : List Char) :
    Agree n t (t.take (n + 1) ++ u) := by
  intro i hi
  have hlt : i < (t.take (n + 1)).length := by
    rw [List.length_take]
    omega
  rw [List.getElem?_append_left hlt, List.getElem?_take_of_lt (by omega)]

theorem Agree.lt {n : Nat} {t u : List Char} (h : Agree n t u) (hn : n < t.length) :
    n < u.length := by
  have hc := h n (Nat.le_refl n)
  rw [List.getElem?_eq_getElem hn] at hc
  exact (List.getElem?_eq_some_iff.mp hc.symm).1

theorem toError_drop {text : List Char} {n : Nat} (h : n < text.length) (reason : Reason) :
    Fault.toError ⟨reason, text.drop n⟩ text
      = ⟨reason.kind, String.ofList text, n, reason.message⟩ := by
  have hindex : text.length - (text.drop n).length = n := by
    rw [List.length_drop]
    omega
  unfold Fault.toError Cursor.error Cursor.errorAt
  rw [hindex]

theorem parse_eq_error_iff {text : String} {e : ParseError} :
    Query.parse text = .error e
      ↔ ∃ f, readStatements false text.toList = .error f ∧ f.toError text.toList = e := by
  unfold Query.parse ofChars
  cases readStatements false text.toList with
  | ok statements =>
    constructor
    · intro h
      cases h
    · rintro ⟨f, h, -⟩
      cases h
  | error f =>
    constructor
    · intro h
      injection h with h
      exact ⟨f, rfl, h⟩
    · rintro ⟨f', h, rfl⟩
      injection h with h
      rw [h]
      rfl

end Grammar

namespace Query

open Grammar

/-- A fault that shows at a character is final: the text before the character can be completed to a
query, and with the character it fails in the same way whatever follows. -/
theorem parse_fault_local {q : String} {e : ParseError} (h : parse q = .error e)
    (hkind : e.kind = .unexpectedCharacter ∨ e.kind = .syntaxRule) (hplace : e.index < q.length) :
    (∃ t r, parse (String.ofList (q.toList.take e.index) ++ t) = .ok r)
      ∧ ∀ t, parse (String.ofList (q.toList.take (e.index + 1)) ++ t)
          = .error { e with query := String.ofList (q.toList.take (e.index + 1)) ++ t } := by
  obtain ⟨f, hf, rfl⟩ := parse_eq_error_iff.mp h
  have hkind : Shows f.reason := hkind
  obtain ⟨t, w, htext, ss, hss⟩ := (viableAt q.toList).statements false f hf hkind
  obtain ⟨n, hrest, hlocal⟩ := ((localAt q.toList).statements false).fault f hf
  -- the place of the fault is where the text before it ends
  have hindex : (f.toError q.toList).index = t.length := by
    show q.toList.length - f.rest.length = t.length
    rw [htext, List.length_append]
    omega
  have hplace : t.length < q.toList.length := by
    rw [String.length_toList, ← hindex]
    exact hplace
  have hn : n = t.length := by
    have hlength := congrArg List.length hrest
    have htotal := congrArg List.length htext
    rw [List.length_drop] at hlength
    rw [List.length_append] at htotal
    omega
  rw [hindex]
  constructor
  · refine ⟨String.ofList w, ofStatements ss, parse_of_statements _ ?_⟩
    rw [String.toList_append, String.toList_ofList, String.toList_ofList, htext, List.take_left]
    exact hss
  · intro v
    have hag : Agree n q.toList (String.ofList (q.toList.take (t.length + 1)) ++ v).toList := by
      rw [String.toList_append, String.toList_ofList, hn]
      exact .take_append hplace v.toList
    refine parse_eq_error_iff.mpr ⟨_, (hlocal (shows_not_type hkind)).2 _ hag, ?_⟩
    rw [toError_drop (hag.lt (hn ▸ hplace)), String.ofList_toList, hn, ← hindex]
    rfl

/-- An empty subscript, in front of another step. -/
theorem parse_fault_local_subscript :
    (∃ t r, parse (String.ofList (".[].a".toList.take 2) ++ t) = .ok r)
      ∧ ∀ t, parse (String.ofList (".[].a".toList.take 3) ++ t)
          = .error ⟨.syntaxRule, String.ofList (".[].a".toList.take 3) ++ t, 2,
              Reason.missingIndex.message⟩ :=
  parse_fault_local (e := ⟨.syntaxRule, ".[].a", 2, Reason.missingIndex.message⟩) (by
    have hstatement : readStatement false [] ['.', '[', ']', '.', 'a']
        = .error ⟨.missingIndex, [']', '.', 'a']⟩ := by
      rw [readStatement.eq_def]
      rfl
    have hsegment : readSegment false false ['.', '[', ']', '.', 'a']
        = .error ⟨.missingIndex, [']', '.', 'a']⟩ := by
      rw [readSegment.eq_def]
      show (readStatement false [] _ >>= _) = _
      rw [hstatement]
      rfl
    refine parse_eq_error_iff.mpr ⟨⟨.missingIndex, [']', '.', 'a']⟩, ?_, rfl⟩
    show readStatements false ['.', '[', ']', '.', 'a'] = _
    rw [readStatements.eq_def, hsegment]
    rfl) (.inr rfl) (by decide)

end Query

end JsonQuery
