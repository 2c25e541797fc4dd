/-
  JsonQuery.Proofs.Query.Ending
  ─────────────────────────────
  What the kind of a fault tells of its place.

  A fault of an ended text is one at the end of the text.  At the end there is one other
  fault: a call whose name is missing breaks a rule of the grammar, also where the text
  ends behind the mark.  This holds of every reader, and of what one reader does behind
  another (`Tells`).
-/
import JsonQuery.Proofs.Query.Locality

namespace JsonQuery

namespace Grammar

open Query Text

variable {α : Type} {text rest u : List Char} {c : Char} {n : Nat}

/-! ## §1. Faults and their places. -/

/-- The kind of a fault tells whether it lies at the end of the text, unless the name of a call is
missing there. -/
structure Placed (text : List Char) (f : Fault) : Prop where
  rest_eq_nil : f.reason.kind = .unexpectedEnd → f.rest = []
  reason_of_nil : f.rest = [] →
    f.reason.kind = .unexpectedEnd ∨ f.reason = .missingName ∧ ['#'] <:+ text

theorem Placed.mono {f : Fault} (h : Placed u f) (hu : u <:+ text) : Placed text f where
  rest_eq_nil := h.rest_eq_nil
  reason_of_nil hrest := (h.reason_of_nil hrest).imp_right fun hname =>
    ⟨hname.1, hname.2.trans hu⟩

theorem Placed.at_end {reason : Reason} (h : reason.kind = .unexpectedEnd) :
    Placed text ⟨reason, []⟩ :=
  ⟨fun _ => rfl, fun _ => .inl h⟩

theorem Placed.at_char {reason : Reason} (h : reason.kind ≠ .unexpectedEnd) :
    Placed text ⟨reason, c :: rest⟩ :=
  ⟨fun hkind => absurd hkind h, fun hrest => absurd hrest (List.cons_ne_nil c rest)⟩

/-- A fault of the text from here on tells its place by its kind. -/
abbrev Tells (text : List Char) (x : Except Fault α) : Prop :=
  Within (fun _ => True) (Placed text) x

namespace Tells

variable {β : Type} {x : Except Fault α}

theorem suffix (h : Tells u x) (hu : u <:+ text) : Tells text x :=
  Within.mono h fun _ hf => hf.mono hu

theorem drop (h : Tells (text.drop n) x) : Tells text x := h.suffix (List.drop_suffix n text)

theorem tail (h : Tells rest x) : Tells (c :: rest) x := h.suffix (List.suffix_cons c rest)

theorem map (h : Tells text x) (g : α → β) : Tells text (x.map g) := by
  cases x with
  | error f => exact h
  | ok a => trivial

end Tells

/-! ## §2. Tokens, literals and steps. -/

theorem tells_require (c : Char) (patterns : List String) (text : List Char) :
    Tells text (require c patterns text) := by
  unfold require
  split
  · exact .at_end rfl
  · split
    · trivial
    · exact .at_char (by rintro ⟨⟩)

/-- A token breaks off only behind an escape character that ends the text. -/
theorem tells_readToken (stops : Char → Bool) (text : List Char) :
    Tells text (readToken stops text) := by
  fun_induction readToken stops text with
  | case1 => trivial
  | case2 => exact .at_end rfl
  | case3 c rest ih => exact Within.bind ih.tail.tail fun _ _ => trivial
  | case4 => trivial
  | case5 c rest _ _ _ ih => exact Within.bind ih.tail fun _ _ => trivial

theorem tells_readMarked (type : LiteralType) (text : List Char) :
    Tells text (readMarked type text) := by
  unfold readMarked
  cases text with
  | nil => exact .at_end rfl
  | cons c rest =>
    rw [if_neg (by simp)]
    refine Within.bind (tells_readToken _ _) fun body _ => ?_
    by_cases hend : ((c :: rest).drop body.length).isEmpty = true
    · simp only [if_pos hend]
      split <;> exact .at_end rfl
    -- the value is refused at the place where the body begins
    simp only [if_neg hend]
    cases hvalue : literalValue type body.value with
    | ok v => trivial
    | error reason =>
      refine .at_char fun hkind => ?_
      rw [kind_of_literalValue hvalue] at hkind
      cases hkind

theorem tells_readLiteral (text : List Char) : Tells text (readLiteral text) := by
  unfold readLiteral
  split
  · exact ((tells_readMarked _ _).map _).drop
  · exact (tells_readToken _ _).map _

theorem tells_readKey (text : List Char) : Tells text (readKey text) := by
  unfold readKey
  cases text with
  | nil => exact .at_end rfl
  | cons c rest =>
    split
    · exact .at_char (by rintro ⟨⟩)
    refine Within.bind (tells_readLiteral _) fun literal _ => ?_
    split
    · trivial
    · exact .at_char (by rintro ⟨⟩)

theorem tells_readBound (text : List Char) : Tells text (readBound text) := by
  unfold readBound
  cases text with
  | nil => trivial
  | cons c rest =>
    split
    · trivial
    refine Within.bind (tells_readLiteral _) fun literal _ => ?_
    split
    · trivial
    · exact .at_char (by rintro ⟨⟩)

theorem tells_readSubscript (text : List Char) : Tells text (readSubscript text) := by
  unfold readSubscript
  cases text with
  | nil => exact .at_end rfl
  | cons c rest =>
    rw [if_neg (by simp)]
    split
    · trivial
    refine Within.bind (tells_readBound _) fun start _ => ?_
    by_cases hcolon : ((c :: rest).drop start.length).head? = some ':'
    · -- a range
      simp only [if_pos hcolon]
      refine Within.bind (tells_readBound _).drop.drop fun stop _ => ?_
      exact Within.bind (tells_require _ _ _).drop.drop fun _ _ => trivial
    · simp only [if_neg hcolon]
      refine Within.bind (tells_require _ _ _).drop fun _ _ => ?_
      split
      · trivial
      · exact .at_char (by rintro ⟨⟩)

theorem tells_readStep (text : List Char) : Tells text (readStep text) := by
  unfold readStep
  split
  · exact ((tells_readSubscript _).map _).drop
  · exact (tells_readKey _).map _

/-! ## §3. The law of each reader. -/

/-- The faults of the readers tell their places at one text. A chain of calls is read behind its
mark, which is what a missing name is put down to. -/
structure TellsAt (text : List Char) : Prop where
  statements : ∀ inside, Tells text (readStatements inside text)
  segment : ∀ inside afterGroup, Tells text (readSegment inside afterGroup text)
  group : Tells text (readGroup text)
  statement : ∀ inside done, Tells text (readStatement inside done text)
  calls : Tells ('#' :: text) (readCalls text)
  items : ∀ close, Tells text (readItems close text)
  item : Tells text (readItem text)
  assigned : Tells text (readAssigned text)

theorem kind_of_assignTarget {done : Statement} {reason : Reason}
    (h : assignTarget done = .error reason) : reason.kind = .syntaxRule := by
  unfold assignTarget at h
  split at h
  · injection h with h
    exact h ▸ rfl
  · cases h
  · injection h with h
    exact h ▸ rfl

theorem cons_drop_succ (h : (text.drop n).head? = some c) :
    c :: text.drop (n + 1) = text.drop n := by
  obtain ⟨rest, hrest⟩ := List.head?_eq_some_iff.mp h
  rw [← List.tail_drop, hrest, List.tail_cons]

theorem length_drop_lt_cons (c : Char) (rest : List Char) (n : Nat) :
    (rest.drop n).length < (c :: rest).length := by
  rw [List.length_drop, List.length_cons]
  omega

/-- The first character decides, and what it begins is read behind it. -/
theorem TellsAt.phrase (h : TellsAt rest) (done : Statement) (c : Char) :
    Tells (c :: rest) (readPhrase done c rest) := by
  unfold readPhrase
  split
  · exact ((tells_readStep rest).map _).tail
  · split
    · exact ((h.items ']').map _).tail
    · exact .at_char (by rintro ⟨⟩)
  · exact .at_char (by rintro ⟨⟩)
  · cases htarget : assignTarget done with
    | error reason =>
      refine .at_char fun hkind => ?_
      rw [kind_of_assignTarget htarget] at hkind
      cases hkind
    | ok target => exact (h.assigned.map _).tail
  · -- the mark of a chain is the character itself
    exact h.calls.map _
  · exact .at_char (by rintro ⟨⟩)

section Induction

variable (ih : ∀ u : List Char, u.length < text.length → TellsAt u)

include ih

theorem tellsStatements_of
    (hsegment : ∀ inside afterGroup, Tells text (readSegment inside afterGroup text))
    (inside : Bool) : Tells text (readStatements inside text) := by
  rw [readStatements.eq_def]
  refine Within.bind (hsegment inside false) fun segment _ => ?_
  split
  · rename_i hpipe
    have hmore := (ih _ (length_drop_lt hpipe)).statements inside
    exact Within.bind hmore.drop fun _ _ => trivial
  · trivial

theorem tellsSegment_of (hstatement : ∀ inside done, Tells text (readStatement inside done text))
    (inside afterGroup : Bool) : Tells text (readSegment inside afterGroup text) := by
  rw [readSegment.eq_def]
  split
  · rename_i rest
    refine Within.bind (ih rest (by simp)).group.tail fun group _ => ?_
    have hmore := (ih _ (length_drop_lt_cons '(' rest group.length)).segment inside true
    exact Within.bind hmore.drop.tail fun _ _ => trivial
  · refine Within.bind (hstatement inside []) fun statement _ => ?_
    split <;> trivial

omit ih in
theorem tellsGroup_of (hstatements : ∀ inside, Tells text (readStatements inside text)) :
    Tells text (readGroup text) := by
  rw [readGroup.eq_def]
  refine Within.bind (hstatements true) fun statements _ => ?_
  exact Within.bind (tells_require _ _ _).drop fun _ _ => trivial

theorem tellsAssigned_of : Tells text (readAssigned text) := by
  rw [readAssigned.eq_def]
  split
  · exact Within.bind (ih _ (by simp)).group.tail fun _ _ => trivial
  · exact (tells_readLiteral _).map _

theorem tellsItem_of : Tells text (readItem text) := by
  rw [readItem.eq_def]
  split
  · exact Within.bind (ih _ (by simp)).group.tail fun _ _ => trivial
  · split
    · exact (tells_readLiteral _).map _
    · exact (tells_readToken _ _).map _

theorem tellsItems_of (hitem : Tells text (readItem text)) (close : Char) :
    Tells text (readItems close text) := by
  cases text with
  | nil =>
    rw [readItems_nil]
    exact .at_end rfl
  | cons c rest =>
    rw [readItems_cons]
    split
    · exact ((ih rest (by simp)).items close).tail.map _
    split
    · trivial
    refine Within.bind hitem fun item _ => ?_
    -- behind the item and its blanks stands a comma or the closing bracket
    unfold readBehindItem
    split
    · rename_i hcomma
      have hmore := (ih _ (length_drop_lt hcomma)).items close
      exact Within.bind hmore.drop fun _ _ => trivial
    · exact Within.bind (tells_require _ _ _).drop fun _ _ => trivial

/-- A call is read behind a mark, so that a name that is missing at the end is missing behind the
last character. -/
theorem tellsCall_of : Tells ('#' :: text) (readCall text) := by
  unfold readCall
  cases text with
  | nil =>
    -- the text has ended, but the kind is that of a broken rule
    exact ⟨by rintro ⟨⟩, fun _ => .inr ⟨rfl, List.suffix_refl _⟩⟩
  | cons c rest =>
    refine Tells.tail ?_
    refine Within.bind (tells_readToken _ _) fun name _ => ?_
    by_cases hempty : name.value.isEmpty = true
    · simp only [if_pos hempty]
      exact .at_char (by rintro ⟨⟩)
    simp only [if_neg hempty]
    refine Within.bind (tells_require _ _ _).drop fun _ _ => ?_
    have hargs := (ih _ (length_drop_lt_cons c rest name.length)).items ')'
    exact Within.bind (Tells.drop (n := name.length + 1) hargs) fun args _ => trivial

theorem tellsCalls_of : Tells ('#' :: text) (readCalls text) := by
  rw [readCalls_eq]
  refine Within.bind (tellsCall_of ih) fun call _ => ?_
  unfold readBehindCall
  split
  · -- the text from the mark of the next call on
    rename_i hmark
    have hmore := (ih _ (length_drop_lt hmark)).calls
    rw [cons_drop_succ hmark] at hmore
    exact Within.bind hmore.drop.tail fun _ _ => trivial
  · trivial

theorem tellsStatement_of (inside : Bool) (done : Statement) :
    Tells text (readStatement inside done text) := by
  cases text with
  | nil =>
    rw [readStatement_nil]
    trivial
  | cons c rest =>
    rw [readStatement_cons]
    split
    · trivial
    split
    · exact .at_char (by rintro ⟨⟩)
    refine Within.bind ((ih rest (Nat.lt_succ_self _)).phrase done c) fun phrase _ => ?_
    have hmore := (ih _ (length_drop_lt_cons c rest phrase.length)).statement inside phrase.value
    exact (hmore.map _).drop.tail

end Induction

/-- The faults of every reader tell their places. -/
theorem tellsAt (text : List Char) : TellsAt text := by
  induction hn : text.length using Nat.strongRecOn generalizing text with
  | _ n ih =>
    subst hn
    have ih : ∀ u : List Char, u.length < text.length → TellsAt u := fun u hu => ih _ hu u rfl
    have hstatement := tellsStatement_of ih
    have hsegment := tellsSegment_of ih hstatement
    have hstatements := tellsStatements_of ih hsegment
    have hitem := tellsItem_of ih
    exact ⟨hstatements, hsegment, tellsGroup_of hstatements, hstatement, tellsCalls_of ih,
      tellsItems_of ih hitem, hitem, tellsAssigned_of ih⟩

/-! ## §4. Whole texts. -/

/-- The place of an error is where the text in front of the fault ends. -/
theorem exists_fault_of_parse {text : String} {e : ParseError}
    (h : Query.parse text = .error e) :
    ∃ f before, readStatements false text.toList = .error f ∧ text.toList = before ++ f.rest
      ∧ e = ⟨f.reason.kind, text, before.length, f.reason.message⟩ := by
  obtain ⟨f, hf, rfl⟩ := parse_eq_error_iff.mp h
  obtain ⟨n, hrest, -⟩ := ((localAt text.toList).statements false).fault f hf
  obtain ⟨before, hbefore⟩ : f.rest <:+ text.toList := hrest ▸ List.drop_suffix n text.toList
  have hindex : text.toList.length - f.rest.length = before.length := by
    rw [← hbefore, List.length_append]
    omega
  refine ⟨f, before, hf, hbefore.symm, ?_⟩
  show ParseError.mk _ (String.ofList text.toList) (text.toList.length - f.rest.length) _ = _
  rw [hindex, String.ofList_toList]

/-- A text that goes wrong only at its end, by a fault that shows, can be completed. -/
theorem exists_parse_append {text : String} {f : Fault}
    (h : readStatements false text.toList = .error f) (hkind : Shows f.reason)
    (hrest : f.rest = []) : ∃ more query, Query.parse (text ++ more) = .ok query := by
  obtain ⟨t, w, htext, ss, hss⟩ := (viableAt text.toList).statements false f h hkind
  rw [hrest, List.append_nil] at htext
  refine ⟨String.ofList w, ofStatements ss, parse_of_statements _ ?_⟩
  rw [String.toList_append, String.toList_ofList, htext]
  exact hss

end Grammar

namespace Query

open Grammar

/-- At the end of a text there are two kinds of faults: the text ended too early, or, as a broken
rule, the name of a call is missing behind a mark. In front of the end there is no fault of an ended
text. Yet a text that ends in such a mark has ended too early as well: it can be completed. -/
theorem parse_error_ending {text : String} {e : ParseError} (h : parse text = .error e) :
    e.query = text ∧ e.index ≤ text.length
      ∧ (e.kind = .unexpectedEnd ↔ e.index = text.length ∧ e.kind ≠ .syntaxRule)
      ∧ (e.index = text.length → e.kind = .syntaxRule →
          e.message = Reason.missingName.message ∧ (∃ before, text = before ++ "#")
            ∧ ∃ more query, parse (text ++ more) = .ok query) := by
  obtain ⟨f, before, hf, htext, rfl⟩ := exists_fault_of_parse h
  have hplaced := ((tellsAt text.toList).statements false).of_error hf
  have hlength : text.length = before.length + f.rest.length := by
    rw [← String.length_toList, htext, List.length_append]
  have hend : before.length = text.length ↔ f.rest = [] := by
    rw [hlength, ← List.length_eq_zero_iff]
    omega
  refine ⟨rfl, ?_, ⟨fun hkind => ⟨?_, ?_⟩, ?_⟩, ?_⟩
  · show before.length ≤ text.length
    omega
  · exact hend.mpr (hplaced.rest_eq_nil hkind)
  · rw [hkind]
    rintro ⟨⟩
  · rintro ⟨hplace, hkind⟩
    rcases hplaced.reason_of_nil (hend.mp hplace) with hreason | ⟨hreason, -⟩
    · exact hreason
    · refine absurd ?_ hkind
      show f.reason.kind = .syntaxRule
      rw [hreason]
      rfl
  · intro hplace hkind
    have hkind : f.reason.kind = .syntaxRule := hkind
    have hrest := hend.mp hplace
    rcases hplaced.reason_of_nil hrest with hreason | ⟨hreason, start, hstart⟩
    · rw [hkind] at hreason
      cases hreason
    refine ⟨congrArg Reason.message hreason, ⟨String.ofList start, ?_⟩,
      exists_parse_append hf (.inr hkind) hrest⟩
    rw [← String.ofList_toList (s := text), ← hstart, String.ofList_append]

theorem parse_mark :
    parse "#" = .error ⟨.syntaxRule, "#", 1, Reason.missingName.message⟩ := by
  -- the fault comes from the innermost reader and passes all the others
  have hcalls : readCalls [] = .error ⟨.missingName, []⟩ := by
    rw [readCalls.eq_def]
  have hstatement : readStatement false [] ['#'] = .error ⟨.missingName, []⟩ := by
    rw [readStatement.eq_def]
    show (readCalls [] >>= _) = _
    rw [hcalls]
    rfl
  have hsegment : readSegment false false ['#'] = .error ⟨.missingName, []⟩ := by
    rw [readSegment.eq_def]
    show (readStatement false [] ['#'] >>= _) = _
    rw [hstatement]
    rfl
  refine parse_eq_error_iff.mpr ⟨⟨.missingName, []⟩, ?_, rfl⟩
  show readStatements false ['#'] = _
  rw [readStatements.eq_def, hsegment]
  rfl

/-- A mark alone is put down to a missing name, and it can be completed. -/
theorem parse_error_ending_mark :
    parse "#" = .error ⟨.syntaxRule, "#", 1, Reason.missingName.message⟩
      ∧ ∃ more query, parse ("#" ++ more) = .ok query :=
  ⟨parse_mark, ((parse_error_ending parse_mark).2.2.2 rfl rfl).2.2⟩

/-- The kind does not tell all texts that end too early. -/
theorem not_forall_ending_kind :
    ¬∀ (text : String) (e : ParseError), parse text = .error e →
      e.query = text ∧ e.index ≤ text.length
        ∧ (e.kind = .unexpectedEnd ↔ e.index = text.length) := by
  intro h
  have hkind : FaultKind.syntaxRule = .unexpectedEnd := (h "#" _ parse_mark).2.2.mpr rfl
  cases hkind

end Query

end JsonQuery
