/-
  JsonQuery.Proofs.Query.Complete
  ───────────────────────────────
  The reader of queries reads every phrase of the grammar to its end.

  Each law says of one kind of phrase that its reader, started where the phrase begins,
  yields what the phrase stands for and its length, whatever text follows, as long as that
  text begins with a character that ends the phrase.  The laws are one induction on how a
  phrase is put together.
-/
import JsonQuery.Proofs.Query.Sound

namespace JsonQuery.Grammar

open Query Text

/-! ## §1. Blanks around items. -/

/-- No blank is a special character. -/
theorem isBlank_special {c : Char} (h : isSpecial c = true) : isBlank c = false := by
  simp only [isSpecial, specials, List.contains_eq_mem, List.mem_cons, List.not_mem_nil, or_false,
    decide_eq_true_eq] at h
  rcases h with rfl | rfl | rfl | rfl | rfl | rfl | rfl | rfl | rfl | rfl <;> rfl

theorem not_isBlank_of_follows {rest : List Char} (h : Follows endsLiteral rest) :
    Follows (fun c => !isBlank c) rest := by
  refine h.mono fun c hc => ?_
  rw [isBlank_special (isSpecial_of_endsLiteral c hc)]
  rfl

/-- A token goes on with blanks. -/
theorem Token.append_blanks {t v b : List Char} (h : Token isSpecial t v) (hb : Blanks b) :
    Token isSpecial (t ++ b) (v ++ b) := by
  induction h with
  | nil =>
    induction b with
    | nil => exact .nil
    | cons c b ih =>
      -- a blank neither escapes what follows it nor ends the token
      have hc : isBlank c = true := hb c (by simp)
      have hne : c ≠ '~' := ne_of_isBlank hc rfl
      have hs : isSpecial c = false := by
        cases hs : isSpecial c with
        | false => rfl
        | true =>
          rw [isBlank_special hs] at hc
          cases hc
      exact .plain hne hs (ih fun d hd => hb d (by simp [hd]))
  | escaped c _ ih => exact ih.escaped c
  | plain hne hs _ ih => exact ih.plain hne hs

theorem blankCount_of_follows {rest : List Char} (h : Follows (fun c => !isBlank c) rest) :
    blankCount rest = 0 := by
  cases rest with
  | nil => rfl
  | cons c rest =>
    have hc : isBlank c = false := by simpa using h
    simp [blankCount, hc]

theorem blankCount_append {b rest : List Char} (hb : Blanks b)
    (hr : Follows (fun c => !isBlank c) rest) : blankCount (b ++ rest) = b.length := by
  have hrest := blankCount_of_follows hr
  unfold blankCount at hrest ⊢
  rw [List.takeWhile_append_of_pos hb, List.length_append, hrest, Nat.add_zero]

/-- The blanks before the items of a bracket are passed over. -/
theorem readItems_blanks {close : Char} {b : List Char} (hb : Blanks b) (text : List Char) :
    readItems close (b ++ text) = (readItems close text).map (·.behind b.length) := by
  induction b with
  | nil => cases h : readItems close text <;> simp [h, Except.map, Reading.behind]
  | cons c b ih =>
    -- one blank is passed over, the others by induction
    have hc : isBlank c = true := hb c (by simp)
    have hrest : Blanks b := fun d hd => hb d (by simp [hd])
    rw [List.cons_append, readItems_cons]
    simp only [hc, if_true, ih hrest]
    cases h : readItems close text with
    | error e => rfl
    | ok r =>
      simp only [Except.map, Reading.behind, List.length_cons]
      congr 2
      omega

/-! ## §2. How phrases begin. -/

theorem Token.isSpecial_head {c : Char} {t v : List Char} (h : Token isSpecial (c :: t) v) :
    isSpecial c = false := by
  cases h with
  | escaped _ _ => rfl
  | plain _ hs _ => exact hs

theorem Marked.head {t : List Char} {v : Json} (h : Marked t v) :
    ∃ c tail, t = c :: tail ∧ isSpecial c = false ∧ isBlank c = false := by
  cases h with
  | @mk c type _ _ _ hmark _ _ =>
    refine ⟨c, _, rfl, ?_⟩
    unfold literalType? at hmark
    split at hmark
    · exact ⟨rfl, rfl⟩
    · exact ⟨rfl, rfl⟩
    · exact ⟨rfl, rfl⟩
    · exact ⟨rfl, rfl⟩
    · cases hmark

/-- A phrase that does not open a group, and is not followed by one, is not read as one. -/
theorem not_group {t rest : List Char} (ht : t.head? ≠ some '(') (hr : rest.head? ≠ some '(')
    (tail : List Char) : t ++ rest = '(' :: tail → False := by
  intro h
  cases t with
  | nil =>
    rw [List.nil_append] at h
    exact hr (by rw [h]; rfl)
  | cons c t =>
    injection h with hc _
    exact ht (by rw [hc]; rfl)

theorem Literal.head_ne {t : List Char} {v : Json} (h : Literal t v) : t.head? ≠ some '(' := by
  intro hhead
  obtain ⟨tail, rfl⟩ := List.head?_eq_some_iff.mp hhead
  cases h with
  | marked h =>
    obtain ⟨c, _, heq, hs, -⟩ := h.head
    injection heq with hc _
    subst hc
    cases hs
  | token h => cases h.isSpecial_head

/-- An item does not begin with a blank, nor with what closes a bracket. -/
theorem Item.head {c : Char} {t : List Char} {o : Operand} (h : Item (c :: t) o) :
    isBlank c = false ∧ c ≠ ')' ∧ c ≠ ']' := by
  generalize htext : c :: t = text at h
  cases h with
  | group h =>
    cases h with
    | mk _ =>
      injection htext with hc _
      subst hc
      exact ⟨rfl, by decide, by decide⟩
  | marked h =>
    obtain ⟨d, _, rfl, hs, hb⟩ := h.head
    injection htext with hc _
    subst hc
    refine ⟨hb, ?_, ?_⟩ <;> rintro rfl <;> cases hs
  | token h hb =>
    subst htext
    have hs : isSpecial c = false := h.isSpecial_head
    refine ⟨by simpa using hb, ?_, ?_⟩ <;> rintro rfl <;> cases hs

theorem Step.head {t : List Char} {c : Command} (h : Step t c) : t.head? = some '.' := by
  cases h <;> rfl

theorem Steps.head {t : List Char} {st : List Command} (h : Steps t st) :
    t = [] ∨ t.head? = some '.' := by
  induction h with
  | nil => exact .inl rfl
  | snoc _ hu ih =>
    rcases ih with rfl | ih
    · exact .inr hu.head
    · exact .inr (by rw [List.head?_append, ih]; rfl)

theorem Calls.head {t : List Char} {cs : List Call} (h : Calls t cs) : t.head? = some '#' := by
  cases h with
  | one hc => cases hc; rfl
  | more hc _ => cases hc; rfl

theorem Commands.head_ne {t : List Char} {st : Statement} (h : Commands t st) :
    t.head? ≠ some '(' := by
  cases h with
  | steps ht => rcases ht.head with rfl | hd <;> simp [*]
  | assign ht hu _ => rcases ht.head with rfl | hd <;> simp [List.head?_append, hu.head, *]
  | calls ht hu => rcases ht.head with rfl | hd <;> simp [List.head?_append, hu.head, *]
  | list _ => simp

/-! ## §3. Statements. -/

theorem endsLiteral_of_endsStatement {inside : Bool} (c : Char)
    (h : endsStatement inside c = true) : endsLiteral c = true := by
  simp only [endsStatement, endsStatements, Bool.or_eq_true, Bool.and_eq_true, beq_iff_eq] at h
  rcases h with rfl | ⟨-, rfl⟩ <;> rfl

theorem readStatement_end {inside : Bool} (done : Statement) {rest : List Char}
    (hr : Follows (endsStatement inside) rest) :
    readStatement inside done rest = .ok ⟨done, 0⟩ := by
  cases rest with
  | nil => rw [readStatement_nil]
  | cons c rest =>
    have hc : (decide (c = '|') || inside && decide (c = ')')) = true := by
      simpa [endsStatement, endsStatements] using hr
    rw [readStatement_cons, if_pos hc]

theorem Steps.terminalForm? {t : List Char} {st : List Command} (h : Steps t st) :
    terminalForm? st = none := by
  cases h with
  | nil => rfl
  | snoc _ hu =>
    rw [terminalForm?_snoc]
    cases hu <;> rfl

/-- Steps are read one after another, and then what follows them. -/
theorem readStatement_steps {inside : Bool} {t : List Char} {st : List Command} (h : Steps t st)
    {text : List Char} {r : Reading Statement} (ht : Follows endsLiteral text)
    (hread : readStatement inside st text = .ok r) :
    readStatement inside [] (t ++ text) = .ok (r.behind t.length) := by
  induction h generalizing text r with
  | nil => simpa [Reading.behind] using hread
  | @snoc t u st c hsteps hu ih =>
    -- behind the first steps the reader goes on with the last one and `text`
    obtain ⟨u, rfl, hstep⟩ := readStep_complete hu
    have hmore : readStatement inside st ('.' :: (u ++ text)) = .ok (r.behind (u.length + 1)) := by
      rw [readStatement_cons, if_neg (by simp), hsteps.terminalForm?]
      show (readStep (u ++ text)).map _ >>= _ = _
      rw [hstep text ht]
      show (readStatement inside (st ++ [c]) ((u ++ text).drop u.length)).map _ = _
      rw [List.drop_left, hread]
      rfl
    rw [List.append_assoc, List.cons_append, ih (follows_cons.mpr (by decide)) hmore]
    simp only [Reading.behind, List.length_append, List.length_cons]
    congr 2
    omega

/-- A phrase behind which the statement ends. -/
theorem readStatement_phrase {inside : Bool} {done : Statement} {c : Char} {text : List Char}
    {phrase : Reading Statement} (hc : c ≠ '|' ∧ c ≠ ')') (hform : terminalForm? done = none)
    (hread : readPhrase done c text = .ok phrase)
    (hr : Follows (endsStatement inside) (text.drop phrase.length)) :
    readStatement inside done (c :: text) = .ok ⟨phrase.value, phrase.length + 1⟩ := by
  rw [readStatement_cons, if_neg (by simp [hc]), hform]
  show readPhrase done c text >>= _ = _
  rw [hread, ok_bind, readStatement_end _ hr]
  rfl

theorem readStatement_assign {inside : Bool} (st : List Command) (key : Key) {text : List Char}
    {value : Reading Operand} (hread : readAssigned text = .ok value)
    (hr : Follows (endsStatement inside) (text.drop value.length)) :
    readStatement inside (st ++ [.select key]) ('=' :: text)
      = .ok ⟨st ++ [.assign key value.value], value.length + 1⟩ := by
  have htarget : assignTarget (st ++ [.select key]) = .ok (st, key) := by
    unfold assignTarget
    rw [List.getLast?_concat, List.dropLast_concat]
  have hform : terminalForm? (st ++ [.select key]) = none := by
    rw [terminalForm?_snoc]
    rfl
  have hphrase : readPhrase (st ++ [.select key]) '=' text
      = .ok ⟨st ++ [.assign key value.value], value.length⟩ := by
    simp only [readPhrase, htarget, hread]
    rfl
  exact readStatement_phrase (by decide) hform hphrase hr

theorem readStatement_calls {inside : Bool} {st : List Command} (hform : terminalForm? st = none)
    {text : List Char} {calls : Reading (List Call)} (hread : readCalls text = .ok calls)
    (hr : Follows (endsStatement inside) (text.drop calls.length)) :
    readStatement inside st ('#' :: text)
      = .ok ⟨st ++ [.call calls.value], calls.length + 1⟩ := by
  have hphrase : readPhrase st '#' text = .ok ⟨st ++ [.call calls.value], calls.length⟩ := by
    simp only [readPhrase, hread]
    rfl
  exact readStatement_phrase (by decide) hform hphrase hr

theorem readStatement_list {inside : Bool} {text : List Char} {items : Reading (List Operand)}
    (hread : readItems ']' text = .ok items)
    (hr : Follows (endsStatement inside) (text.drop items.length)) :
    readStatement inside [] ('[' :: text) = .ok ⟨[.list items.value], items.length + 1⟩ := by
  have hphrase : readPhrase [] '[' text = .ok ⟨[.list items.value], items.length⟩ := by
    simp only [readPhrase, hread]
    rfl
  exact readStatement_phrase (by decide) rfl hphrase hr

/-! ## §4. Items and calls. -/

/-- The text goes on with an item and blanks, and both are gone over before the next character is
looked at. -/
def PassesItem (t b rest : List Char) (o : Operand) : Prop :=
  ∃ n, readItem (t ++ (b ++ rest)) = .ok ⟨o, n⟩
    ∧ n + blankCount ((t ++ (b ++ rest)).drop n) = t.length + b.length

/-- What is read from a bracket that goes on with an item. -/
theorem readItems_item (close : Char) {t b rest : List Char} {o : Operand}
    (hhead : ∃ c tail, t ++ (b ++ rest) = c :: tail ∧ isBlank c = false ∧ c ≠ close)
    (hitem : PassesItem t b rest o) :
    readItems close (t ++ (b ++ rest)) =
      if rest.head? = some ',' then
        readItems close (rest.drop 1) >>= fun more =>
          .ok ⟨o :: more.value, t.length + b.length + 1 + more.length⟩
      else
        require close (afterItem close) rest >>= fun _ => .ok ⟨[o], t.length + b.length + 1⟩ := by
  obtain ⟨c, tail, htext, hblank, hclose⟩ := hhead
  obtain ⟨n, hread, hlength⟩ := hitem
  have hdrop : (t ++ (b ++ rest)).drop (t.length + b.length) = rest := by
    rw [← List.append_assoc, ← List.length_append, List.drop_left]
  have hdrop' : (t ++ (b ++ rest)).drop (t.length + b.length + 1) = rest.drop 1 := by
    rw [← List.drop_drop, hdrop]
  rw [htext] at hread hlength hdrop hdrop' ⊢
  rw [readItems_cons, if_neg (by simp [hblank]), if_neg hclose, hread]
  simp only [readBehindItem, ok_bind, hlength, hdrop, hdrop', pure_eq_ok]

theorem readItems_close {close : Char} (hclose : isSpecial close = true) (rest : List Char) :
    readItems close (close :: rest) = .ok ⟨[], 1⟩ := by
  rw [readItems_cons, if_neg (by simp [isBlank_special hclose]), if_pos rfl]

/-- A call is read up to the bracket behind its arguments. -/
theorem readCall_called {t u name : List Char} {os : List Operand} (ht : Token endsName t name)
    (hne : name ≠ [])
    (hitems : ∀ rest, readItems ')' (u ++ ')' :: rest) = .ok ⟨os, u.length + 1⟩)
    (rest : List Char) :
    readCall (t ++ '(' :: (u ++ [')']) ++ rest)
      = .ok ⟨.mk (String.ofList name) os, (t ++ '(' :: (u ++ [')'])).length⟩ := by
  have hname := readToken_complete (by decide) ht (follows_cons.mpr (by decide) :
    Follows endsName ('(' :: (u ++ ')' :: rest)))
  have htext : t ++ '(' :: (u ++ [')']) ++ rest = t ++ '(' :: (u ++ ')' :: rest) := by simp
  have hlength : t.length + 1 + (u.length + 1) = (t ++ '(' :: (u ++ [')'])).length := by
    simp only [List.length_append, List.length_cons, List.length_nil]
    omega
  have hempty : name.isEmpty = false := by simpa using hne
  rw [htext, readCall, hname]
  simp only [ok_bind, pure_eq_ok, hempty, Bool.false_eq_true, if_false, List.drop_left,
    require_cons, drop_behind, hitems rest, hlength]

/-- A token is read with the blanks behind it, and loses them again. -/
theorem readItem_token {t v b rest : List Char} (ht : Token isSpecial t v) (hb : Blanks b)
    (hr : Follows endsLiteral rest) :
    readItem (t ++ (b ++ rest))
      = .ok ⟨.literal (coerce (trimBlankEnd v)), t.length + b.length⟩ := by
  have hs : Follows isSpecial rest := hr.mono isSpecial_of_endsLiteral
  have htoken : Token isSpecial (t ++ b) (v ++ b) := ht.append_blanks hb
  -- it is neither a group nor marked with a type, whatever follows
  have hhead : (t ++ b).head? ≠ some '(' := Literal.head_ne (.token htoken)
  rw [← List.append_assoc, readItem.eq_2 _ (not_group hhead (hr.head?_ne rfl)),
    marked?_token htoken hs (hr.head?_ne rfl), readToken_complete (by decide) htoken hs]
  simp [Except.map, trimBlankEnd_append_blanks v hb]

theorem readItem_marked {t : List Char} {v : Json} (h : Marked t v) (rest : List Char) :
    readItem (t ++ rest) = .ok ⟨.literal v, t.length⟩ := by
  have hread := readLiteral_marked h rest
  obtain ⟨hmark, ht, hv⟩ := h
  rename_i mark type t body
  have hm : marked? (mark :: '(' :: (t ++ [')']) ++ rest) = some type := hmark
  have hne : mark ≠ '(' := by
    rintro rfl
    cases hmark
  rw [readItem.eq_2 (mark :: '(' :: (t ++ [')']) ++ rest) (fun _ h => hne (List.cons.inj h).1), hm,
    hread]
  rfl

/-! ## §5. The induction. -/

mutual

theorem readStatements_complete {t : List Char} {ss : List Statement} : Statements t ss →
    ∀ inside rest, Follows (endsStatements inside) rest →
      readStatements inside (t ++ rest) = .ok ⟨ss, t.length⟩
  | .segment h, inside, rest, hr => by
    have hread := readSegment_complete h inside rest (hr.mono endsStatement_of_endsStatements)
    have hpipe : rest.head? ≠ some '|' := hr.head?_ne (by simp [endsStatements])
    rw [readStatements, hread]
    simp only [ok_bind, List.drop_left, if_neg hpipe, pure_eq_ok]
  | @Statements.pipe _ u _ _ h hu, inside, rest, hr => by
    have hread := readSegment_complete h inside ('|' :: (u ++ rest)) (follows_cons.mpr rfl)
    have hmore := readStatements_complete hu inside rest hr
    rw [List.append_assoc, List.cons_append, readStatements, hread]
    simp only [ok_bind, List.drop_left, List.head?_cons, if_true, drop_behind, hmore, pure_eq_ok]
    rw [List.length_append, List.length_cons, Nat.add_assoc, Nat.add_comm 1]

theorem readSegment_complete {t : List Char} {ss : List Statement} : Segment t ss →
    ∀ inside rest, Follows (endsStatement inside) rest →
      readSegment inside false (t ++ rest) = .ok ⟨ss, t.length⟩
  | .commands h, inside, rest, hr => by
    have hread := readStatement_complete h inside rest hr
    have hne : rest.head? ≠ some '(' := (hr.mono endsLiteral_of_endsStatement).head?_ne rfl
    rw [readSegment.eq_2 _ _ _ (not_group h.head_ne hne), hread]
    rfl
  | @Segment.groups _ u _ st h hu, inside, rest, hr => by
    have hread := readStatement_complete hu inside rest hr
    have hne : rest.head? ≠ some '(' := (hr.mono endsLiteral_of_endsStatement).head?_ne rfl
    -- the groups are read before a segment that is a statement alone
    have hlast : readSegment inside true (u ++ rest)
        = .ok ⟨if st.isEmpty then [] else [st], u.length⟩ := by
      rw [readSegment.eq_2 _ _ _ (not_group hu.head_ne hne), hread]
      simp only [ok_bind, Bool.true_and, pure_eq_ok]
      split <;> rfl
    rw [List.append_assoc, readGroups_complete h inside false _ _ hlast, List.length_append]

theorem readGroups_complete {t : List Char} {ss : List Statement} : Groups t ss →
    ∀ inside afterGroup text more, readSegment inside true text = .ok more →
      readSegment inside afterGroup (t ++ text) = .ok ⟨ss ++ more.value, t.length + more.length⟩
  | .one h, inside, afterGroup, text, more, hmore => by
    obtain ⟨t, rfl, hread⟩ := readGroup_complete h
    rw [List.cons_append, readSegment.eq_1, hread text]
    simp only [ok_bind, List.drop_left, hmore, pure_eq_ok, List.length_cons, Nat.add_comm]
  | @Groups.more _ u _ _ h hs, inside, afterGroup, text, more, hmore => by
    obtain ⟨t, rfl, hread⟩ := readGroup_complete h
    have hrest := readGroups_complete hs inside true text more hmore
    rw [List.append_assoc, List.cons_append, readSegment.eq_1, hread (u ++ text)]
    simp only [ok_bind, List.drop_left, hrest, pure_eq_ok, List.length_cons, List.length_append,
      List.append_assoc]
    congr 2
    omega

theorem readGroup_complete {t : List Char} {ss : List Statement} : Group t ss →
    ∃ t', t = '(' :: t' ∧ ∀ rest, readGroup (t' ++ rest) = .ok ⟨ss, t'.length⟩
  | .mk h => by
    refine ⟨_, rfl, fun rest => ?_⟩
    have hread := readStatements_complete h true (')' :: rest) (follows_cons.mpr rfl)
    rw [List.append_assoc, List.singleton_append, readGroup, hread]
    simp only [ok_bind, List.drop_left, require_cons, pure_eq_ok, List.length_append,
      List.length_singleton]

theorem readStatement_complete {t : List Char} {st : Statement} : Commands t st →
    ∀ inside rest, Follows (endsStatement inside) rest →
      readStatement inside [] (t ++ rest) = .ok ⟨st, t.length⟩
  | .steps h, inside, rest, hr =>
    readStatement_steps h (hr.mono endsLiteral_of_endsStatement) (readStatement_end _ hr)
  | @Commands.assign _ _ _ st key _ h hu hw, inside, rest, hr => by
    have hread := readAssigned_complete hw rest (hr.mono endsLiteral_of_endsStatement)
    -- the last of the steps is the target
    have hlast := readStatement_assign st key hread (by simpa using hr)
    rw [List.append_assoc, List.cons_append,
      readStatement_steps (h.snoc hu) (follows_cons.mpr rfl) hlast]
    simp only [Reading.behind, List.length_append, List.length_cons]
  | .calls h hu, inside, rest, hr => by
    obtain ⟨u, rfl, hread⟩ := readCalls_complete hu
    have hne : rest.head? ≠ some '#' := hr.head?_ne (by simp [endsStatement, endsStatements])
    have hlast := readStatement_calls h.terminalForm? (hread rest hne) (by simpa using hr)
    rw [List.append_assoc, List.cons_append, readStatement_steps h (follows_cons.mpr rfl) hlast]
    simp only [Reading.behind, List.length_append, List.length_cons]
  | .list h, inside, rest, hr => by
    have hitems := readItems_complete h ']' (.inr rfl) rest
    have hlast := readStatement_list hitems (by rw [drop_behind]; exact hr)
    simpa using hlast

theorem readCalls_complete {t : List Char} {cs : List Call} : Calls t cs →
    ∃ t', t = '#' :: t' ∧ ∀ rest, rest.head? ≠ some '#' →
      readCalls (t' ++ rest) = .ok ⟨cs, t'.length⟩
  | .one h => by
    obtain ⟨t', rfl, hread⟩ := readCalled_complete h
    refine ⟨t', rfl, fun rest hr => ?_⟩
    rw [readCalls_eq, hread, ok_bind, readBehindCall, List.drop_left, if_neg hr]
    rfl
  | .more h hs => by
    obtain ⟨t', rfl, hread⟩ := readCalled_complete h
    obtain ⟨u', rfl, hmore⟩ := readCalls_complete hs
    refine ⟨t' ++ '#' :: u', rfl, fun rest hr => ?_⟩
    rw [List.append_assoc, List.cons_append, readCalls_eq, hread, ok_bind, readBehindCall,
      List.drop_left, List.head?_cons, if_pos rfl, drop_behind, hmore rest hr]
    simp only [ok_bind, pure_eq_ok, List.length_append, List.length_cons]
    congr 2
    omega

theorem readCalled_complete {t : List Char} {call : Call} : Called t call →
    ∃ t', t = '#' :: t' ∧ ∀ rest, readCall (t' ++ rest) = .ok ⟨call, t'.length⟩
  | .mk ht hne hu =>
    ⟨_, rfl, readCall_called ht hne fun rest => readItems_complete hu ')' (.inl rfl) rest⟩

theorem readItems_complete {t : List Char} {os : List Operand} : Items t os →
    ∀ close, close = ')' ∨ close = ']' → ∀ rest,
      readItems close (t ++ close :: rest) = .ok ⟨os, t.length + 1⟩
  | .none hb, close, hclose, rest => by
    have hs : isSpecial close = true := by rcases hclose with rfl | rfl <;> rfl
    rw [readItems_blanks hb, readItems_close hs]
    simp only [Except.map, Reading.behind]
  | @Items.last _ _ b' _ hb ht hne hb', close, hclose, rest => by
    have hr : Follows endsLiteral (close :: rest) := follows_cons.mpr (by
      rcases hclose with rfl | rfl <;> rfl)
    have hcomma : (close :: rest).head? ≠ some ',' := by
      rcases hclose with rfl | rfl <;> simp
    have hitem := readItem_complete ht b' (close :: rest) hb' hr
    -- the item is there, so it does not begin like a blank or the end of the bracket
    obtain ⟨c, tail, rfl⟩ := List.exists_cons_of_ne_nil hne
    obtain ⟨hblank, hround, hsquare⟩ := ht.head
    have hitems := readItems_item close
      ⟨c, _, rfl, hblank, by rcases hclose with rfl | rfl <;> assumption⟩ hitem
    rw [if_neg hcomma, require_cons, ok_bind] at hitems
    rw [List.append_assoc, List.append_assoc, readItems_blanks hb, hitems]
    simp only [Except.map, Reading.behind, List.length_append]
    congr 2
    omega
  | @Items.more b t b' u _ _ hb ht hb' hu, close, hclose, rest => by
    have hmore := readItems_complete hu close hclose rest
    have hr : Follows endsLiteral (',' :: (u ++ close :: rest)) := follows_cons.mpr rfl
    have hcomma : ',' ≠ close := by rcases hclose with rfl | rfl <;> decide
    have hitem := fun b hb => readItem_complete ht b (',' :: (u ++ close :: rest)) hb hr
    cases t with
    | nil =>
      -- the blanks behind an item that is not there come before it
      have hitems := readItems_item close ⟨',', _, rfl, rfl, hcomma⟩
        (hitem [] (by simp [Blanks]))
      have hblanks : Blanks (b ++ b') := fun c hc =>
        (List.mem_append.mp hc).elim (hb c) (hb' c)
      rw [List.head?_cons, if_pos rfl, List.drop_one, List.tail_cons, hmore, ok_bind] at hitems
      rw [List.append_nil, List.append_assoc, List.cons_append, readItems_blanks hblanks,
        ← List.nil_append (',' :: _), ← List.nil_append ([] ++ _), hitems]
      simp only [Except.map, Reading.behind, List.length_append, List.length_cons, List.length_nil]
      congr 2
      omega
    | cons c tail =>
      obtain ⟨hblank, hround, hsquare⟩ := ht.head
      have hitems := readItems_item close
        ⟨c, _, rfl, hblank, by rcases hclose with rfl | rfl <;> assumption⟩ (hitem b' hb')
      rw [List.head?_cons, if_pos rfl, List.drop_one, List.tail_cons, hmore, ok_bind] at hitems
      have htext : b ++ c :: tail ++ b' ++ ',' :: u ++ close :: rest
          = b ++ (c :: tail ++ (b' ++ ',' :: (u ++ close :: rest))) := by simp
      rw [htext, readItems_blanks hb, hitems]
      simp only [Except.map, Reading.behind, List.length_append, List.length_cons]
      congr 2
      omega

theorem readItem_complete {t : List Char} {o : Operand} : Item t o →
    ∀ b rest, Blanks b → Follows endsLiteral rest → PassesItem t b rest o
  | .group h, b, rest, hb, hr => by
    -- the blanks behind a group or a marked literal are left, only a token takes them along
    obtain ⟨t, rfl, hread⟩ := readGroup_complete h
    refine ⟨('(' :: t).length, ?_, ?_⟩
    · rw [List.cons_append, readItem.eq_1, hread]
      rfl
    · rw [List.drop_left, blankCount_append hb (not_isBlank_of_follows hr)]
  | .marked h, b, rest, hb, hr => by
    refine ⟨t.length, ?_, ?_⟩
    · rw [readItem_marked h]
    · rw [List.drop_left, blankCount_append hb (not_isBlank_of_follows hr)]
  | .token ht _, b, rest, hb, hr => by
    refine ⟨t.length + b.length, readItem_token ht hb hr, ?_⟩
    rw [← List.append_assoc, ← List.length_append, List.drop_left,
      blankCount_of_follows (not_isBlank_of_follows hr), Nat.add_zero]

theorem readAssigned_complete {t : List Char} {o : Operand} : Assigned t o →
    ∀ rest, Follows endsLiteral rest → readAssigned (t ++ rest) = .ok ⟨o, t.length⟩
  | .group h, rest, hr => by
    obtain ⟨t, rfl, hread⟩ := readGroup_complete h
    rw [List.cons_append, readAssigned.eq_1, hread rest]
    rfl
  | .literal h, rest, hr => by
    rw [readAssigned.eq_2 _ (not_group h.head_ne (hr.head?_ne rfl)), readLiteral_complete h hr]
    rfl

end

end JsonQuery.Grammar
