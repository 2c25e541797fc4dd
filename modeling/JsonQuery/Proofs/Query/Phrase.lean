/-
  JsonQuery.Proofs.Query.Phrase
  ─────────────────────────────
  The readers of statements, items and calls, one piece at a time.

  A statement goes on with a phrase: the character that a command begins with, and what
  belongs to it.  Behind the phrase the reader of statements is called again
  (`readStatement_cons`), so that a law of it is one of phrases and one of what follows.
  In the same way a bracket goes on with an item (`readItems_cons`) and a chain with a
  call (`readCalls_eq`).
-/
import JsonQuery.Proofs.Query.Lexical

namespace JsonQuery.Grammar

open Query Text

/-! ## §1. Statements. -/

/-- The commands of a statement behind one more, from behind the character that it begins with. -/
def readPhrase (done : Statement) (c : Char) (rest : List Char) :
    Except Fault (Reading Statement) :=
  match c with
  | '.' => (readStep rest).map fun step => ⟨done ++ [step.value], step.length⟩
  | '[' =>
    if done.isEmpty then (readItems ']' rest).map fun items => ⟨[.list items.value], items.length⟩
    else .error ⟨.listInside, c :: rest⟩
  | '(' => .error ⟨.groupInside, c :: rest⟩
  | '=' =>
    match assignTarget done with
    | .error reason => .error ⟨reason, c :: rest⟩
    | .ok (before, target) =>
      (readAssigned rest).map fun value => ⟨before ++ [.assign target value.value], value.length⟩
  | '#' => (readCalls rest).map fun calls => ⟨done ++ [.call calls.value], calls.length⟩
  | _ => .error ⟨.stray c, c :: rest⟩

/-- The commands behind a phrase, when the phrase has been read as something else first. -/
theorem readPhrase_bind {γ : Type} (inside : Bool) (rest : List Char)
    (x : Except Fault (Reading γ)) (next : Reading γ → Statement) :
    (x >>= fun p => readStatement inside (next p) (rest.drop p.length) >>= fun more =>
        .ok (more.behind (p.length + 1)))
      = (x.map fun p => (⟨next p, p.length⟩ : Reading Statement)) >>= fun phrase =>
        (readStatement inside phrase.value (rest.drop phrase.length)).map
          (·.behind (phrase.length + 1)) := by
  cases x with
  | error e => rfl
  | ok p =>
    show readStatement inside (next p) (rest.drop p.length) >>= _ = Except.map _ _
    cases readStatement inside (next p) (rest.drop p.length) <;> rfl

theorem readStatement_nil (inside : Bool) (done : Statement) :
    readStatement inside done [] = .ok ⟨done, 0⟩ := by
  rw [readStatement.eq_def]

/-- The reader of statements where the text goes on. -/
theorem readStatement_cons (inside : Bool) (done : Statement) (c : Char) (rest : List Char) :
    readStatement inside done (c :: rest) =
      if c = '|' || (inside && c = ')') then .ok ⟨done, 0⟩
      else if let some form := terminalForm? done then .error ⟨.notLast form, c :: rest⟩
      else readPhrase done c rest >>= fun phrase =>
        (readStatement inside phrase.value (rest.drop phrase.length)).map
          (·.behind (phrase.length + 1)) := by
  rw [readStatement.eq_def]
  dsimp only
  refine ite_congr rfl (fun _ => rfl) fun _ => ?_
  cases terminalForm? done with
  | some form => rfl
  | none =>
    unfold readPhrase
    dsimp only
    split
    case h_1 => exact readPhrase_bind inside rest (readStep rest) _
    case h_2 =>
      cases done with
      | nil => exact readPhrase_bind inside rest (readItems ']' rest) _
      | cons command done => rfl
    case h_3 => rfl
    case h_4 =>
      cases assignTarget done with
      | error reason => rfl
      | ok target => exact readPhrase_bind inside rest (readAssigned rest) _
    case h_5 => exact readPhrase_bind inside rest (readCalls rest) _
    case h_6 => simp only [error_bind]

/-- A phrase adds a command, or puts one in the place of another. -/
theorem readPhrase_ne_nil {done : Statement} {c : Char} {rest : List Char} {r : Reading Statement}
    (h : readPhrase done c rest = .ok r) : r.value ≠ [] := by
  revert h
  unfold readPhrase
  split
  case h_1 =>
    intro h
    obtain ⟨step, -, rfl⟩ := map_eq_ok_iff.mp h
    exact List.concat_ne_nil _ _
  case h_2 =>
    split
    · intro h
      obtain ⟨items, -, rfl⟩ := map_eq_ok_iff.mp h
      exact List.cons_ne_nil _ _
    · rintro ⟨⟩
  case h_3 => rintro ⟨⟩
  case h_4 =>
    split
    · rintro ⟨⟩
    · intro h
      obtain ⟨value, -, rfl⟩ := map_eq_ok_iff.mp h
      exact List.concat_ne_nil _ _
  case h_5 =>
    intro h
    obtain ⟨calls, -, rfl⟩ := map_eq_ok_iff.mp h
    exact List.concat_ne_nil _ _
  case h_6 => rintro ⟨⟩

/-- A statement that has begun does not lose all its commands. -/
theorem readStatement_ne_nil {inside : Bool} {done : Statement} {text : List Char}
    {r : Reading Statement} (hdone : done ≠ []) (h : readStatement inside done text = .ok r) :
    r.value ≠ [] := by
  induction hn : text.length using Nat.strongRecOn generalizing done text r with
  | _ n ih =>
    subst hn
    cases text with
    | nil =>
      rw [readStatement_nil] at h
      cases h
      exact hdone
    | cons c rest =>
      rw [readStatement_cons] at h
      split at h
      · cases h
        exact hdone
      split at h
      · cases h
      obtain ⟨phrase, hphrase, h⟩ := bind_eq_ok_iff.mp h
      obtain ⟨more, hmore, rfl⟩ := map_eq_ok_iff.mp h
      show more.value ≠ []
      refine ih _ ?_ (readPhrase_ne_nil hphrase) hmore rfl
      rw [List.length_drop, List.length_cons]
      omega

/-! ## §2. Items. -/

/-- What follows an item and its blanks. -/
def readBehindItem (close : Char) (item : Reading Operand) (length : Nat) (text : List Char) :
    Except Fault (Reading (List Operand)) := do
  if (text.drop length).head? = some ',' then
    let more ← readItems close (text.drop (length + 1))
    return ⟨item.value :: more.value, length + 1 + more.length⟩
  require close (afterItem close) (text.drop length)
  return ⟨[item.value], length + 1⟩

theorem readItems_nil (close : Char) :
    readItems close [] = .error ⟨.missing [close.toString], []⟩ := by
  rw [readItems.eq_def]

/-- The reader of items where the text goes on. -/
theorem readItems_cons (close c : Char) (rest : List Char) :
    readItems close (c :: rest) =
      if isBlank c then (readItems close rest).map (·.behind 1)
      else if c = close then .ok ⟨[], 1⟩
      else readItem (c :: rest) >>= fun item =>
        readBehindItem close item (item.length + blankCount ((c :: rest).drop item.length))
          (c :: rest) := by
  rw [readItems.eq_def]
  rfl

/-! ## §3. Calls. -/

/-- A call, from behind its mark. -/
def readCall (text : List Char) : Except Fault (Reading Call) := do
  let name ← readToken endsName text
  if name.value.isEmpty then throw ⟨.missingName, text⟩
  require '(' ["("] (text.drop name.length)
  let args ← readItems ')' (text.drop (name.length + 1))
  return ⟨.mk (String.ofList name.value) args.value, name.length + 1 + args.length⟩

/-- What follows a call. -/
def readBehindCall (call : Call) (length : Nat) (text : List Char) :
    Except Fault (Reading (List Call)) := do
  if (text.drop length).head? = some '#' then
    let more ← readCalls (text.drop (length + 1))
    return ⟨call :: more.value, length + 1 + more.length⟩
  return ⟨[call], length⟩

theorem readCalls_eq (text : List Char) :
    readCalls text = readCall text >>= fun call => readBehindCall call.value call.length text := by
  rw [readCalls.eq_def]
  cases text with
  | nil => rfl
  | cons c rest =>
    simp only [readCall, bind_assoc]
    refine bind_congr_of_ok fun name _ => ?_
    by_cases hname : name.value.isEmpty = true
    · rw [if_pos hname, if_pos hname]
      rfl
    · rw [if_neg hname, if_neg hname]
      simp only [bind_assoc, pure_eq_ok, ok_bind]
      rfl

end JsonQuery.Grammar
