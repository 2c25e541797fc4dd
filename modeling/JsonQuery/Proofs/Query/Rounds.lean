/-
  JsonQuery.Proofs.Query.Rounds
  ─────────────────────────────
  The readers of the query language, cut into rounds.

  Where a walk has a loop, its reader calls itself on the text behind what it has read.  For
  each of these readers there is one of a single round here, and what is left to read behind
  a round: the reader is its first round and then what `readOn` goes on with
  (`readTokenFrom_eq`, `readItemsFrom_eq`, `readChain_eq`, `readFrom_eq`).  Every round that
  is not the last reads a character at least.  For an item that is read from no character, this
  is because the character at its place has to be a comma or the closing one.
-/
import JsonQuery.Proofs.Query.Following

namespace JsonQuery

open Query Text Grammar

namespace Walk

variable {α σ : Type}

/-! ## §1. Tokens and blanks. -/

/-- A character of a token. -/
def readTokenRound (stops : Char → Bool) (done : List Char) :
    List Char → Except Fault (Reading (Round (List Char) (List Char)))
  | [] => .ok ⟨.last done, 0⟩
  | ['~'] => .error ⟨.endOfEscape, []⟩
  | '~' :: c :: _ => .ok ⟨.again (done ++ [c]), 2⟩
  | c :: _ => if stops c then .ok ⟨.last done, 0⟩ else .ok ⟨.again (done ++ [c]), 1⟩

/-- The characters of a token behind those that are done. -/
def readTokenFrom (stops : Char → Bool) (done text : List Char) :
    Except Fault (Reading (List Char)) :=
  (readToken stops text).map fun token => ⟨done ++ token.value, token.length⟩

theorem readTokenFrom_eq (stops : Char → Bool) (done text : List Char) :
    readTokenFrom stops done text
      = readTokenRound stops done text >>= readOn (readTokenFrom stops) text := by
  unfold readTokenFrom
  fun_cases readTokenRound stops done text with
  | case1 => simp [readToken, readOn, Except.map]
  | case2 => rfl
  | case3 c rest =>
    simp only [readToken, ok_bind, readOn, List.drop_succ_cons, List.drop_zero]
    cases readToken stops rest with
    | error e => rfl
    | ok more => simp [Except.map, Reading.behind, Nat.add_comm]
  | case4 c rest h1 h2 hstop =>
    rw [readToken_cons (ne_escape h1 h2), if_pos hstop]
    simp [readOn, Except.map]
  | case5 c rest h1 h2 hstop =>
    rw [readToken_cons (ne_escape h1 h2), if_neg hstop]
    simp only [ok_bind, readOn, List.drop_succ_cons, List.drop_zero]
    cases readToken stops rest with
    | error e => rfl
    | ok more => simp [Except.map, Reading.behind, Nat.add_comm]

theorem readTokenRound_again {stops : Char → Bool} {done text s : List Char}
    {r : Reading (Round (List Char) (List Char))} (h : readTokenRound stops done text = .ok r)
    (hs : r.value = .again s) : 0 < r.length := by
  revert h
  fun_cases readTokenRound stops done text <;> grind

/-- A blank. -/
def readBlankRound (text : List Char) : Except Fault (Reading (Round Unit Unit)) :=
  if text.head?.any isBlank then .ok ⟨.again (), 1⟩ else .ok ⟨.last (), 0⟩

/-- The blanks that the text begins with. -/
def readBlanks (text : List Char) : Except Fault (Reading Unit) := .ok ⟨(), blankCount text⟩

theorem readBlanks_eq (text : List Char) :
    readBlanks text = readBlankRound text >>= readOn (fun _ => readBlanks) text := by
  unfold readBlanks readBlankRound
  cases text with
  | nil => rfl
  | cons c rest =>
    cases hc : isBlank c <;>
      simp [hc, readOn, blankCount, Except.map, Reading.behind, Nat.add_comm]

theorem readBlankRound_again {text : List Char} {r : Reading (Round Unit Unit)}
    {s : Unit} (h : readBlankRound text = .ok r) (hs : r.value = .again s) : 0 < r.length := by
  revert h
  fun_cases readBlankRound text <;> grind

/-! ## §2. Items. -/

/-- Behind something that has been passed over, a round and what follows it are the same. -/
theorem readOn_behind (read : σ → List Char → Except Fault (Reading α)) (text : List Char) (n : Nat)
    (x : Except Fault (Reading (Round σ α))) :
    (x.map (·.behind n) >>= readOn read text)
      = (x >>= readOn read (text.drop n)).map (·.behind n) := by
  cases x with
  | error e => rfl
  | ok r =>
    obtain ⟨value, length⟩ := r
    cases value with
    | last a => rfl
    | again s =>
      show (read s (text.drop (n + length))).map _
        = ((read s ((text.drop n).drop length)).map _).map _
      rw [List.drop_drop]
      cases read s (text.drop (n + length)) with
      | error e => rfl
      | ok t => simp [Except.map, Reading.behind, Nat.add_assoc]

/-- The comma behind an item, unless the closing character stands there. -/
def readComma (close : Char) (text : List Char) : Except Fault (Reading Unit) :=
  if text.head? = some ',' then .ok ⟨(), 1⟩
  else (require close (afterItem close) text).map fun _ => ⟨(), 0⟩

/-- An item with the blanks and the comma behind it. -/
def readNextItem (close : Char) (done : List Operand) (text : List Char) :
    Except Fault (Reading (Round (List Operand) (List Operand))) := do
  let item ← readItem text
  let length := item.length + blankCount (text.drop item.length)
  let comma ← readComma close (text.drop length)
  return ⟨.again (done ++ [item.value]), length + comma.length⟩

/-- The end of a bracket, or one more item. -/
def readBracket (close : Char) (done : List Operand) (text : List Char) :
    Except Fault (Reading (Round (List Operand) (List Operand))) :=
  match text with
  | [] => .error ⟨.missing [close.toString], []⟩
  | c :: rest =>
    if c = close then .ok ⟨.last done, 1⟩ else readNextItem close done (c :: rest)

/-- The same behind blanks. -/
def readItemsRound (close : Char) (done : List Operand) (text : List Char) :
    Except Fault (Reading (Round (List Operand) (List Operand))) :=
  (readBracket close done (text.drop (blankCount text))).map (·.behind (blankCount text))

/-- The items of a bracket behind those that are done. -/
def readItemsFrom (close : Char) (done : List Operand) (text : List Char) :
    Except Fault (Reading (List Operand)) :=
  (readItems close text).map fun items => ⟨done ++ items.value, items.length⟩

theorem readItemsFrom_blanks (close : Char) (done : List Operand) (text : List Char) :
    readItemsFrom close done text
      = (readItemsFrom close done (text.drop (blankCount text))).map
        (·.behind (blankCount text)) := by
  obtain ⟨b, rest, htext, hb, hlength⟩ := blankCount_split text
  have hdrop : text.drop b.length = rest := by
    rw [htext]
    exact List.drop_left
  rw [← hlength, hdrop, htext]
  unfold readItemsFrom
  rw [readItems_blanks hb]
  cases readItems close rest <;> rfl

/-- Behind an item and its comma come the other items. Where the comma is missing, none is left. -/
theorem readItems_comma {close c : Char} {rest : List Char} (hclose : isBlank close = false)
    (hblank : isBlank c = false) (hc : c ≠ close) :
    readItems close (c :: rest) = readItem (c :: rest) >>= fun item =>
      readComma close ((c :: rest).drop (item.length + blankCount ((c :: rest).drop item.length)))
        >>= fun comma =>
      (readItems close ((c :: rest).drop
        (item.length + blankCount ((c :: rest).drop item.length) + comma.length))).map fun more =>
      ⟨item.value :: more.value,
        item.length + blankCount ((c :: rest).drop item.length) + comma.length + more.length⟩ := by
  rw [readItems_cons, if_neg (by simp [hblank]), if_neg hc]
  refine bind_congr_of_ok fun item _ => ?_
  generalize item.length + blankCount ((c :: rest).drop item.length) = length
  unfold readBehindItem readComma
  by_cases hcomma : ((c :: rest).drop length).head? = some ','
  · rw [if_pos hcomma, if_pos hcomma, ok_bind]
    cases readItems close ((c :: rest).drop (length + 1)) <;> rfl
  · rw [if_neg hcomma, if_neg hcomma]
    cases hrequire : require close (afterItem close) ((c :: rest).drop length) with
    | error e => rfl
    | ok u =>
      -- the bracket closes here, and what would read further items reads just that
      obtain ⟨rest', hrest⟩ := require_eq_ok_iff.mp hrequire
      show _ = (readItems close ((c :: rest).drop length)).map _
      rw [hrest, readItems_cons, if_neg (by simp [hclose]), if_pos rfl]
      rfl

theorem readItemsFrom_eq {close : Char} (hclose : isBlank close = false) (done : List Operand)
    (text : List Char) :
    readItemsFrom close done text
      = readItemsRound close done text >>= readOn (readItemsFrom close) text := by
  rw [readItemsFrom_blanks, readItemsRound, readOn_behind]
  congr 1
  cases hrest : text.drop (blankCount text) with
  | nil =>
    unfold readItemsFrom
    rw [readItems_nil]
    rfl
  | cons c rest =>
    have hblank := not_isBlank_head hrest
    unfold readItemsFrom readBracket
    by_cases hc : c = close
    · rw [readItems_cons, if_neg (by simp [hblank]), if_pos hc]
      simp [hc, readOn, Except.map]
    · rw [readItems_comma hclose hblank hc]
      simp only [if_neg hc, readNextItem, map_bind, bind_assoc]
      refine bind_congr_of_ok fun item _ => bind_congr_of_ok fun comma _ => ?_
      simp only [pure_eq_ok, ok_bind, readOn]
      generalize readItems close _ = x
      cases x with
      | error e => rfl
      | ok more => simp [Except.map, Reading.behind]

/-- An item that is read from no character is no round of no character: what stands at its place
has to be the comma, as it is not the closing character. -/
theorem readItemsRound_again {close : Char} {done s : List Operand} {text : List Char}
    {r : Reading (Round (List Operand) (List Operand))}
    (h : readItemsRound close done text = .ok r) (hs : r.value = .again s) : 0 < r.length := by
  obtain ⟨t, ht, rfl⟩ := map_eq_ok_iff.mp h
  refine Nat.lt_of_lt_of_le ?_ (Nat.le_add_left _ _)
  unfold readBracket at ht
  split at ht
  · cases ht
  rename_i c rest _
  split at ht
  · cases ht
    cases hs
  rename_i hclose
  obtain ⟨item, -, ht⟩ := bind_eq_ok_iff.mp ht
  obtain ⟨comma, hcomma, ht⟩ := bind_eq_ok_iff.mp ht
  cases ht
  refine Nat.pos_of_ne_zero fun hzero => ?_
  obtain ⟨hlength, hcomma0⟩ := Nat.add_eq_zero_iff.mp hzero
  rw [hlength] at hcomma
  unfold readComma at hcomma
  split at hcomma
  · cases hcomma
    cases hcomma0
  · -- nothing has been read, so the closing character is required at the place of another one
    obtain ⟨⟨⟩, hrequire, -⟩ := map_eq_ok_iff.mp hcomma
    obtain ⟨rest', htext⟩ := require_eq_ok_iff.mp hrequire
    exact hclose (List.head_eq_of_cons_eq htext)

/-! ## §3. Calls. -/

/-- One more call, with its mark. -/
def readChainRound (done : List Call) (text : List Char) :
    Except Fault (Reading (Round (List Call) (List Call))) :=
  if text.head? = some '#' then
    (readCall (text.drop 1)).map fun call => ⟨.again (done ++ [call.value]), call.length + 1⟩
  else .ok ⟨.last done, 0⟩

/-- The calls behind those that are done. -/
def readChain (done : List Call) (text : List Char) : Except Fault (Reading (List Call)) :=
  if text.head? = some '#' then
    (readCalls (text.drop 1)).map fun calls => ⟨done ++ calls.value, calls.length + 1⟩
  else .ok ⟨done, 0⟩

theorem readChain_eq (done : List Call) (text : List Char) :
    readChain done text = readChainRound done text >>= readOn readChain text := by
  unfold readChainRound
  by_cases hmark : text.head? = some '#'
  · obtain ⟨rest, rfl⟩ := List.head?_eq_some_iff.mp hmark
    rw [readChain, if_pos hmark, if_pos hmark]
    show (readCalls rest).map _ = (readCall rest).map _ >>= _
    rw [readCalls_eq, map_bind]
    cases readCall rest with
    | error e => rfl
    | ok call =>
      show (readBehindCall call.value call.length rest).map _
        = (readChain (done ++ [call.value]) (rest.drop call.length)).map _
      unfold readBehindCall readChain
      -- a further call is read behind its mark, here as there
      by_cases hnext : (rest.drop call.length).head? = some '#'
      · rw [if_pos hnext, if_pos hnext, List.drop_drop]
        cases readCalls (rest.drop (call.length + 1)) with
        | error e => rfl
        | ok more => simp [Except.map, Reading.behind, Nat.add_comm, Nat.add_left_comm]
      · rw [if_neg hnext, if_neg hnext]
        rfl
  · rw [readChain, if_neg hmark, if_neg hmark]
    rfl

theorem readChainRound_again {done s : List Call} {text : List Char}
    {r : Reading (Round (List Call) (List Call))} (h : readChainRound done text = .ok r)
    (hs : r.value = .again s) : 0 < r.length := by
  unfold readChainRound at h
  split at h
  · obtain ⟨call, -, rfl⟩ := map_eq_ok_iff.mp h
    exact Nat.succ_pos _
  · cases h
    cases hs

/-! ## §4. Statements. -/

/-- A group in front of the statement under way, or one more command of it, with the character that
it begins with. -/
def readNext (s : Unfinished) (c : Char) (rest : List Char) : Except Fault (Reading Unfinished) :=
  if c = '(' && s.commands.isEmpty then
    (readGroup rest).map fun group => ⟨s.splice group.value, group.length + 1⟩
  else
    (readPhrase s.commands c rest).map fun phrase =>
      ⟨⟨s.statements, phrase.value, false⟩, phrase.length + 1⟩

/-- A command, a group or a pipe. -/
def readRound (inside : Bool) (s : Unfinished) (text : List Char) :
    Except Fault (Reading (Round Unfinished (List Statement))) :=
  match text with
  | [] => .ok ⟨.last s.finish, 0⟩
  | c :: rest =>
    if inside && c = ')' then .ok ⟨.last s.finish, 0⟩
    else if c = '|' then .ok ⟨.again s.pipe, 1⟩
    else if let some form := terminalForm? s.commands then .error ⟨.notLast form, c :: rest⟩
    else (readNext s c rest).map fun next => ⟨.again next.value, next.length⟩

/-- The statements behind a pipe, if one follows those that have been read. -/
def readPiped (inside : Bool) (text : List Char) (segment : Reading (List Statement)) :
    Except Fault (Reading (List Statement)) := do
  if (text.drop segment.length).head? = some '|' then
    let more ← readStatements inside (text.drop (segment.length + 1))
    return ⟨segment.value ++ more.value, segment.length + 1 + more.length⟩
  return segment

theorem readPiped_behind (inside : Bool) (text : List Char) (n : Nat)
    (segment : Reading (List Statement)) :
    readPiped inside text (segment.behind n)
      = (readPiped inside (text.drop n) segment).map (·.behind n) := by
  unfold readPiped Reading.behind
  simp only [List.drop_drop, Nat.add_assoc]
  split
  · cases readStatements inside (text.drop (n + (segment.length + 1))) with
    | error e => rfl
    | ok more => simp [Except.map]
  · rfl

/-- The statements up to the next pipe, behind what has been read. -/
def readUnfinished (inside : Bool) (s : Unfinished) (text : List Char) :
    Except Fault (Reading (List Statement)) :=
  if s.commands.isEmpty then
    (readSegment inside s.afterGroup text).map fun segment =>
      ⟨s.statements ++ segment.value, segment.length⟩
  else
    (readStatement inside s.commands text).map fun statement =>
      ⟨s.statements ++ [statement.value], statement.length⟩

/-- The statements of a query, behind what has been read. -/
def readFrom (inside : Bool) (s : Unfinished) (text : List Char) :
    Except Fault (Reading (List Statement)) :=
  readUnfinished inside s text >>= readPiped inside text

theorem readFrom_start (inside : Bool) (text : List Char) :
    readFrom inside .start text = readStatements inside text := by
  rw [readStatements.eq_def]
  unfold readFrom readUnfinished
  show (readSegment inside false text).map _ >>= _ = _
  cases readSegment inside false text <;> rfl

/-- Behind a pipe, the statements that are complete only stand before the others. -/
theorem readFrom_pipe (inside : Bool) (ss : List Statement) (text : List Char) :
    readFrom inside ⟨ss, [], false⟩ text
      = (readStatements inside text).map fun more => ⟨ss ++ more.value, more.length⟩ := by
  rw [← readFrom_start]
  unfold readFrom readUnfinished
  show (readSegment inside false text).map _ >>= _
    = ((readSegment inside false text).map _ >>= _).map _
  cases readSegment inside false text with
  | error e => rfl
  | ok segment =>
    show readPiped inside text ⟨ss ++ segment.value, segment.length⟩
      = (readPiped inside text segment).map _
    unfold readPiped
    dsimp only
    split
    · cases readStatements inside (text.drop (segment.length + 1)) with
      | error e => rfl
      | ok more => simp [Except.map, List.append_assoc]
    · rfl

/-- Without a group at its start, the rest of a segment is a statement. -/
theorem readUnfinished_of_ne {inside : Bool} {s : Unfinished} {text : List Char}
    (h : s.commands.isEmpty = true → text.head? ≠ some '(') :
    readUnfinished inside s text = (readStatement inside s.commands text).map fun statement =>
      ⟨{ s with commands := statement.value }.finish, statement.length⟩ := by
  unfold readUnfinished
  by_cases hempty : s.commands.isEmpty = true
  · have hopen := h hempty
    rw [if_pos hempty, List.isEmpty_iff.mp hempty, readSegment.eq_def]
    split
    · exact absurd rfl hopen
    · cases readStatement inside [] text with
      | error e => rfl
      | ok statement =>
        unfold Unfinished.finish
        show Except.map _ (if _ then _ else _) = _
        split <;> simp [*, Except.map]
  · rw [if_neg hempty]
    cases hread : readStatement inside s.commands text with
    | error e => rfl
    | ok statement =>
      -- a statement that has begun is not empty at its end
      have hne := readStatement_ne_nil (by simpa using hempty) hread
      simp [Except.map, Unfinished.finish, hne]

theorem readUnfinished_group {inside : Bool} {s : Unfinished} (hempty : s.commands.isEmpty = true)
    (rest : List Char) :
    readUnfinished inside s ('(' :: rest) = readGroup rest >>= fun group =>
      (readUnfinished inside (s.splice group.value) (rest.drop group.length)).map
        (·.behind (group.length + 1)) := by
  rw [readUnfinished, if_pos hempty, readSegment.eq_def]
  show (readGroup rest >>= _).map _ = _
  rw [map_bind]
  refine bind_congr_of_ok fun group _ => ?_
  rw [readUnfinished, if_pos (show (s.splice group.value).commands.isEmpty = true from hempty)]
  show (readSegment inside true (rest.drop group.length) >>= _).map _
    = ((readSegment inside true (rest.drop group.length)).map _).map _
  cases readSegment inside true (rest.drop group.length) with
  | error e => rfl
  | ok more => simp [Except.map, Unfinished.splice, Reading.behind, Nat.add_comm]

theorem readUnfinished_phrase {inside : Bool} {s : Unfinished} {c : Char} {rest : List Char}
    (hempty : s.commands.isEmpty = true → c ≠ '(')
    (hend : ¬(c = '|' || (inside && c = ')')) = true) (hform : terminalForm? s.commands = none) :
    readUnfinished inside s (c :: rest) = readPhrase s.commands c rest >>= fun phrase =>
      (readUnfinished inside ⟨s.statements, phrase.value, false⟩ (rest.drop phrase.length)).map
        (·.behind (phrase.length + 1)) := by
  rw [readUnfinished_of_ne (by simpa using hempty), readStatement_cons, if_neg hend, hform]
  show (readPhrase s.commands c rest >>= _).map _ = _
  rw [map_bind]
  refine bind_congr_of_ok fun phrase hphrase => ?_
  have hbegun : phrase.value ≠ [] := readPhrase_ne_nil hphrase
  rw [readUnfinished, if_neg (by simpa using hbegun)]
  cases hmore : readStatement inside phrase.value (rest.drop phrase.length) with
  | error e => rfl
  | ok more =>
    have hne := readStatement_ne_nil hbegun hmore
    simp [Except.map, Unfinished.finish, Reading.behind, hne]

/-- A round that is not the last, if the rest of the segment is read behind it. -/
theorem readFrom_again {γ : Type} {inside : Bool} {s : Unfinished} {c : Char} {rest : List Char}
    {x : Except Fault (Reading γ)} {next : Reading γ → Unfinished}
    (h : readUnfinished inside s (c :: rest) = x >>= fun r =>
      (readUnfinished inside (next r) (rest.drop r.length)).map (·.behind (r.length + 1))) :
    readFrom inside s (c :: rest)
      = ((x.map fun r => (⟨next r, r.length + 1⟩ : Reading Unfinished)).map fun next =>
          (⟨.again next.value, next.length⟩ : Reading (Round Unfinished _)))
        >>= readOn (readFrom inside) (c :: rest) := by
  rw [readFrom, h]
  cases x with
  | error e => rfl
  | ok r =>
    show (readUnfinished inside (next r) (rest.drop r.length)).map _ >>= _
      = (readUnfinished inside (next r) (rest.drop r.length) >>= _).map _
    cases readUnfinished inside (next r) (rest.drop r.length) with
    | error e => rfl
    | ok segment => exact readPiped_behind inside (c :: rest) (r.length + 1) segment

theorem readFrom_eq (inside : Bool) (s : Unfinished) (text : List Char) :
    readFrom inside s text = readRound inside s text >>= readOn (readFrom inside) text := by
  cases text with
  | nil =>
    rw [readFrom, readUnfinished_of_ne (by simp), readStatement]
    rfl
  | cons c rest =>
    unfold readRound
    dsimp only
    -- the character ends the query, or the segment, or tells what comes next
    by_cases hclose : (inside && decide (c = ')')) = true
    · have hc : c = ')' := of_decide_eq_true (Bool.and_eq_true_iff.mp hclose).2
      rw [if_pos hclose, readFrom, readUnfinished_of_ne (by simp [hc]), readStatement_cons,
        if_pos (by rw [hclose, Bool.or_true])]
      simp [readPiped, hc, readOn, Except.map]
    rw [if_neg hclose]
    by_cases hpipe : c = '|'
    · rw [if_pos hpipe, readFrom, readUnfinished_of_ne (by simp [hpipe]), readStatement_cons,
        if_pos (by simp [hpipe])]
      show readPiped inside (c :: rest) ⟨s.finish, 0⟩ = (readFrom inside s.pipe rest).map _
      rw [Unfinished.pipe, readFrom_pipe, readPiped, if_pos (by rw [hpipe]; rfl)]
      show readStatements inside rest >>= _ = _
      cases readStatements inside rest with
      | error e => rfl
      | ok more => simp [Except.map, Reading.behind]
    rw [if_neg hpipe]
    have hend : ¬(decide (c = '|') || (inside && decide (c = ')'))) = true := by
      simp [hpipe, hclose]
    cases hform : terminalForm? s.commands with
    | some form =>
      have hne : s.commands.isEmpty ≠ true := by
        intro hempty
        rw [List.isEmpty_iff.mp hempty] at hform
        cases hform
      rw [readFrom, readUnfinished_of_ne fun h => absurd h hne, readStatement_cons, if_neg hend,
        hform]
      rfl
    | none =>
      dsimp only
      unfold readNext
      split
      · rename_i hopen
        obtain ⟨hc, hempty⟩ := Bool.and_eq_true_iff.mp hopen
        rw [of_decide_eq_true hc]
        exact readFrom_again (readUnfinished_group hempty rest)
      · rename_i hopen
        refine readFrom_again (readUnfinished_phrase ?_ hend hform)
        intro hempty hc
        exact hopen (by simp [hempty, hc])

theorem readNext_pos {s : Unfinished} {c : Char} {rest : List Char} {r : Reading Unfinished}
    (h : readNext s c rest = .ok r) : 0 < r.length := by
  unfold readNext at h
  split at h
  · obtain ⟨group, -, rfl⟩ := map_eq_ok_iff.mp h
    exact Nat.succ_pos _
  · obtain ⟨phrase, -, rfl⟩ := map_eq_ok_iff.mp h
    exact Nat.succ_pos _

theorem readRound_again {inside : Bool} {s s' : Unfinished} {text : List Char}
    {r : Reading (Round Unfinished (List Statement))} (h : readRound inside s text = .ok r)
    (hs : r.value = .again s') : 0 < r.length := by
  unfold readRound at h
  split at h
  · cases h
    cases hs
  split at h
  · cases h
    cases hs
  split at h
  · cases h
    exact Nat.one_pos
  split at h
  · cases h
  obtain ⟨next, hnext, rfl⟩ := map_eq_ok_iff.mp h
  exact readNext_pos hnext

end Walk

end JsonQuery
