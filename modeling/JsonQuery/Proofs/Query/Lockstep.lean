/-
  JsonQuery.Proofs.Query.Lockstep
  ───────────────────────────────
  Walks over tokens, literals and steps follow their readers.

  One lemma for each walk, at every cursor of a text that fits the memory: what the walk
  looks at from the cursor on, the reader looks at from the start of the rest, and the walk
  that goes on behind it follows the rest of the reader.
-/
import JsonQuery.Proofs.Query.Rounds

namespace JsonQuery

open Query Text Grammar

namespace Walk

open Cursor (Valid Held begins)

variable {c : Cursor}

/-! ## §1. Tokens and literals. -/

theorem one_le_rest {ch : Char} {rest : List Char} (h : c.rest = ch :: rest) :
    1 ≤ c.rest.length := by
  rw [h]
  exact Nat.succ_le_succ (Nat.zero_le _)

theorem rest_behind_one {ch : Char} {rest : List Char} (h : c.rest = ch :: rest) :
    (c.behind 1).rest = rest := by
  rw [Cursor.rest_behind, h]
  rfl

theorem follows_next (hc : c.Valid) :
    Follows next c (.ok ⟨c.rest.head?, min 1 c.rest.length⟩) := by
  constructor
  · have hlt : c.index + (1 : UInt64).toNat < UInt64.size := Cursor.add_lt_size hc (by decide)
    have hplace := hc.index_le
    have hlength := c.length_rest
    show some (Except.ok (c.current?, c.advance 1)) = some (Except.ok (_, Cursor.behind c _))
    rw [Cursor.current?_eq_head?, Cursor.advance_of_lt hlt]
    unfold Cursor.behind
    rw [show min (c.index + (1 : UInt64).toNat) c.text.length = c.index + min 1 c.rest.length by
      show min (c.index + 1) _ = _
      omega]
  · rintro r ⟨⟩
    exact Nat.min_le_right _ _

theorem follows_tokenRound (hc : c.Valid) (stops : Char → Bool) (done : List Char) :
    Follows (tokenRound stops done) c (readTokenRound stops done c.rest) := by
  unfold tokenRound
  refine .get_bind ?_
  rw [Cursor.current?_eq_head?]
  cases hrest : c.rest with
  | nil => exact .pure _ c
  | cons ch rest =>
    have hone := one_le_rest hrest
    dsimp only [List.head?_cons]
    by_cases hescape : ch = '~'
    · rw [if_pos hescape]
      have hnext := follows_next (hc.behind hone)
      rw [rest_behind_one hrest] at hnext
      -- the character that is escaped may be missing
      cases rest with
      | nil =>
        refine .congr (.pop_bind hc hone
          (.bind (y := fun _ => .error ⟨.endOfEscape, []⟩) hnext ?_)) ?_
        · rintro r ⟨⟩
          exact (Follows.fail (hc.behind hone) _).congr (by rw [rest_behind_one hrest])
        · rw [hescape]
          rfl
      | cons d rest =>
        refine .congr (.pop_bind hc hone
          (.bind (y := fun _ => .ok ⟨.again (done ++ [d]), 0⟩) hnext ?_)) ?_
        · rintro r ⟨⟩
          exact .pure _ _
        · rw [hescape]
          rfl
    rw [if_neg hescape]
    have hround : readTokenRound stops done (ch :: rest)
        = if stops ch then .ok ⟨.last done, 0⟩ else .ok ⟨.again (done ++ [ch]), 1⟩ := by
      rw [readTokenRound.eq_4 _ _ _ _ (by simp [hescape]) (by simp [hescape])]
    rw [hround]
    refine .ite (fun _ => .pure _ c) fun _ => ?_
    exact (Follows.pop hc hone).map fun _ => Round.again (done ++ [ch])

theorem follows_token (hc : c.Valid) (stops : Char → Bool) :
    Follows (token stops) c (readToken stops c.rest) := by
  refine (follows_loop (Loop.run_eq ⟨tokenRound stops⟩) (readTokenFrom_eq stops)
    (fun _ _ _ _ => readTokenRound_again) hc
    (fun done c' hc' _ => follows_tokenRound hc' stops done) []).congr ?_
  unfold readTokenFrom
  cases readToken stops c.rest <;> rfl

theorem follows_blankRound (hc : c.Valid) :
    Follows (blankRound ()) c (readBlankRound c.rest) := by
  unfold blankRound
  refine .get_bind ?_
  rw [Cursor.current?_eq_head?]
  refine .ite (fun hblank => ?_) fun _ => .pure _ c
  cases hrest : c.rest with
  | nil =>
    rw [hrest] at hblank
    cases hblank
  | cons ch rest => exact (Follows.pop hc (one_le_rest hrest)).map fun _ => Round.again ()

theorem follows_blanks (hc : c.Valid) : Follows blanks c (readBlanks c.rest) :=
  follows_loop (Loop.run_eq ⟨blankRound⟩) (fun _ => readBlanks_eq)
    (fun _ _ _ _ => readBlankRound_again) hc (fun _ _ hc' _ => follows_blankRound hc') ()

theorem mark?_eq (hc : c.Valid) : mark? c = marked? c.rest := by
  unfold mark? marks
  rw [Cursor.startsWithAny_eq hc, Cursor.current?_eq_head?]
  -- a mark takes two characters
  match c.rest with
  | [] => rfl
  | [mark] => simp [begins, List.isPrefixOf, marked?]
  | mark :: bracket :: rest =>
    have hbegins : ∀ (p : String) (d : Char), p.toList = [d, '('] →
        begins (mark :: bracket :: rest) p = (mark == d && bracket == '(') := by
      intro p d hp
      rw [begins_eq hp]
      simp [List.isPrefixOf, Bool.beq_comm (a := mark), Bool.beq_comm (a := bracket)]
    simp only [List.any_cons, List.any_nil, hbegins "i(" 'i' rfl, hbegins "s(" 's' rfl,
      hbegins "f(" 'f' rfl, hbegins "j(" 'j' rfl]
    unfold marked?
    by_cases hbracket : bracket = '('
    · subst hbracket
      unfold literalType?
      simp only [List.head?_cons, Option.bind_some]
      split <;> simp_all
    · simp [hbracket]

theorem absent_eq (c : Cursor) : absent c = atSpecial c.rest := by
  unfold absent atSpecial Cursor.atAny
  rw [Cursor.hasMore_eq, Cursor.current?_eq_head?]
  cases c.rest <;> rfl

/-- The literal that the body of a marked one stands for. -/
def readBody (type : LiteralType) (body start : List Char) : Except Fault (Reading Json) :=
  match literalValue type body with
  | .ok v => .ok ⟨v, 0⟩
  | .error reason => .error ⟨reason, start⟩

theorem follows_markedLiteral (hc : c.Valid) (htwo : 2 ≤ c.rest.length) (type : LiteralType) :
    Follows (markedLiteral type) c ((readMarked type (c.rest.drop 2)).map (·.behind 2)) := by
  have hstart := hc.behind htwo
  rw [← Cursor.rest_behind]
  refine .pop_bind hc htwo (.get_bind ?_)
  generalize c.behind 2 = start at hstart
  refine .congr (.demand_bind hstart (y := readToken (· == ')') start.rest >>= fun body =>
    (require ')' [")"] (start.rest.drop body.length) >>= fun _ =>
      (readBody type body.value start.rest).map (·.behind 1)).map (·.behind body.length))
        fun hmore => ?_) ?_
  · have hbody := follows_token hstart (· == ')')
    refine .bind hbody fun body hread => ?_
    have hplace := hstart.behind (hbody.length_le body hread)
    rw [← Cursor.rest_behind]
    refine .require_bind (.take_char hplace rfl) fun rest hrest => ?_
    unfold readBody
    cases literalValue type body.value with
    | ok v => exact .pure v _
    | error reason =>
      -- the walk is behind the literal, but puts the fault down to its start
      exact .failAt (c := (start.behind body.length).behind 1) hstart rfl reason
  · rw [Cursor.hasMore_eq]
    cases hrest : start.rest with
    | nil => rfl
    | cons ch rest =>
      rw [readMarked_of_ne_nil type (List.cons_ne_nil _ _)]
      refine bind_congr_of_ok fun body _ => ?_
      rw [map_bind]
      refine bind_congr_of_ok fun _ _ => ?_
      unfold readBody closeMarked
      cases literalValue type body.value <;> rfl

theorem follows_literal (hc : c.Valid) : Follows literal c (readLiteral c.rest) := by
  unfold literal readLiteral
  refine .get_bind ?_
  rw [mark?_eq hc]
  cases hmark : marked? c.rest with
  | some type =>
    obtain ⟨mark, rest, hrest, -⟩ := marked?_eq_some hmark
    exact follows_markedLiteral hc (by simp [hrest]) type
  | none => exact (follows_token hc isSpecial).map coerce

/-! ## §2. Steps. -/

/-- A step to one child by its key. -/
def readSelector : List Char → Except Fault (Reading Command) :=
  readAfter '.' "." fun text => (readKey text).map fun key => ⟨.select key.value, key.length⟩

/-- The step to the child whose key a literal is. -/
def readSelected (v : Json) (start : List Char) : Except Fault (Reading Command) :=
  match key? v with
  | some key => .ok ⟨.select key, 0⟩
  | none => .error ⟨.keyType v.kind, start⟩

theorem follows_selector (hc : c.Valid) : Follows selector c (readSelector c.rest) := by
  refine .readAfter hc rfl fun rest hrest => .get_bind ?_
  have hstart := hc.behind (one_le_rest hrest)
  generalize c.behind 1 = start at hstart
  refine .congr (.demand_bind hstart (y := readLiteral start.rest >>= fun literal =>
    (readSelected literal.value start.rest).map (·.behind literal.length)) fun _ => ?_) ?_
  · refine .bind (follows_literal hstart) fun literal _ => ?_
    unfold readSelected
    cases key? literal.value with
    | some key => exact .pure _ _
    -- the walk is behind the key, but puts the fault down to its start
    | none => exact .failAt (c := start.behind literal.length) hstart rfl _
  · rw [absent_eq, Cursor.hasMore_eq, Bool.not_not]
    unfold readKey
    cases atSpecial start.rest with
    | true => rfl
    | false =>
      show readLiteral start.rest >>= _ = (readLiteral start.rest >>= _).map _
      rw [map_bind]
      refine bind_congr_of_ok fun literal _ => ?_
      unfold readSelected
      cases key? literal.value <;> rfl

/-- The bound of a range that a literal is. -/
def readBounding (v : Json) (start : List Char) : Except Fault (Reading (Option Int64)) :=
  match v with
  | .int n => .ok ⟨some n, 0⟩
  | v => .error ⟨.boundType v.kind, start⟩

theorem follows_bound (hc : c.Valid) : Follows bound c (readBound c.rest) := by
  refine .get_bind ?_
  rw [absent_eq]
  unfold readBound
  refine .ite (fun _ => .pure none c) fun _ => ?_
  refine .congr (.bind (y := fun literal => readBounding literal.value c.rest)
    (follows_literal hc) fun literal _ => ?_) ?_
  · cases literal.value with
    | int n => exact .pure _ _
    | _ => exact .failAt (c := c.behind literal.length) hc rfl _
  · refine bind_congr_of_ok fun literal _ => ?_
    cases literal.value <;> rfl

/-- The rest of a range, from behind its colon. -/
def readRange (first : Option Int64) (text : List Char) : Except Fault (Reading Command) := do
  let stop ← readBound text
  require ']' ["]"] (text.drop stop.length)
  return ⟨.iterate (.range first stop.value), stop.length + 1⟩

/-- The end of an index, which has to be there. -/
def readIndex (first : Option Int64) (start : List Char) :
    List Char → Except Fault (Reading Command) :=
  readAfter ']' "]" fun _ =>
    match first with
    | some n => .ok ⟨.select (.index n), 0⟩
    | none => .error ⟨.missingIndex, start⟩

/-- The rest of a range or an index, behind its first bound. -/
def readBoundsFrom (first : Option Int64) (start text : List Char) :
    Except Fault (Reading Command) :=
  if text.head? == some ':' then (readRange first (text.drop 1)).map (·.behind 1)
  else readIndex first start text

theorem readBounds_eq (text : List Char) :
    readBounds text = readBound text >>= fun first =>
      (readBoundsFrom first.value text (text.drop first.length)).map (·.behind first.length) := by
  unfold readBounds readBoundsFrom
  refine bind_congr_of_ok fun first _ => ?_
  by_cases hcolon : (text.drop first.length).head? = some ':'
  · rw [if_pos hcolon, if_pos (beq_iff_eq.mpr hcolon)]
    unfold readRange
    rw [List.drop_drop]
    cases readBound (text.drop (first.length + 1)) with
    | error e => rfl
    | ok stop =>
      show require ']' ["]"] (text.drop _) >>= _
        = ((require ']' ["]"] ((text.drop _).drop _) >>= _).map _).map _
      rw [List.drop_drop, Nat.add_comm (first.length + 1)]
      cases require ']' ["]"] (text.drop (stop.length + (first.length + 1))) with
      | error e => rfl
      | ok u =>
        simp [Except.map, Reading.behind]
        omega
  · rw [if_neg hcolon, if_neg fun h => hcolon (beq_iff_eq.mp h)]
    unfold readIndex readAfter
    cases require ']' ["]"] (text.drop first.length) with
    | error e => rfl
    | ok u => cases first.value <;> rfl

theorem follows_boundsOrIndex (hc : c.Valid) :
    Follows boundsOrIndex c (readBounds c.rest) := by
  rw [readBounds_eq]
  refine .get_bind ?_
  have hfirst := follows_bound hc
  refine .bind hfirst fun first hread => .get_bind ?_
  have hplace := hc.behind (hfirst.length_le first hread)
  rw [startsWith_char hplace ':' rfl, ← Cursor.rest_behind]
  refine .ite (fun hcolon => ?_) fun _ => .readAfter hplace rfl fun rest _ => ?_
  · -- a range
    obtain ⟨rest, hrest⟩ := List.head?_eq_some_iff.mp (beq_iff_eq.mp hcolon)
    have hone := one_le_rest hrest
    have hcolon := hplace.behind hone
    have hstop := follows_bound hcolon
    rw [← Cursor.rest_behind]
    refine .pop_bind hplace hone (.congr (.bind hstop fun stop hread =>
      .close (hcolon.behind (hstop.length_le stop hread)) ']' rfl _) ?_)
    refine bind_congr_of_ok fun stop _ => ?_
    rw [Cursor.rest_behind]
    generalize require ']' _ _ = x
    cases x <;> rfl
  · -- an index, which has to be there
    cases first.value with
    | some n => exact .pure _ _
    | none => exact .failAt (c := (c.behind first.length).behind 1) hc rfl _

theorem follows_subscript (hc : c.Valid) : Follows subscript c (readSubscript c.rest) := by
  refine .get_bind (.congr (.demand_bind hc (y := if ['*', ']'].isPrefixOf c.rest then
    .ok ⟨.iterate .all, 2⟩ else readBounds c.rest) fun _ => ?_) ?_)
  · rw [Cursor.startsWith_eq hc, begins_eq (rfl : "*]".toList = ['*', ']'])]
    -- the star with its bracket is taken at once, all else by its bounds
    refine .ite (fun hstar => ?_) fun _ => follows_boundsOrIndex hc
    have htwo : 2 ≤ c.rest.length := (List.isPrefixOf_iff_prefix.mp hstar).length_le
    exact (Follows.pop hc htwo).map fun _ => Command.iterate .all
  · rw [Cursor.hasMore_eq]
    cases hrest : c.rest with
    | nil => rfl
    | cons ch rest =>
      show (if ['*', ']'].isPrefixOf (ch :: rest) then _ else _) = _
      by_cases hstar : ['*', ']'].isPrefixOf (ch :: rest) = true
      · rw [if_pos hstar]
        unfold readSubscript
        rw [if_neg (by simp), if_pos hstar]
        rfl
      · rw [if_neg hstar]
        exact (readSubscript_eq (List.cons_ne_nil _ _) (Bool.eq_false_iff.mpr hstar)).symm

/-- A step in brackets. -/
def readIterator (text : List Char) : Except Fault (Reading Command) :=
  requireAny [".["] text >>= fun _ => (readSubscript (text.drop 2)).map (·.behind 2)

theorem readIterator_cons (rest : List Char) :
    readIterator ('.' :: '[' :: rest) = (readSubscript rest).map (·.behind 2) := by
  have hbegins : begins ('.' :: '[' :: rest) ".[" = true := by
    rw [begins_eq (show ".[".toList = ['.', '['] from rfl)]
    rfl
  unfold readIterator requireAny Cursor.refusal?
  rw [if_neg (List.cons_ne_nil _ _), List.any_cons, hbegins]
  rfl

theorem follows_iterator (hc : c.Valid) : Follows iterator c (readIterator c.rest) := by
  have htake := Follows.take hc (p := ".[") (by decide)
  refine .congr (.bind (y := fun _ => readSubscript (c.rest.drop 2)) htake fun r hread => ?_) ?_
  · have hstart := hc.behind (htake.length_le r hread)
    obtain ⟨u, -, rfl⟩ := map_eq_ok_iff.mp hread
    rw [← Cursor.rest_behind]
    exact follows_subscript hstart
  · unfold readIterator
    cases requireAny [".["] c.rest <;> rfl

/-- What one character at the point tells: a step in brackets, or one by its key. -/
theorem follows_step (hc : c.Valid) {rest : List Char} (hrest : c.rest = '.' :: rest) :
    Follows step c ((readStep rest).map (·.behind 1)) := by
  refine .get_bind ?_
  rw [Cursor.startsWith_eq hc, begins_eq (show ".[".toList = ['.', '['] from rfl), hrest]
  unfold readStep
  by_cases hbracket : rest.head? = some '['
  · obtain ⟨rest, rfl⟩ := List.head?_eq_some_iff.mp hbracket
    have hiterator := follows_iterator hc
    rw [hrest, readIterator_cons] at hiterator
    rw [if_pos (by simp), if_pos hbracket]
    refine hiterator.congr ?_
    show (readSubscript rest).map _ = ((readSubscript rest).map _).map _
    cases readSubscript rest with
    | error e => rfl
    | ok step => simp [Except.map, Reading.behind, ← Nat.add_assoc]
  · have hselector := follows_selector hc
    unfold readSelector at hselector
    rw [hrest, readAfter_cons] at hselector
    rw [if_neg, if_neg hbracket]
    · exact hselector
    · cases rest with
      | nil => simp
      | cons d rest => simpa using Ne.symm (by simpa using hbracket)

/-! ## §3. What stands between items and commands. -/

/-- What is welcome behind an item is one character long. -/
theorem toList_of_afterItem {close : Char} {p : String} (hp : p ∈ afterItem close) :
    ∃ ch, p.toList = [ch] := by
  unfold afterItem at hp
  split at hp
  · exact ⟨')', by rw [List.mem_singleton.mp hp]; rfl⟩
  · rcases List.mem_cons.mp hp with rfl | hp
    · exact ⟨',', rfl⟩
    · exact ⟨close, by rw [List.mem_singleton.mp hp]; simp⟩

theorem width_afterItem (close : Char) : Cursor.width (afterItem close) = 1 := by
  unfold afterItem
  split
  · rfl
  · have hclose : close.toString.length = 1 := String.length_singleton
    rw [Cursor.width, List.map_cons, List.map_cons, hclose]
    rfl

/-- Where there is no comma, only the closing character is welcome. -/
theorem any_afterItem {close d : Char} (hd : d ≠ ',') (ds : List Char) :
    (afterItem close).any (begins (d :: ds)) = (d == close) := by
  have hbegins := fun {p : String} (ch : Char) (hp : p.toList = [ch]) => begins_char ch hp (d :: ds)
  unfold afterItem
  split
  · rename_i hclose
    rw [List.any_cons, hbegins ')' rfl, hclose]
    simp
  · rw [List.any_cons, List.any_cons, hbegins ',' rfl, hbegins close (by simp)]
    simp [hd]

theorem follows_comma (hc : c.Valid) (close : Char) :
    Follows (comma close) c (readComma close c.rest) := by
  unfold comma readComma
  refine .get_bind ?_
  rw [startsWith_char hc ',' rfl]
  by_cases hcomma : c.rest.head? = some ','
  · obtain ⟨rest, hrest⟩ := List.head?_eq_some_iff.mp hcomma
    rw [if_pos (beq_iff_eq.mpr hcomma), if_pos hcomma]
    exact .pop hc (one_le_rest hrest)
  · -- without a comma the bracket has to close, and a comma is welcome only in lists
    rw [if_neg (mt beq_iff_eq.mp hcomma), if_neg hcomma]
    refine .expect_char hc (fun p hp => ?_) (width_afterItem close) fun d ds hrest => ?_
    · obtain ⟨ch, hch⟩ := toList_of_afterItem hp
      rw [hch]
      show 1 < _
      decide
    · rw [hrest]
      refine any_afterItem ?_ ds
      rintro rfl
      exact hcomma (by rw [hrest]; rfl)

/-- A command that has to be the last may be followed by a pipe. -/
theorem demandOpen_bind {α : Type} (hc : c.Valid) {commands : Statement} {f : Unit → Walk α}
    {y : Except Fault (Reading α)} (hf : Follows (f ()) c y) :
    Follows (demandOpen commands >>= f) c (match terminalForm? commands with
      | some form => if c.rest.head? == some '|' then y else .error ⟨.notLast form, c.rest⟩
      | none => y) := by
  unfold demandOpen
  cases terminalForm? commands with
  | none => exact hf
  | some form =>
    rw [← startsWith_char (p := "|") hc '|' rfl, bind_assoc]
    refine .get_bind ?_
    exact .demand_bind hc fun _ => hf

end Walk

end JsonQuery
