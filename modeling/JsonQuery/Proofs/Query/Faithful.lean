/-
  JsonQuery.Proofs.Query.Faithful
  ───────────────────────────────
  The walks over statements follow their readers.

  These walks call one another without end in sight, so their laws are one induction: each
  law at a cursor comes from those at cursors with less text before them (`Faithful`).  A
  bracket is left behind before a group or its items are walked over, and each loop follows
  its reader round by round.
-/
import JsonQuery.Proofs.Query.Lockstep

namespace JsonQuery

open Query Text Grammar

namespace Walk

open Cursor (Valid)

/-! ## §1. The law of each walk. -/

/-- The building of a list. -/
def readList : List Char → Except Fault (Reading Command) :=
  readAfter '[' "[" fun text =>
    (readItems ']' text).map fun items => ⟨.list items.value, items.length⟩

/-- An assignment to the command before it. -/
def readAssignment (target : Command) (text : List Char) : Except Fault (Reading Command) :=
  match target with
  | .select key =>
    readAfter '=' "=" (fun text =>
      (readAssigned text).map fun value => ⟨.assign key value.value, value.length⟩) text
  | c => .error ⟨.assignTo c.name, text⟩

/-- At a cursor, all walks that call one another follow their readers. -/
structure Faithful (c : Cursor) : Prop where
  query : ∀ inside s, Follows (Piece.query inside s).walk c (readFrom inside s c.rest)
  queryRound : ∀ inside s, Follows (Piece.queryRound inside s).walk c (readRound inside s c.rest)
  group : Follows Piece.group.walk c (readAfter '(' "(" readGroup c.rest)
  assignment : ∀ target,
    Follows (Piece.assignment target).walk c (readAssignment target c.rest)
  chain : ∀ done, Follows (Piece.chain done).walk c (readChain done c.rest)
  chainRound : ∀ done, Follows (Piece.chainRound done).walk c (readChainRound done c.rest)
  call : Follows Piece.call.walk c (readAfter '#' "#" readCall c.rest)
  list : Follows Piece.list.walk c (readList c.rest)
  items : ∀ close done, isBlank close = false →
    Follows (Piece.items close done).walk c (readItemsFrom close done c.rest)
  itemsRound : ∀ close done,
    Follows (Piece.itemsRound close done).walk c (readItemsRound close done c.rest)
  item : Follows Piece.item.walk c (readItem c.rest)

/-! ## §2. Each law from those before less text. -/

section Induction

variable {n : Nat} (ih : ∀ c : Cursor, c.Valid → c.rest.length < n → Faithful c) {c : Cursor}
  (hc : c.Valid) (hn : c.rest.length ≤ n)

include ih hc hn

theorem faithful_behind {k : Nat} (hk : k ≤ c.rest.length) (hpos : 0 < k) :
    Faithful (c.behind k) := by
  refine ih _ (hc.behind hk) ?_
  rw [Cursor.rest_behind, List.length_drop]
  omega

theorem group_of : Follows Piece.group.walk c (readAfter '(' "(" readGroup c.rest) := by
  rw [Piece.walk]
  refine .readAfter hc rfl fun rest hrest => ?_
  have hone := one_le_rest hrest
  have hstart := hc.behind hone
  -- the bracket is behind the cursor, so that the law of queries is known there
  have hquery := (faithful_behind ih hc hn hone Nat.one_pos).query true .start
  rw [readFrom_start] at hquery
  refine .congr (.bind hquery fun statements hread =>
    .close (hstart.behind (hquery.length_le _ hread)) ')' rfl _) ?_
  rw [readGroup.eq_def]
  refine bind_congr_of_ok fun statements _ => ?_
  rw [Cursor.rest_behind]
  generalize require ')' _ _ = x
  cases x <;> rfl

/-- A group, in the place of a value or before a statement. -/
theorem group_map_of {α : Type} (g : List Statement → α) {rest : List Char}
    (hrest : c.rest = '(' :: rest) :
    Follows (Piece.group.walk >>= fun statements => pure (g statements)) c
      ((readGroup rest).map fun statements => ⟨g statements.value, statements.length + 1⟩) := by
  have hgroup := group_of ih hc hn
  rw [hrest, readAfter_cons] at hgroup
  exact (hgroup.map g).congr (map_behind (readGroup rest) 1 g)

theorem item_of : Follows Piece.item.walk c (readItem c.rest) := by
  rw [Piece.walk]
  refine .get_bind ?_
  rw [startsWith_char hc '(' rfl, mark?_eq hc]
  by_cases hopen : c.rest.head? = some '('
  · obtain ⟨rest, hrest⟩ := List.head?_eq_some_iff.mp hopen
    rw [if_pos (beq_iff_eq.mpr hopen), readItem.eq_def, hrest]
    refine (group_map_of ih hc hn (fun ss => Operand.query (ofStatements ss)) hrest).congr ?_
    show _ = readGroup rest >>= _
    cases readGroup rest <;> rfl
  · -- without a bracket, the mark of a type decides
    have hplain : readItem c.rest = readPlainItem (marked? c.rest) c.rest := by
      rw [readItem.eq_def]
      split
      · rename_i hrest
        exact absurd (congrArg List.head? hrest) hopen
      · rfl
    rw [if_neg (mt beq_iff_eq.mp hopen), hplain]
    exact .ite (fun _ => (follows_literal hc).map Operand.literal) fun _ =>
      (follows_token hc isSpecial).map fun token => Operand.literal (coerce (trimBlankEnd token))

theorem assignment_of (target : Command) :
    Follows (Piece.assignment target).walk c (readAssignment target c.rest) := by
  rw [Piece.walk.eq_def]
  dsimp only
  cases target with
  | select key =>
    unfold readAssignment
    dsimp only
    refine .readAfter hc rfl fun rest hrest => .get_bind ?_
    have hone := one_le_rest hrest
    have hvalue := hc.behind hone
    have hshorter : (c.behind 1).rest.length ≤ n := by
      rw [Cursor.rest_behind, List.length_drop]
      omega
    rw [startsWith_char hvalue '(' rfl]
    by_cases hopen : (c.behind 1).rest.head? = some '('
    · obtain ⟨rest', hrest'⟩ := List.head?_eq_some_iff.mp hopen
      rw [if_pos (beq_iff_eq.mpr hopen), readAssigned.eq_def, hrest']
      refine (group_map_of ih hvalue hshorter
        (fun ss => Command.assign key (.query (ofStatements ss))) hrest').congr ?_
      show _ = (readGroup rest' >>= _).map _
      cases readGroup rest' <;> rfl
    · have hplain : readAssigned (c.behind 1).rest = (readLiteral (c.behind 1).rest).map
          fun literal => ⟨.literal literal.value, literal.length⟩ := by
        rw [readAssigned.eq_def]
        split
        · rename_i hrest
          exact absurd (congrArg List.head? hrest) hopen
        · rfl
      rw [if_neg (mt beq_iff_eq.mp hopen), hplain]
      refine ((follows_literal hvalue).map fun v => Command.assign key (.literal v)).congr ?_
      cases readLiteral (c.behind 1).rest <;> rfl
  | _ => exact .fail hc _

theorem list_of : Follows Piece.list.walk c (readList c.rest) := by
  rw [Piece.walk]
  refine .readAfter hc rfl fun rest hrest => ?_
  have hitems := (faithful_behind ih hc hn (one_le_rest hrest) Nat.one_pos).items ']' [] (by decide)
  refine (hitems.map Command.list).congr ?_
  unfold readItemsFrom
  cases readItems ']' (c.behind 1).rest <;> rfl

theorem call_of : Follows Piece.call.walk c (readAfter '#' "#" readCall c.rest) := by
  rw [Piece.walk]
  refine .readAfter hc rfl fun rest hrest => .get_bind ?_
  have hone := one_le_rest hrest
  have hstart := hc.behind hone
  have hname := follows_token hstart endsName
  refine .congr (.bind (y := fun name =>
    if name.value.isEmpty then .error ⟨.missingName, (c.behind 1).rest⟩
    else readAfter '(' "(" (fun text =>
      (readItems ')' text).map fun args => ⟨.mk (String.ofList name.value) args.value, args.length⟩)
        ((c.behind 1).rest.drop name.length))
    hname fun name hread => .ite (fun _ => ?_) fun _ => ?_) ?_
  · exact .failAt (c := (c.behind 1).behind name.length) hstart rfl _
  · have hplace := hstart.behind (hname.length_le name hread)
    rw [← Cursor.rest_behind]
    refine .readAfter hplace rfl fun rest' hrest' => ?_
    -- the brackets and all in them stand behind the mark, before less text than the call
    have hlt : (((c.behind 1).behind name.length).behind 1).rest.length < n := by
      simp only [Cursor.rest_behind, List.length_drop]
      omega
    have hargs := (ih _ (hplace.behind (one_le_rest hrest')) hlt).items ')' [] (by decide)
    refine (hargs.map (Call.mk (String.ofList name.value))).congr ?_
    unfold readItemsFrom
    cases readItems ')' (((c.behind 1).behind name.length).behind 1).rest <;> rfl
  · unfold readCall
    refine bind_congr_of_ok fun name _ => ?_
    by_cases hempty : name.value.isEmpty = true
    · rw [if_pos hempty, if_pos hempty]
      rfl
    · rw [if_neg hempty, if_neg hempty]
      unfold readAfter
      rw [map_bind, List.drop_drop]
      refine bind_congr_of_ok fun _ _ => ?_
      dsimp only
      cases readItems ')' ((c.behind 1).rest.drop (name.length + 1)) with
      | error e => rfl
      | ok args => simp [Except.map, Reading.behind, Nat.add_assoc]

theorem chainRound_of (done : List Call) :
    Follows (Piece.chainRound done).walk c (readChainRound done c.rest) := by
  rw [Piece.walk]
  refine .get_bind ?_
  rw [startsWith_char hc '#' rfl]
  unfold readChainRound
  by_cases hmark : c.rest.head? = some '#'
  · obtain ⟨rest, hrest⟩ := List.head?_eq_some_iff.mp hmark
    have hcall := call_of ih hc hn
    rw [hrest, readAfter_cons] at hcall
    rw [if_pos (beq_iff_eq.mpr hmark), if_pos hmark, hrest]
    refine (hcall.map fun call => Round.again (done ++ [call])).congr ?_
    exact map_behind (readCall rest) 1 fun call => Round.again (done ++ [call])
  · rw [if_neg (mt beq_iff_eq.mp hmark), if_neg hmark]
    exact .pure _ c

theorem chain_of (done : List Call) : Follows (Piece.chain done).walk c (readChain done c.rest) :=
  follows_loop Piece.walk_chain readChain_eq (fun _ _ _ _ => readChainRound_again) hc
    (fun done _ hc' hle => chainRound_of ih hc' (Nat.le_trans hle hn) done) done

theorem nextItem_of (close : Char) (done : List Operand) :
    Follows (Piece.item.walk >>= fun operand => blanks >>= fun _ => comma close >>= fun _ =>
      pure (Round.again (done ++ [operand]) : Round (List Operand) (List Operand))) c
      (readNextItem close done c.rest) := by
  have hitem := item_of ih hc hn
  refine .congr (.bind (y := fun item => readBlanks (c.rest.drop item.length) >>= fun blanks =>
    ((readComma close (c.rest.drop (item.length + blanks.length))).map fun comma =>
      (⟨.again (done ++ [item.value]), comma.length⟩ : Reading (Round (List Operand) _))).map
        (·.behind blanks.length)) hitem fun item hread => ?_) ?_
  · -- the blanks are read behind the item, and the comma behind the blanks
    have hbehind := hc.behind (hitem.length_le item hread)
    have hblanks := follows_blanks hbehind
    rw [← Cursor.rest_behind]
    refine .bind hblanks fun blanks hread' => ?_
    have hplace := hbehind.behind (hblanks.length_le blanks hread')
    have hcomma := follows_comma hplace close
    rw [Cursor.rest_behind, Cursor.rest_behind, List.drop_drop] at hcomma
    exact hcomma.map fun _ => Round.again (done ++ [item.value])
  · refine bind_congr_of_ok fun item _ => ?_
    unfold readBlanks
    dsimp only [ok_bind]
    cases readComma close (c.rest.drop (item.length + blankCount (c.rest.drop item.length))) with
    | error e => rfl
    | ok comma => simp [Except.map, Reading.behind, Nat.add_assoc]

theorem itemsRound_of (close : Char) (done : List Operand) :
    Follows (Piece.itemsRound close done).walk c (readItemsRound close done c.rest) := by
  rw [Piece.walk]
  have hblanks := follows_blanks hc
  refine .congr (.bind (y := fun blanks => readBracket close done (c.rest.drop blanks.length))
    hblanks fun blanks hread => .get_bind ?_) rfl
  have hstart := hc.behind (hblanks.length_le blanks hread)
  have hshorter : (c.behind blanks.length).rest.length ≤ n := by
    rw [Cursor.rest_behind, List.length_drop]
    omega
  -- from here on, the round is at the first character that is not blank
  rw [← Cursor.rest_behind]
  generalize c.behind blanks.length = start at hstart hshorter
  have hclose : close.toString.toList = [close] := by simp
  rw [Cursor.hasMore_eq, startsWith_char hstart close hclose, Bool.not_not]
  have htake := Follows.close hstart close hclose (Round.last done : Round (List Operand) _)
  have hnext := nextItem_of ih hstart hshorter close done
  cases hrest : start.rest with
  | nil =>
    rw [hrest] at htake
    exact htake
  | cons ch rest =>
    rw [hrest] at htake hnext
    unfold readBracket
    by_cases hch : ch = close
    · rw [if_pos (by simp [hch])]
      refine htake.congr ?_
      rw [hch, require_cons]
      simp [Except.map]
    · rw [if_neg (by simp [hch])]
      refine hnext.congr ?_
      dsimp only
      rw [if_neg hch]

theorem items_of (close : Char) (hclose : isBlank close = false) (done : List Operand) :
    Follows (Piece.items close done).walk c (readItemsFrom close done c.rest) :=
  follows_loop (Piece.walk_items close) (readItemsFrom_eq hclose)
    (fun _ _ _ _ => readItemsRound_again) hc
    (fun done _ hc' hle => itemsRound_of ih hc' (Nat.le_trans hle hn) close done) done

theorem list_phrase_of (s : Unfinished) {rest : List Char} (hrest : c.rest = '[' :: rest) :
    Follows (demand s.commands.isEmpty .listInside >>= fun _ => Piece.list.walk >>= fun command =>
      pure (s.push command)) c (readNext s '[' rest) := by
  obtain ⟨statements, commands, afterGroup⟩ := s
  have hlist := list_of ih hc hn
  unfold readList at hlist
  rw [hrest, readAfter_cons] at hlist
  refine .congr (.demand_bind hc fun _ => hlist.map fun command => Unfinished.push _ command) ?_
  rw [hrest]
  cases commands with
  | cons command commands => rfl
  | nil =>
    rw [map_behind]
    show _ = ((readItems ']' rest).map _).map _
    cases readItems ']' rest <;> rfl

theorem assignment_phrase_of (s : Unfinished) {rest : List Char} (hrest : c.rest = '=' :: rest) :
    Follows (match s.commands.getLast? with
      | none => fail .assignToRoot
      | some target => (Piece.assignment target).walk >>= fun command =>
        pure ({ s with commands := s.commands.dropLast }.push command)) c
      (readNext s '=' rest) := by
  obtain ⟨statements, commands, afterGroup⟩ := s
  show Follows _ c ((readPhrase commands '=' rest).map _)
  unfold readPhrase assignTarget
  dsimp only
  cases commands.getLast? with
  | none => exact .congr (.fail hc _) (by rw [hrest]; rfl)
  | some target =>
    refine .congr ((assignment_of ih hc hn target).map fun command => Unfinished.push _ command) ?_
    rw [hrest]
    cases target with
    | select key =>
      unfold readAssignment
      dsimp only
      rw [readAfter_cons, map_behind]
      cases readAssigned rest <;> rfl
    | _ => rfl

theorem phrase_of (s : Unfinished) {ch : Char} {rest : List Char} (hrest : c.rest = ch :: rest) :
    Follows (Piece.phrase s ch).walk c (readNext s ch rest) := by
  rw [Piece.walk.eq_def]
  dsimp only
  split
  -- one case for each character that the walk tells apart
  case h_1 => exact list_phrase_of ih hc hn s hrest
  case h_2 =>
    refine .congr (.demand_bind hc fun _ => group_map_of ih hc hn s.splice hrest) ?_
    unfold readNext
    cases hempty : s.commands.isEmpty <;> simp [hrest, readPhrase, Except.map]
  case h_3 =>
    refine ((follows_step hc hrest).map fun command => s.push command).congr ?_
    rw [map_behind]
    show _ = ((readStep rest).map _).map _
    cases readStep rest <;> rfl
  case h_4 => exact assignment_phrase_of ih hc hn s hrest
  case h_5 =>
    have hchain := chain_of ih hc hn []
    rw [hrest] at hchain
    refine (hchain.map fun calls => s.push (.call calls)).congr ?_
    show ((readCalls rest).map _).map _ = ((readCalls rest).map _).map _
    cases readCalls rest <;> rfl
  case h_6 hlist hgroup hstep hassign hcall =>
    have hother : ¬(decide (ch = '(') && s.commands.isEmpty) = true := fun h =>
      hgroup (of_decide_eq_true (Bool.and_eq_true_iff.mp h).1)
    rw [readNext, if_neg hother, readPhrase.eq_6 _ _ _ hstep hlist hgroup hassign hcall, ← hrest]
    exact .fail hc _

theorem queryRound_of (inside : Bool) (s : Unfinished) :
    Follows (Piece.queryRound inside s).walk c (readRound inside s c.rest) := by
  rw [Piece.walk]
  refine .get_bind ?_
  rw [Cursor.current?_eq_head?]
  cases hrest : c.rest with
  | nil => exact .pure _ c
  | cons ch rest =>
    have hcloses : c.atAny [')'] = decide (ch = ')') := by
      unfold Cursor.atAny
      rw [Cursor.current?_eq_head?, hrest]
      simp
    dsimp only [List.head?_cons]
    rw [hcloses]
    unfold readRound
    refine .ite (fun _ => .pure _ c) fun _ => ?_
    refine .congr (demandOpen_bind hc (y := if ch = '|' then .ok ⟨.again s.pipe, 1⟩
      else (readNext s ch rest).map fun next => ⟨.again next.value, next.length⟩) ?_) ?_
    · refine .ite (fun _ => ?_) fun _ => (phrase_of ih hc hn s hrest).map Round.again
      exact (Follows.pop hc (one_le_rest hrest)).map fun _ => Round.again s.pipe
    · -- a pipe may follow any command
      rw [hrest]
      by_cases hpipe : ch = '|'
      · rw [if_pos hpipe, hpipe]
        cases terminalForm? s.commands <;> rfl
      · rw [if_neg hpipe, if_neg hpipe]
        cases terminalForm? s.commands with
        | none => rfl
        | some form => exact if_neg (by simpa using hpipe)

theorem query_of (inside : Bool) (s : Unfinished) :
    Follows (Piece.query inside s).walk c (readFrom inside s c.rest) :=
  follows_loop (Piece.walk_query inside) (readFrom_eq inside) (fun _ _ _ _ => readRound_again) hc
    (fun s _ hc' hle => queryRound_of ih hc' (Nat.le_trans hle hn) inside s) s

end Induction

/-! ## §3. All laws. -/

/-- Wherever a walk starts in a text, it follows its reader. -/
theorem faithful {c : Cursor} (hc : c.Valid) : Faithful c := by
  induction hn : c.rest.length using Nat.strongRecOn generalizing c with
  | _ n ih =>
    have ih : ∀ c : Cursor, c.Valid → c.rest.length < n → Faithful c :=
      fun c hc hlt => ih _ hlt hc rfl
    have hn : c.rest.length ≤ n := Nat.le_of_eq hn
    exact {
      query := query_of ih hc hn
      queryRound := queryRound_of ih hc hn
      group := group_of ih hc hn
      assignment := assignment_of ih hc hn
      chain := chain_of ih hc hn
      chainRound := chainRound_of ih hc hn
      call := call_of ih hc hn
      list := list_of ih hc hn
      items := fun close done hclose => items_of ih hc hn close hclose done
      itemsRound := itemsRound_of ih hc hn
      item := item_of ih hc hn }

end Walk

end JsonQuery
