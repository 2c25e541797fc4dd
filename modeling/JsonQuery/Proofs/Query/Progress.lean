/-
  JsonQuery.Proofs.Query.Progress
  ───────────────────────────────
  Reading a query text makes progress.

  At every cursor of every text, the walks that begin with a character of their own leave it
  behind (`Advancing`), no walk goes back or past the end of the text (`Steady`), and every
  round of a loop leaves a character behind unless it is the last (`Progressing`).  All this
  is read off the readers that the walks follow, and the lengths of what those read.  So the
  walk over a whole text ends: with what `parse` says, and at the end of the text unless it
  fails (`progress`).
-/
import JsonQuery.Proofs.Query.Faithful
import JsonQuery.Proofs.Query.Sound

namespace JsonQuery

open Query Text Grammar

namespace Walk

open Cursor (Valid Held)

variable {α σ : Type}

/-! ## §1. Progress of one walk. -/

/-- From a cursor on, a walk ends, and unless it fails it leaves the cursor between its place and
the end of the text. -/
structure Steady (w : Walk α) (c : Cursor) : Prop where
  ends : ∃ result, w.outcome c = some result
  forward : ∀ a c', w.outcome c = some (.ok (a, c')) →
    c'.text = c.text ∧ c.index ≤ c'.index ∧ c'.index ≤ c.text.length

/-- It leaves a character behind, too. -/
structure Advancing (w : Walk α) (c : Cursor) : Prop extends Steady w c where
  advances : ∀ a c', w.outcome c = some (.ok (a, c')) → c.index < c'.index

/-- It is a round of a loop, which leaves a character behind unless it is the last. -/
structure Progressing (w : Walk (Round σ α)) (c : Cursor) : Prop extends Steady w c where
  advances : ∀ s c', w.outcome c = some (.ok (.again s, c')) → c.index < c'.index

/-- What a walk that follows a reader comes to without failing. -/
theorem Follows.eq_ok {w : Walk α} {c : Cursor} {x : Except Fault (Reading α)} (h : Follows w c x)
    {a : α} {c' : Cursor} (ha : w.outcome c = some (.ok (a, c'))) :
    ∃ r, x = .ok r ∧ r.value = a ∧ c' = c.behind r.length := by
  rw [h.outcome] at ha
  cases x with
  | error e => cases ha
  | ok r =>
    cases ha
    exact ⟨r, rfl, rfl, rfl⟩

section

variable {c : Cursor} (hc : c.Valid)

include hc

theorem Steady.of_follows {w : Walk α} {x : Except Fault (Reading α)} (h : Follows w c x) :
    Steady w c := by
  constructor
  · rw [h.outcome]
    cases x with
    | ok r => exact ⟨_, rfl⟩
    | error e => exact ⟨_, rfl⟩
  · intro a c' ha
    obtain ⟨r, hr, -, rfl⟩ := h.eq_ok ha
    exact ⟨rfl, Nat.le_add_right _ _, (hc.behind (h.length_le r hr)).index_le⟩

theorem Advancing.of_follows {w : Walk α} {x : Except Fault (Reading α)} (h : Follows w c x)
    (hpos : ∀ r, x = .ok r → 0 < r.length) : Advancing w c := by
  refine ⟨.of_follows hc h, fun a c' ha => ?_⟩
  obtain ⟨r, hr, -, rfl⟩ := h.eq_ok ha
  exact Nat.lt_add_of_pos_right (hpos r hr)

theorem Progressing.of_follows {w : Walk (Round σ α)} {x : Except Fault (Reading (Round σ α))}
    (h : Follows w c x) (hpos : ∀ r s, x = .ok r → r.value = .again s → 0 < r.length) :
    Progressing w c := by
  refine ⟨.of_follows hc h, fun s c' hs => ?_⟩
  obtain ⟨r, hr, hvalue, rfl⟩ := h.eq_ok hs
  exact Nat.lt_add_of_pos_right (hpos r s hr hvalue)

end

/-! ## §2. Progress of all walks. -/

/-- What all walks do from a cursor on. -/
structure Progress (c : Cursor) : Prop where
  group : Advancing Piece.group.walk c
  selector : Advancing selector c
  iterator : Advancing iterator c
  assignment : ∀ target, Advancing (Piece.assignment target).walk c
  call : Advancing Piece.call.walk c
  list : Advancing Piece.list.walk c
  marked : (mark? c).isSome → Advancing literal c
  literal : Steady literal c
  bound : Steady bound c
  item : Steady Piece.item.walk c
  query : ∀ inside s, Steady (Piece.query inside s).walk c
  queryRound : ∀ inside s, Progressing (Piece.queryRound inside s).walk c
  chain : ∀ done, Steady (Piece.chain done).walk c
  chainRound : ∀ done, Progressing (Piece.chainRound done).walk c
  items : ∀ close done, isBlank close = false → Steady (Piece.items close done).walk c
  itemsRound : ∀ close done, Progressing (Piece.itemsRound close done).walk c
  token : ∀ stops, Steady (token stops) c
  tokenRound : ∀ stops done, Progressing (tokenRound stops done) c
  blanks : Steady blanks c
  blankRound : Progressing (blankRound ()) c

theorem readIterator_pos {text : List Char} {r : Reading Command} (h : readIterator text = .ok r) :
    0 < r.length := by
  obtain ⟨-, -, h⟩ := bind_eq_ok_iff.mp h
  obtain ⟨s, -, rfl⟩ := map_eq_ok_iff.mp h
  exact Nat.lt_of_lt_of_le Nat.two_pos (Nat.le_add_right _ _)

theorem readAssignment_pos {target : Command} {text : List Char} {r : Reading Command}
    (h : readAssignment target text = .ok r) : 0 < r.length := by
  unfold readAssignment at h
  split at h
  · exact readAfter_pos h
  · cases h

theorem readLiteral_pos {text : List Char} {r : Reading Json} (hmark : (marked? text).isSome = true)
    (h : readLiteral text = .ok r) : 0 < r.length := by
  obtain ⟨type, hmark⟩ := Option.isSome_iff_exists.mp hmark
  unfold readLiteral at h
  rw [hmark] at h
  obtain ⟨s, -, rfl⟩ := map_eq_ok_iff.mp h
  exact Nat.lt_of_lt_of_le Nat.two_pos (Nat.le_add_right _ _)

theorem progress_of_valid {c : Cursor} (hc : c.Valid) : Progress c := by
  have h := faithful hc
  exact {
    group := .of_follows hc h.group fun _ => readAfter_pos
    selector := .of_follows hc (follows_selector hc) fun _ => readAfter_pos
    iterator := .of_follows hc (follows_iterator hc) fun _ => readIterator_pos
    assignment := fun target => .of_follows hc (h.assignment target) fun _ => readAssignment_pos
    call := .of_follows hc h.call fun _ => readAfter_pos
    list := .of_follows hc h.list fun _ => readAfter_pos
    marked := fun hmark =>
      .of_follows hc (follows_literal hc) fun _ => readLiteral_pos (mark?_eq hc ▸ hmark)
    literal := .of_follows hc (follows_literal hc)
    bound := .of_follows hc (follows_bound hc)
    item := .of_follows hc h.item
    query := fun inside s => .of_follows hc (h.query inside s)
    queryRound := fun inside s => .of_follows hc (h.queryRound inside s) fun _ _ => readRound_again
    chain := fun done => .of_follows hc (h.chain done)
    chainRound := fun done => .of_follows hc (h.chainRound done) fun _ _ => readChainRound_again
    items := fun close done hclose => .of_follows hc (h.items close done hclose)
    itemsRound := fun close done =>
      .of_follows hc (h.itemsRound close done) fun _ _ => readItemsRound_again
    token := fun stops => .of_follows hc (follows_token hc stops)
    tokenRound := fun stops done =>
      .of_follows hc (follows_tokenRound hc stops done) fun _ _ => readTokenRound_again
    blanks := .of_follows hc (follows_blanks hc)
    blankRound := .of_follows hc (follows_blankRound hc) fun _ _ => readBlankRound_again }

/-! ## §3. Whole texts. -/

/-- Outside of groups, statements end with the text. -/
theorem length_of_readStatements {text : List Char} {r : Reading (List Statement)}
    (h : readStatements false text = .ok r) : r.length = text.length := by
  obtain ⟨t, rest, rfl, hlength, -, hrest⟩ := (sound text).statements false r h
  cases rest with
  | nil => rw [← hlength, List.append_nil]
  | cons c rest =>
    have hends : endsStatements false c = true := follows_cons.mp hrest
    cases hends

theorem whole_outcome {text : String} (htext : Held text.toList) :
    whole.outcome (Cursor.ofString text)
      = some ((parse text).map fun q => (q, ⟨text.toList, text.toList.length⟩)) := by
  have hquery := (faithful (Cursor.valid_ofString htext)).query false .start
  rw [readFrom_start] at hquery
  have hrest : (Cursor.ofString text).rest = text.toList := rfl
  rw [hrest] at hquery
  unfold whole parse ofChars
  cases hread : readStatements false text.toList with
  | error e =>
    rw [hread] at hquery
    rw [outcome_bind_of_error hquery.outcome]
    rfl
  | ok r =>
    rw [hread] at hquery
    -- the statements have been read to the end, so that no character is left over
    have hend : (Cursor.ofString text).behind r.length = ⟨text.toList, text.toList.length⟩ := by
      rw [Cursor.behind, length_of_readStatements hread]
      exact congrArg _ (Nat.zero_add _)
    have hover : (⟨text.toList, text.toList.length⟩ : Cursor).current? = none :=
      List.getElem?_eq_none (Nat.le_refl _)
    rw [outcome_bind_of_ok hquery.outcome, hend, outcome_get_bind, hover]
    rfl

/-- Reading makes progress. At every cursor of a text, no walk goes back or past the end, groups,
steps, assignments, calls, lists and literals that are marked with a type leave a character behind,
and so does every round of a loop that is not the last. The walk over the whole text ends with what
is parsed, behind the last character, or with the error. -/
theorem progress {text : String} (htext : Held text.toList) :
    (∀ c : Cursor, c.text = text.toList → c.index ≤ text.toList.length → Progress c)
      ∧ whole.outcome (Cursor.ofString text)
        = some ((parse text).map fun q => (q, ⟨text.toList, text.toList.length⟩)) := by
  refine ⟨fun c hc hindex => progress_of_valid ⟨?_, ?_⟩, whole_outcome htext⟩
  · rwa [hc]
  · rwa [hc]

theorem readItemsRound_comma :
    readItemsRound ')' [] [',', ')'] = .ok ⟨.again [.literal (.str "")], 1⟩ := by
  have hitem : readItem [',', ')'] = .ok ⟨.literal (.str ""), 0⟩ := by
    rw [readItem.eq_def]
    rfl
  show (readNextItem ')' [] [',', ')']).map (·.behind 0) = _
  unfold readNextItem
  rw [hitem]
  rfl

/-- An argument that is read from no character, and the round behind it. -/
theorem progress_comma :
    Held "#f(,)".toList
      ∧ (Piece.itemsRound ')' []).walk.outcome ⟨"#f(,)".toList, 3⟩
        = some (.ok (.again [.literal (.str "")], ⟨"#f(,)".toList, 4⟩))
      ∧ (⟨"#f(,)".toList, 3⟩ : Cursor).index < (⟨"#f(,)".toList, 4⟩ : Cursor).index
      ∧ ∃ result, whole.outcome (Cursor.ofString "#f(,)") = some result := by
  have htext : Held "#f(,)".toList := by decide
  obtain ⟨hplace, hwhole⟩ := progress htext
  have hround : (Piece.itemsRound ')' []).walk.outcome ⟨"#f(,)".toList, 3⟩
      = some (.ok (.again [.literal (.str "")], ⟨"#f(,)".toList, 4⟩)) := by
    have hc : Valid ⟨"#f(,)".toList, 3⟩ := ⟨htext, by decide⟩
    have hfollows := ((faithful hc).itemsRound ')' []).outcome
    have hrest : Cursor.rest ⟨"#f(,)".toList, 3⟩ = [',', ')'] := rfl
    rwa [hrest, readItemsRound_comma] at hfollows
  exact ⟨htext, hround, ((hplace ⟨_, 3⟩ rfl (by decide)).itemsRound ')' []).advances _ _ hround,
    _, hwhole⟩

end Walk

end JsonQuery
