/-
  JsonQuery.Proofs.Query.Following
  ────────────────────────────────
  Walks that do what the readers do.

  A walk follows a reader at a cursor (`Follows`) if it comes to what the reader makes of
  the rest of the text: it ends, and either leaves the cursor as many characters further on
  as have been read, which lies in the text, or fails at the place of the fault.  This is
  put together along the walk (`Follows.bind`).  A loop follows a reader that goes on behind
  each round, if every round but the last reads something (`follows_loop`): this is where
  loops are seen to end.
-/
import JsonQuery.Proofs.Query.Cursor
import JsonQuery.Proofs.Query.Locality
import JsonQuery.Proofs.Query.Walk

namespace JsonQuery

open Query Text

variable {α β σ : Type}

namespace Cursor

/-! ## §1. What a walk should come to. -/

/-- The cursor some characters further on. -/
def behind (c : Cursor) (n : Nat) : Cursor := ⟨c.text, c.index + n⟩

/-- What a walk comes to that does what a reader does with the text from the cursor on. -/
def follow (c : Cursor) : Except Fault (Reading α) → Option (Except ParseError (α × Cursor))
  | .ok r => some (.ok (r.value, c.behind r.length))
  | .error f => some (.error (f.toError c.text))

variable {c : Cursor} {n : Nat}

@[simp] theorem rest_behind (c : Cursor) (n : Nat) : (c.behind n).rest = c.rest.drop n := by
  rw [rest, rest, List.drop_drop]
  rfl

theorem behind_behind (c : Cursor) (m n : Nat) : (c.behind m).behind n = c.behind (m + n) := by
  unfold behind
  rw [Nat.add_assoc]

theorem Valid.behind (hc : c.Valid) (hn : n ≤ c.rest.length) : (c.behind n).Valid := by
  refine ⟨hc.held, ?_⟩
  have hplace := hc.index_le
  have hlength := c.length_rest
  show c.index + n ≤ c.text.length
  omega

theorem hasMore_eq (c : Cursor) : c.hasMore = !c.rest.isEmpty := by
  have hlength := c.length_rest
  cases hrest : c.rest with
  | nil =>
    rw [hrest, List.length_nil] at hlength
    exact decide_eq_false (by omega)
  | cons d ds =>
    rw [hrest, List.length_cons] at hlength
    exact decide_eq_true (by omega)

theorem advance_ofNat (hc : c.Valid) (hn : n ≤ c.rest.length) :
    c.advance (.ofNat n) = c.behind n := by
  have hplace := hc.index_le
  have hheld := hc.held.lt
  have hlength := c.length_rest
  have hsmall : n ≤ UInt64.size / 2 := by
    unfold UInt64.size
    omega
  have hnat := toNat_ofNat hsmall
  rw [advance_of_lt (by rw [hnat]; exact add_lt_size hc hsmall), hnat, Nat.min_eq_left (by omega)]
  rfl

theorem toError_rest (hc : c.Valid) (reason : Reason) :
    Fault.toError ⟨reason, c.rest⟩ c.text = c.error reason.kind reason.message := by
  have hlength := c.length_rest
  have hplace := hc.index_le
  have hindex : c.text.length - c.rest.length = c.index := by omega
  show Cursor.errorAt ⟨c.text, c.text.length - c.rest.length⟩ _ _ _ = _
  rw [hindex]
  rfl

end Cursor

namespace Walk

open Cursor (Valid Held begins refusal? toError_rest)

variable {w : Walk α} {f : α → Walk β} {c : Cursor} {x : Except Fault (Reading α)}

/-! ## §2. Walks and readers. -/

theorem outcome_bind_of_ok {a : α} {c' : Cursor} (h : w.outcome c = some (.ok (a, c'))) :
    (w >>= f).outcome c = (f a).outcome c' := by
  show ((w.run c >>= fun r => (f r.1).run r.2 : ExceptT ParseError Option (β × Cursor))).run = _
  rw [ExceptT.run_bind]
  have h : (w.run c).run = _ := h
  rw [h]
  rfl

theorem outcome_bind_of_error {e : ParseError} (h : w.outcome c = some (.error e)) :
    (w >>= f).outcome c = some (.error e) := by
  show ((w.run c >>= fun r => (f r.1).run r.2 : ExceptT ParseError Option (β × Cursor))).run = _
  rw [ExceptT.run_bind]
  have h : (w.run c).run = _ := h
  rw [h]
  rfl

/-- What is decided at the cursor goes on from there. -/
theorem outcome_get_bind (f : Cursor → Walk α) (c : Cursor) :
    (get >>= f).outcome c = (f c).outcome c :=
  rfl

theorem outcome_expect (patterns : List String) (c : Cursor) :
    (expect patterns).outcome c = some ((c.expect patterns).map fun _ => ((), c)) := by
  unfold expect
  rw [outcome_get_bind]
  cases c.expect patterns <;> rfl

/-- From the cursor on, a walk does what a reader does with the rest of the text. -/
structure Follows (w : Walk α) (c : Cursor) (x : Except Fault (Reading α)) : Prop where
  outcome : w.outcome c = c.follow x
  length_le : ∀ r, x = .ok r → r.length ≤ c.rest.length

namespace Follows

theorem pure (a : α) (c : Cursor) : Follows (pure a) c (.ok ⟨a, 0⟩) := by
  refine ⟨rfl, ?_⟩
  rintro r ⟨⟩
  exact Nat.zero_le _

theorem failAt {start : Cursor} (hc : start.Valid) (htext : c.text = start.text) (reason : Reason) :
    Follows (Walk.failAt start.index reason : Walk α) c (.error ⟨reason, start.rest⟩) := by
  refine ⟨?_, by rintro r ⟨⟩⟩
  show _ = some (Except.error (Fault.toError _ c.text))
  rw [htext, toError_rest hc]
  show some (Except.error (Cursor.errorAt c _ _ _)) = _
  unfold Cursor.errorAt Cursor.error Cursor.errorAt
  rw [htext]

theorem fail (hc : c.Valid) (reason : Reason) :
    Follows (Walk.fail reason : Walk α) c (.error ⟨reason, c.rest⟩) := by
  have h : Follows (Walk.failAt c.index reason : Walk α) c _ := failAt hc rfl reason
  exact ⟨h.outcome, h.length_le⟩

theorem bind {y : Reading α → Except Fault (Reading β)} (hw : Follows w c x)
    (hf : ∀ r, x = .ok r → Follows (f r.value) (c.behind r.length) (y r)) :
    Follows (w >>= f) c (x >>= fun r => (y r).map (·.behind r.length)) := by
  cases x with
  | error e => exact ⟨outcome_bind_of_error hw.outcome, by rintro r ⟨⟩⟩
  | ok r =>
    have hf := hf r rfl
    have hlength := hw.length_le r rfl
    constructor
    · rw [outcome_bind_of_ok hw.outcome, hf.outcome]
      show _ = c.follow ((y r).map _)
      cases y r with
      | error e => rfl
      | ok s =>
        show some (Except.ok (s.value, (c.behind r.length).behind s.length)) = _
        rw [Cursor.behind_behind]
        rfl
    · -- the second reading stays in what the first one left of the text
      intro s hs
      obtain ⟨t, ht, rfl⟩ := map_eq_ok_iff.mp hs
      have hrest := hf.length_le t ht
      rw [Cursor.rest_behind, List.length_drop] at hrest
      show r.length + t.length ≤ _
      omega

theorem congr (h : Follows w c x) {y : Except Fault (Reading α)} (hxy : x = y) :
    Follows w c y := hxy ▸ h

theorem get_bind {f : Cursor → Walk β} {y : Except Fault (Reading β)} (h : Follows (f c) c y) :
    Follows (get >>= f) c y := ⟨h.outcome, h.length_le⟩

theorem map (h : Follows w c x) (g : α → β) :
    Follows (w >>= fun a => Pure.pure (g a)) c (x.map fun r => ⟨g r.value, r.length⟩) := by
  refine (h.bind fun r _ => .pure (g r.value) _).congr ?_
  cases x <;> rfl

theorem ite {b : Prop} [Decidable b] {w' : Walk α} {y : Except Fault (Reading α)}
    (h : b → Follows w c x) (h' : ¬b → Follows w' c y) :
    Follows (if b then w else w') c (if b then x else y) := by
  split
  · exact h ‹_›
  · exact h' ‹_›

end Follows

/-! ## §3. Characters and patterns. -/

/-- One of the patterns has to stand at the start of the text. -/
def requireAny (patterns : List String) (text : List Char) : Except Fault (Reading Unit) :=
  match refusal? patterns text with
  | none => .ok ⟨(), 0⟩
  | some reason => .error ⟨reason, text⟩

theorem refusal?_cons {patterns : List String} {ch d : Char} {ds : List Char}
    (hwidth : Cursor.width patterns = 1) (hany : patterns.any (begins (d :: ds)) = (d == ch)) :
    refusal? patterns (d :: ds) = if d = ch then none else some (.instead d.toString patterns) := by
  unfold refusal?
  rw [if_neg (List.cons_ne_nil d ds), hany, hwidth]
  by_cases hd : d = ch
  · rw [if_pos hd, if_pos (beq_iff_eq.mpr hd)]
  · rw [if_neg hd, if_neg fun h => hd (beq_iff_eq.mp h)]
    rfl

theorem requireAny_eq {patterns : List String} (ch : Char) {text : List Char}
    (hwidth : Cursor.width patterns = 1)
    (hany : ∀ d ds, text = d :: ds → patterns.any (begins text) = (d == ch)) :
    requireAny patterns text = (require ch patterns text).map fun _ => ⟨(), 0⟩ := by
  unfold requireAny require
  cases text with
  | nil => rfl
  | cons d ds =>
    rw [refusal?_cons hwidth (hany d ds rfl)]
    by_cases hd : d = ch
    · rw [if_pos hd]
      simp [hd, Except.map]
    · rw [if_neg hd]
      simp [hd, Except.map]

theorem begins_eq {p : String} {d : Char} {ds : List Char} (hp : p.toList = d :: ds)
    (text : List Char) : begins text p = (d :: ds).isPrefixOf text := by
  have hne : p.isEmpty = false := by
    rw [Bool.eq_false_iff]
    intro h
    rw [String.isEmpty_iff.mp h] at hp
    cases hp
  unfold begins
  rw [hne, hp]
  rfl

theorem begins_char {p : String} (ch : Char) (hp : p.toList = [ch]) (text : List Char) :
    begins text p = (text.head? == some ch) := by
  rw [begins_eq hp]
  cases text with
  | nil => rfl
  | cons d ds =>
    show (ch == d && true) = (some d == some ch)
    rw [Bool.and_true]
    exact BEq.comm

theorem startsWith_char (hc : c.Valid) {p : String} (ch : Char) (hp : p.toList = [ch]) :
    c.startsWith p = (c.rest.head? == some ch) := by
  rw [Cursor.startsWith_eq hc, begins_char ch hp]

/-- A reader that is started behind a character that has to be there. -/
def readAfter (ch : Char) (p : String) (read : List Char → Except Fault (Reading α))
    (text : List Char) : Except Fault (Reading α) := do
  require ch [p] text
  (read (text.drop 1)).map (·.behind 1)

theorem readAfter_cons (ch : Char) (p : String) (read : List Char → Except Fault (Reading α))
    (rest : List Char) : readAfter ch p read (ch :: rest) = (read rest).map (·.behind 1) := by
  unfold readAfter
  rw [Grammar.require_cons]
  rfl

theorem readAfter_pos {ch : Char} {p : String} {read : List Char → Except Fault (Reading α)}
    {text : List Char} {r : Reading α} (h : readAfter ch p read text = .ok r) : 0 < r.length := by
  obtain ⟨⟨⟩, -, h⟩ := bind_eq_ok_iff.mp h
  obtain ⟨s, -, rfl⟩ := map_eq_ok_iff.mp h
  exact Nat.lt_of_lt_of_le Nat.one_pos (Nat.le_add_right _ _)

/-- A pattern that stands at the start of a text is no longer than the text. -/
theorem requireAny_singleton {p : String} {text : List Char} {r : Reading Unit}
    (h : requireAny [p] text = .ok r) : r.length = 0 ∧ p.length ≤ text.length := by
  unfold requireAny refusal? at h
  split at h
  · cases h
    refine ⟨rfl, ?_⟩
    rename_i hrefusal
    split at hrefusal
    · cases hrefusal
    split at hrefusal
    · rename_i hbegins
      rw [List.any_cons, List.any_nil, Bool.or_false] at hbegins
      obtain ⟨-, hbegins⟩ := Bool.and_eq_true_iff.mp hbegins
      rw [← String.length_toList]
      exact (List.isPrefixOf_iff_prefix.mp hbegins).length_le
    · cases hrefusal
  · cases h

namespace Follows

theorem pop (hc : c.Valid) {n : Nat} (hn : n ≤ c.rest.length) :
    Follows (Walk.pop (.ofNat n)) c (.ok ⟨(), n⟩) := by
  constructor
  · show some (Except.ok ((), c.advance (.ofNat n))) = _
    rw [Cursor.advance_ofNat hc hn]
    rfl
  · rintro r ⟨⟩
    exact hn

theorem pop_bind (hc : c.Valid) {n : Nat} (hn : n ≤ c.rest.length) {f : Unit → Walk β}
    {y : Except Fault (Reading β)} (hf : Follows (f ()) (c.behind n) y) :
    Follows (Walk.pop (.ofNat n) >>= f) c (y.map (·.behind n)) :=
  (pop hc hn).bind (y := fun _ => y) fun r hr => by cases hr; exact hf

theorem expect (hc : c.Valid) {patterns : List String} (h : ∀ p ∈ patterns, Held p.toList) :
    Follows (Walk.expect patterns) c (requireAny patterns c.rest) := by
  have houtcome := outcome_expect patterns c
  rw [Cursor.expect_eq hc h] at houtcome
  unfold requireAny
  cases hrefusal : refusal? patterns c.rest with
  | none =>
    rw [hrefusal] at houtcome
    refine ⟨houtcome, ?_⟩
    rintro r ⟨⟩
    exact Nat.zero_le _
  | some reason =>
    rw [hrefusal] at houtcome
    refine ⟨houtcome.trans ?_, by rintro r ⟨⟩⟩
    show _ = some (Except.error _)
    rw [toError_rest hc]
    rfl

theorem take (hc : c.Valid) {p : String} (hp : Held p.toList) :
    Follows (Walk.take p) c ((requireAny [p] c.rest).map fun _ => ⟨(), p.length⟩) := by
  refine .congr (.bind (y := fun _ => .ok ⟨(), p.length⟩) (expect hc fun q hq => ?_) ?_) ?_
  · rw [List.mem_singleton.mp hq]
    exact hp
  · intro r hr
    obtain ⟨hzero, hbegins⟩ := requireAny_singleton hr
    rw [hzero]
    exact pop hc hbegins
  · unfold requireAny
    cases refusal? [p] c.rest <;> simp [Except.map, Reading.behind]

/-- An expectation that only one character meets. -/
theorem expect_char (hc : c.Valid) {patterns : List String} {ch : Char}
    (hheld : ∀ p ∈ patterns, Held p.toList) (hwidth : Cursor.width patterns = 1)
    (hany : ∀ d ds, c.rest = d :: ds → patterns.any (begins c.rest) = (d == ch)) :
    Follows (Walk.expect patterns) c ((require ch patterns c.rest).map fun _ => ⟨(), 0⟩) :=
  (expect hc hheld).congr (requireAny_eq ch hwidth hany)

theorem take_char (hc : c.Valid) {p : String} {ch : Char} (hp : p.toList = [ch]) :
    Follows (Walk.take p) c ((require ch [p] c.rest).map fun _ => ⟨(), 1⟩) := by
  have hlength : p.length = 1 := by
    rw [← String.length_toList, hp]
    rfl
  have hheld : Held p.toList := by
    rw [hp]
    show 1 < _
    decide
  refine (take hc hheld).congr ?_
  rw [requireAny_eq ch, hlength]
  · cases require ch [p] c.rest <;> rfl
  · simp [Cursor.width, hlength]
  · intro d ds hrest
    rw [List.any_cons, List.any_nil, Bool.or_false, begins_char ch hp, hrest]
    rfl

/-- A walk that ends with a character that has to be there. -/
theorem close (hc : c.Valid) {p : String} (ch : Char) (hp : p.toList = [ch]) (a : α) :
    Follows (Walk.take p >>= fun _ => Pure.pure a) c
      ((require ch [p] c.rest).map fun _ => ⟨a, 1⟩) := by
  refine ((take_char hc hp).map fun _ => a).congr ?_
  cases require ch [p] c.rest <;> rfl

/-- What goes on behind a character that has to be there. -/
theorem require_bind {a : α} {n : Nat} {patterns : List String} {ch : Char}
    (hw : Follows w c ((require ch patterns c.rest).map fun _ => ⟨a, n⟩))
    {y : Except Fault (Reading β)}
    (hf : ∀ rest, c.rest = ch :: rest → Follows (f a) (c.behind n) y) :
    Follows (w >>= f) c (require ch patterns c.rest >>= fun _ => y.map (·.behind n)) := by
  refine (hw.bind (y := fun _ => y) fun r hr => ?_).congr ?_
  · obtain ⟨⟨⟩, hrequire, rfl⟩ := map_eq_ok_iff.mp hr
    obtain ⟨rest, hrest⟩ := Grammar.require_eq_ok_iff.mp hrequire
    exact hf rest hrest
  · cases require ch patterns c.rest <;> rfl

theorem readAfter (hc : c.Valid) {p : String} {ch : Char} (hp : p.toList = [ch])
    {read : List Char → Except Fault (Reading β)} {f : Unit → Walk β}
    (hf : ∀ rest, c.rest = ch :: rest → Follows (f ()) (c.behind 1) (read (c.behind 1).rest)) :
    Follows (Walk.take p >>= f) c (Walk.readAfter ch p read c.rest) := by
  refine (require_bind (take_char hc hp) hf).congr ?_
  rw [Cursor.rest_behind]
  rfl

theorem demand_bind (hc : c.Valid) {b : Bool} {reason : Reason} {f : Unit → Walk β}
    {y : Except Fault (Reading β)} (hf : b = true → Follows (f ()) c y) :
    Follows (demand b reason >>= f) c (if b then y else .error ⟨reason, c.rest⟩) := by
  unfold demand
  cases b with
  | true => exact hf rfl
  | false =>
    have hfail : Follows (Walk.fail reason : Walk Unit) c _ := fail hc reason
    exact hfail.bind (y := fun _ => y) fun r hr => by cases hr

end Follows

/-- What is made of a value does not touch the characters that stand before it. -/
theorem map_behind (x : Except Fault (Reading α)) (n : Nat) (g : α → β) :
    ((x.map (·.behind n)).map fun r => (⟨g r.value, r.length⟩ : Reading β))
      = x.map fun r => ⟨g r.value, r.length + n⟩ := by
  cases x with
  | error e => rfl
  | ok r => simp [Except.map, Reading.behind, Nat.add_comm]

/-! ## §4. Loops. -/

/-- What a reader does behind what a round has read. -/
def readOn (read : σ → List Char → Except Fault (Reading α)) (text : List Char)
    (r : Reading (Round σ α)) : Except Fault (Reading α) :=
  match r.value with
  | .again s => (read s (text.drop r.length)).map (·.behind r.length)
  | .last a => .ok ⟨a, r.length⟩

theorem follows_loop {loop : σ → Walk α} {round : σ → Walk (Round σ α)}
    {readRound : σ → List Char → Except Fault (Reading (Round σ α))}
    {read : σ → List Char → Except Fault (Reading α)}
    (hloop : ∀ s, loop s = round s >>= carryOn loop)
    (hread : ∀ s text, read s text = readRound s text >>= readOn read text)
    (hprogress : ∀ s text r s', readRound s text = .ok r → r.value = .again s' → 0 < r.length)
    (hc : c.Valid)
    (hround : ∀ s c', c'.Valid → c'.rest.length ≤ c.rest.length →
      Follows (round s) c' (readRound s c'.rest)) (s : σ) :
    Follows (loop s) c (read s c.rest) := by
  induction hn : c.rest.length using Nat.strongRecOn generalizing c s with
  | _ n ih =>
    subst hn
    have hfirst := hround s c hc (Nat.le_refl _)
    rw [hloop, hread]
    refine (hfirst.bind (y := fun r => match r.value with
      | .again s => read s (c.rest.drop r.length)
      | .last a => .ok ⟨a, 0⟩) fun r hr => ?_).congr (bind_congr_of_ok fun r _ => ?_)
    · have hle := hfirst.length_le r hr
      cases hvalue : r.value with
      | last a => exact .pure a _
      | again s' =>
        -- the loop goes on, so that a character has been left behind
        have hpos := hprogress s c.rest r s' hr hvalue
        have hlt : (c.behind r.length).rest.length < c.rest.length := by
          rw [Cursor.rest_behind, List.length_drop]
          omega
        have hlater := ih _ hlt (hc.behind hle)
          (fun s c' hc' hle' => hround s c' hc' (by omega)) s' rfl
        rw [Cursor.rest_behind] at hlater
        exact hlater
    · unfold readOn
      cases r.value <;> rfl

end Walk

end JsonQuery
