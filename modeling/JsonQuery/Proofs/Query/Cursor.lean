/-
  JsonQuery.Proofs.Query.Cursor
  ─────────────────────────────
  Calls on a cursor, and when they mean what they say.

  A call adds words to the place of the cursor.  `ideal` is what it would do if sums had no
  bound.  It does that exactly if no sum leaves the words of 64 bits (`perform_ideal_iff`);
  the place stays in the text in any case, but a sum that wraps around lies before the
  place, so that moving on goes back.

  The cursors of a run are all in a text that a memory can hold (`Valid`); about these
  cursors there is one lemma for each operation, to be used wherever amounts are small.
-/
import JsonQuery.Query.Cursor

namespace JsonQuery

namespace Cursor

/-! ## §1. Cursors in a text. -/

/-- A text that fits a memory addressed by words of 64 bits. No object takes up half of the
addresses, and every character takes up one at least. -/
def Held (text : List Char) : Prop := text.length < UInt64.size / 2

instance (text : List Char) : Decidable (Held text) := inferInstanceAs (Decidable (_ < _))

theorem Held.lt {text : List Char} (h : Held text) : text.length < 9223372036854775808 := h

/-- A cursor whose place is in its text. -/
structure Valid (c : Cursor) : Prop where
  held : Held c.text
  index_le : c.index ≤ c.text.length

theorem valid_ofString {text : String} (h : Held text.toList) : (ofString text).Valid :=
  ⟨h, Nat.zero_le _⟩

variable {c : Cursor} {a : UInt64}

theorem length_rest (c : Cursor) : c.rest.length = c.text.length - c.index := List.length_drop

theorem hasMore_iff : c.hasMore = true ↔ c.index < c.text.length := decide_eq_true_iff

theorem current?_eq_head? (c : Cursor) : c.current? = c.rest.head? := by
  rw [rest, List.head?_drop]
  rfl

/-! ## §2. Sums in words. -/

theorem wordAfter_of_lt (h : c.index + a.toNat < UInt64.size) :
    c.wordAfter a = c.index + a.toNat :=
  Nat.mod_eq_of_lt h

/-- A sum that wraps around lies before the place. -/
theorem wordAfter_of_le (hc : c.Valid) (h : UInt64.size ≤ c.index + a.toNat) :
    c.wordAfter a = c.index + a.toNat - UInt64.size ∧ c.wordAfter a < c.index := by
  have hword := a.toNat_lt
  have hplace := hc.index_le
  have hheld := hc.held.lt
  unfold wordAfter UInt64.size at *
  omega

/-- The place and a word that is no greater than half of them all. -/
theorem add_lt_size (hc : c.Valid) {n : Nat} (hn : n ≤ UInt64.size / 2) :
    c.index + n < UInt64.size := by
  have hplace := hc.index_le
  have hheld := hc.held.lt
  unfold UInt64.size at *
  omega

theorem toNat_ofNat {n : Nat} (hn : n ≤ UInt64.size / 2) : (UInt64.ofNat n).toNat = n :=
  UInt64.toNat_ofNat_of_lt' (by unfold UInt64.size at *; omega)

/-! ## §3. Operations in words. -/

theorem advance_of_lt (h : c.index + a.toNat < UInt64.size) :
    c.advance a = ⟨c.text, min (c.index + a.toNat) c.text.length⟩ := by
  unfold advance
  rw [wordAfter_of_lt h]

theorem Valid.advance (hc : c.Valid) (a : UInt64) : (c.advance a).Valid :=
  ⟨hc.held, Nat.min_le_right _ _⟩

theorem peekChar?_of_lt (h : c.index + a.toNat < UInt64.size) :
    c.peekChar? a = c.rest[a.toNat]? := by
  unfold peekChar? rest
  rw [wordAfter_of_lt h, List.getElem?_drop]

theorem peek_of_lt (hc : c.Valid) (h : c.hasMore = true → c.index + a.toNat < UInt64.size) :
    c.peek a = some (if c.hasMore then
      some (String.ofList (c.rest.take (min a.toNat (c.text.length - c.index)))) else none) := by
  unfold peek
  by_cases hmore : c.hasMore = true
  · have hplace := hc.index_le
    have hstop : c.index ≤ min (c.index + a.toNat) c.text.length := by omega
    have hwidth : min (c.index + a.toNat) c.text.length - c.index
        = min a.toNat (c.text.length - c.index) := by omega
    rw [if_pos hmore, if_pos hmore, wordAfter_of_lt (h hmore), cut?, if_pos hstop, hwidth]
    rfl
  · rw [if_neg hmore, if_neg hmore]

theorem peek_of_le (hc : c.Valid) (hmore : c.hasMore = true)
    (h : UInt64.size ≤ c.index + a.toNat) : c.peek a = none := by
  obtain ⟨-, hlt⟩ := wordAfter_of_le hc h
  have hstop : ¬ c.index ≤ min (c.wordAfter a) c.text.length := by omega
  rw [peek, if_pos hmore, cut?, if_neg hstop]
  rfl

/-- A comparison character by character, from the place and an offset on. It ends at the end of
the text, before the offsets wrap around. -/
theorem all_peekChar? (hc : c.Valid) (pattern : List Char) (k : Nat)
    (hk : c.index + k ≤ c.text.length) :
    (pattern.zipIdx k).all (fun (expected, offset) => c.peekChar? (.ofNat offset) == some expected)
      = pattern.isPrefixOf (c.text.drop (c.index + k)) := by
  induction pattern generalizing k with
  | nil => rfl
  | cons expected pattern ih =>
    have hheld := hc.held.lt
    have hsmall : k ≤ UInt64.size / 2 := by
      unfold UInt64.size
      omega
    have hpeek : c.peekChar? (.ofNat k) = c.text[c.index + k]? := by
      rw [peekChar?_of_lt (by rw [toNat_ofNat hsmall]; exact add_lt_size hc hsmall),
        toNat_ofNat hsmall, rest, List.getElem?_drop]
    rw [List.zipIdx_cons, List.all_cons]
    show (c.peekChar? (.ofNat k) == some expected && _) = _
    rw [hpeek]
    by_cases hlt : c.index + k < c.text.length
    · rw [ih (k + 1) hlt, List.drop_eq_getElem_cons hlt, List.isPrefixOf_cons_cons,
        List.getElem?_eq_getElem hlt, Bool.beq_comm, ← Nat.add_assoc]
      rfl
    · -- at the end of the text the next character is missing on both sides
      rw [List.getElem?_eq_none (by omega), List.drop_eq_nil_of_le (by omega)]
      rfl

/-- Whether a text begins with the pattern, which must not be empty. -/
def begins (text : List Char) (pattern : String) : Bool :=
  !pattern.isEmpty && pattern.toList.isPrefixOf text

theorem startsWith_eq (hc : c.Valid) (pattern : String) :
    c.startsWith pattern = begins c.rest pattern := by
  unfold startsWith begins
  rw [all_peekChar? hc pattern.toList 0 hc.index_le]
  by_cases hmore : c.index < c.text.length
  · rw [hasMore_iff.mpr hmore]
    rfl
  · -- at the end of the text nothing begins but the empty pattern
    have hmore : c.hasMore = false := decide_eq_false hmore
    have hrest : c.rest = [] := List.drop_eq_nil_of_le (by omega)
    rw [hmore, hrest]
    cases hpattern : pattern.toList with
    | nil =>
      rw [String.toList_eq_nil_iff.mp hpattern]
      rfl
    | cons d ds => exact (Bool.and_false _).symm

theorem startsWithAny_eq (hc : c.Valid) (patterns : List String) :
    c.startsWithAny patterns = patterns.any (begins c.rest) :=
  congrArg patterns.any (funext (startsWith_eq hc))

theorem width_le {patterns : List String} (h : ∀ p ∈ patterns, Held p.toList) :
    width patterns ≤ UInt64.size / 2 := by
  unfold width
  split
  · decide
  · refine List.foldlRecOn (motive := (· ≤ UInt64.size / 2)) _ max (Nat.zero_le _) ?_
    intro n hn k hk
    obtain ⟨p, hp, rfl⟩ := List.mem_map.mp hk
    have hheld : p.toList.length < UInt64.size / 2 := h p hp
    rw [String.length_toList] at hheld
    exact Nat.max_le.mpr ⟨hn, Nat.le_of_lt hheld⟩

/-- Why a text does not do where one of the patterns has to stand. -/
def refusal? (patterns : List String) (text : List Char) : Option Reason :=
  if text = [] then some (.missing patterns)
  else if patterns.any (begins text) then none
  else some (.instead (String.ofList (text.take (width patterns))) patterns)

/-- An expectation that is met, or the error at the place that tells why it is not. -/
def verdict (c : Cursor) (refusal : Option Reason) : Except ParseError Unit :=
  match refusal with
  | none => .ok ()
  | some reason => .error (c.error reason.kind reason.message)

theorem expect_eq (hc : c.Valid) {patterns : List String} (h : ∀ p ∈ patterns, Held p.toList) :
    c.expect patterns = c.verdict (refusal? patterns c.rest) := by
  unfold expect refusal?
  rw [startsWithAny_eq hc]
  by_cases hmore : c.hasMore = true
  · have hlength : c.rest.length = c.text.length - c.index := c.length_rest
    have hplace := hasMore_iff.mp hmore
    have hrest : c.rest ≠ [] := List.length_pos_iff.mp (by omega)
    have hsum := add_lt_size hc (width_le h)
    -- what is found instead is shown in the width of the longest pattern
    have hfound : (c.peek? (.ofNat (width patterns))).getD ""
        = String.ofList (c.rest.take (width patterns)) := by
      rw [peek?, peek_of_lt hc (fun _ => by rwa [toNat_ofNat (width_le h)]), if_pos hmore,
        toNat_ofNat (width_le h), ← hlength]
      show String.ofList (c.rest.take (min _ _)) = _
      rw [← List.take_eq_take_min]
    rw [hmore, hfound, if_neg hrest]
    cases patterns.any (begins c.rest) <;> rfl
  · have hplace : ¬ c.index < c.text.length := fun h => hmore (hasMore_iff.mpr h)
    have hrest : c.rest = [] := List.drop_eq_nil_of_le (by omega)
    have hmore : c.hasMore = false := Bool.eq_false_iff.mpr hmore
    rw [hmore, if_pos hrest]
    rfl

/-! ## §4. Calls. -/

/-- The calls that a reader makes on a cursor. -/
inductive Op where
  | pop (amount : UInt64)
  | next
  | peek (length : UInt64)
  | peekChar (offset : UInt64)
  | startsWith (pattern : String)
  | expect (patterns : List String)

namespace Op

/-- The patterns that a call compares with. -/
def patterns : Op → List String
  | .startsWith pattern => [pattern]
  | .expect patterns => patterns
  | _ => []

/-- The word that a call is given to add up. -/
def word? : Op → Option UInt64
  | .pop a | .peek a | .peekChar a => some a
  | _ => none

/-- A call that can be made: its patterns are in memory as the text is. -/
def Held (op : Op) : Prop := ∀ p ∈ op.patterns, Cursor.Held p.toList

end Op

/-- What a call answers. -/
inductive Answer where
  | moved
  | char (c : Option Char)
  | chars (s : Option String)
  | found (b : Bool)
  | checked (x : Except ParseError Unit)

/-- The answer to a call and the cursor behind it, unless the call breaks off. -/
def perform (c : Cursor) : Op → Option (Answer × Cursor)
  | .pop a => some (.moved, c.advance a)
  | .next => some (.char c.next.1, c.next.2)
  | .peek n => (c.peek n).map fun s => (.chars s, c)
  | .peekChar k => some (.char (c.peekChar? k), c)
  | .startsWith pattern => some (.found (c.startsWith pattern), c)
  | .expect patterns => some (.checked (c.expect patterns), c)

/-- The cursor behind calls made one after another. -/
def run (c : Cursor) (ops : List Op) : Option Cursor :=
  ops.foldlM (fun c op => (c.perform op).map Prod.snd) c

/-- What a call does in exact integers. -/
def ideal (c : Cursor) : Op → Answer × Cursor
  | .pop a => (.moved, ⟨c.text, min (c.index + a.toNat) c.text.length⟩)
  | .next => (.char c.text[c.index]?, ⟨c.text, min (c.index + 1) c.text.length⟩)
  | .peek n =>
    (.chars (if c.index < c.text.length then
      some (String.ofList (c.rest.take (min n.toNat (c.text.length - c.index)))) else none), c)
  | .peekChar k => (.char c.rest[k.toNat]?, c)
  | .startsWith pattern => (.found (begins c.rest pattern), c)
  | .expect patterns => (.checked (c.verdict (refusal? patterns c.rest)), c)

/-- The places that a comparison looks at. It may end before the last of them. -/
def compared (c : Cursor) (pattern : String) : List Nat :=
  (List.range pattern.length).map (c.index + ·)

/-- The sums that a call adds up. -/
def sums (c : Cursor) : Op → List Nat
  | .pop a | .peekChar a => [c.index + a.toNat]
  | .next => [c.index + 1]
  | .peek n => if c.hasMore then [c.index + n.toNat] else []
  | .startsWith pattern => c.compared pattern
  | .expect patterns => patterns.flatMap c.compared ++ [c.index + width patterns]

/-- No sum of a call leaves the words of 64 bits. -/
def Fits (c : Cursor) (op : Op) : Prop := ∀ n ∈ c.sums op, n < UInt64.size

instance (c : Cursor) (op : Op) : Decidable (c.Fits op) :=
  inferInstanceAs (Decidable (∀ n ∈ c.sums op, n < UInt64.size))

/-! ## §5. Calls whose sums fit. -/

theorem compared_lt (hc : c.Valid) {pattern : String} (hp : Held pattern.toList) :
    ∀ n ∈ c.compared pattern, n < UInt64.size := by
  intro n hn
  obtain ⟨i, hi, rfl⟩ := List.mem_map.mp hn
  have hlt : i < pattern.toList.length := by
    rw [String.length_toList]
    exact List.mem_range.mp hi
  exact add_lt_size hc (Nat.le_of_lt (Nat.lt_trans hlt hp))

theorem fits_peek_iff :
    c.Fits (.peek a) ↔ (c.index < c.text.length → c.index + a.toNat < UInt64.size) := by
  show (∀ n ∈ if c.hasMore then [c.index + a.toNat] else [], n < UInt64.size) ↔ _
  by_cases hmore : c.hasMore = true
  · rw [if_pos hmore, List.forall_mem_singleton]
    exact ⟨fun h _ => h, fun h => h (hasMore_iff.mp hmore)⟩
  · rw [if_neg hmore]
    exact iff_of_true (List.forall_mem_nil _) fun h => absurd (hasMore_iff.mpr h) hmore

/-- Only a sum with a given word can leave the words. -/
theorem fits_or_wraps (hc : c.Valid) {op : Op} (hop : op.Held) :
    c.Fits op ∨ ∃ a, op.word? = some a ∧ UInt64.size ≤ c.index + a.toNat := by
  have hword : ∀ a : UInt64, c.index + a.toNat < UInt64.size ∨ UInt64.size ≤ c.index + a.toNat :=
    fun a => Nat.lt_or_ge _ _
  cases op with
  | pop a => exact (hword a).imp (fun h => List.forall_mem_singleton.mpr h) fun h => ⟨a, rfl, h⟩
  | peekChar a =>
    exact (hword a).imp (fun h => List.forall_mem_singleton.mpr h) fun h => ⟨a, rfl, h⟩
  | peek a => exact (hword a).imp (fun h => fits_peek_iff.mpr fun _ => h) fun h => ⟨a, rfl, h⟩
  | next => exact .inl (List.forall_mem_singleton.mpr (add_lt_size hc (by decide)))
  | startsWith pattern => exact .inl (compared_lt hc (hop pattern List.mem_cons_self))
  -- the sums of the comparisons, and the one for what is shown when all of them fail
  | expect patterns =>
    refine .inl fun n hn => ?_
    rcases List.mem_append.mp hn with hn | hn
    · obtain ⟨p, hp, hn⟩ := List.mem_flatMap.mp hn
      exact compared_lt hc (hop p hp) n hn
    · rw [List.mem_singleton.mp hn]
      exact add_lt_size hc (width_le hop)

/-- A call whose sums fit does what it does in exact integers. -/
theorem perform_of_fits (hc : c.Valid) {op : Op} (hop : op.Held) (h : c.Fits op) :
    c.perform op = some (c.ideal op) := by
  cases op with
  | pop a =>
    have ha : c.index + a.toNat < UInt64.size := h _ List.mem_cons_self
    rw [perform, ideal, advance_of_lt ha]
  | next =>
    have ha : c.index + (1 : UInt64).toNat < UInt64.size := h _ List.mem_cons_self
    rw [perform, ideal, Cursor.next, advance_of_lt ha]
    rfl
  | peek n =>
    have hn := fits_peek_iff.mp h
    rw [perform, ideal, peek_of_lt hc fun hmore => hn (hasMore_iff.mp hmore)]
    simp only [hasMore_iff]
    rfl
  | peekChar k =>
    have hk : c.index + k.toNat < UInt64.size := h _ List.mem_cons_self
    rw [perform, ideal, peekChar?_of_lt hk]
  | startsWith pattern => rw [perform, ideal, startsWith_eq hc]
  | expect patterns => exact congrArg (fun x => some (Answer.checked x, c)) (expect_eq hc hop)

theorem le_index_ideal (hc : c.Valid) (op : Op) :
    c.index ≤ (c.ideal op).2.index ∧ (c.ideal op).2.index ≤ c.text.length := by
  have hplace := hc.index_le
  cases op with
  | pop a => exact ⟨Nat.le_min.mpr ⟨Nat.le_add_right _ _, hplace⟩, Nat.min_le_right _ _⟩
  | next => exact ⟨Nat.le_min.mpr ⟨Nat.le_add_right _ _, hplace⟩, Nat.min_le_right _ _⟩
  | peek n => exact ⟨Nat.le_refl _, hplace⟩
  | peekChar k => exact ⟨Nat.le_refl _, hplace⟩
  | startsWith pattern => exact ⟨Nat.le_refl _, hplace⟩
  | expect patterns => exact ⟨Nat.le_refl _, hplace⟩

/-! ## §6. Sums that wrap around. -/

/-- A place that a sum wraps around to lies before the cursor. Moving on goes back to it, and the
character there is shown; the characters up to it cannot be. -/
theorem perform_of_wraps (hc : c.Valid) (h : UInt64.size ≤ c.index + a.toNat) :
    c.perform (.pop a) = some (.moved, ⟨c.text, c.index + a.toNat - UInt64.size⟩)
      ∧ c.index + a.toNat - UInt64.size < c.index
      ∧ c.perform (.peekChar a) = some (.char c.text[c.index + a.toNat - UInt64.size]?, c)
      ∧ (c.index < c.text.length → c.perform (.peek a) = none) := by
  obtain ⟨hword, hlt⟩ := wordAfter_of_le hc h
  have hplace := hc.index_le
  refine ⟨?_, hword ▸ hlt, ?_, fun hmore => ?_⟩
  · rw [perform, Cursor.advance, Nat.min_eq_left (by omega), hword]
  · rw [perform, peekChar?, hword]
  · rw [perform, peek_of_le hc (hasMore_iff.mpr hmore) h]
    rfl

theorem perform_ne_ideal (hc : c.Valid) {op : Op} (hop : op.Held) (h : ¬ c.Fits op) :
    c.perform op ≠ some (c.ideal op) := by
  obtain ⟨a, ha, hwraps⟩ := (fits_or_wraps hc hop).resolve_left h
  obtain ⟨hpop, hlt, hchar, hpeek⟩ := perform_of_wraps hc hwraps
  have hplace := hc.index_le
  cases op with
  | pop b =>
    cases ha
    rw [hpop]
    intro heq
    injection heq with heq
    -- the cursor has moved back, and not to the end
    have hindex : c.index + a.toNat - UInt64.size = min (c.index + a.toNat) c.text.length :=
      congrArg (fun r => r.2.index) heq
    omega
  | peekChar b =>
    cases ha
    rw [hchar]
    intro heq
    injection heq with heq
    injection heq with heq
    injection heq with heq
    -- a character before the cursor is shown, where none is that far ahead
    have hbehind : c.rest[a.toNat]? = none := by
      rw [rest, List.getElem?_drop]
      exact List.getElem?_eq_none (by have := hc.held.lt; unfold UInt64.size at hwraps; omega)
    rw [hbehind, List.getElem?_eq_getElem (by omega)] at heq
    cases heq
  | peek b =>
    cases ha
    have hmore : c.index < c.text.length :=
      Decidable.byContradiction fun hend => h (fits_peek_iff.mpr fun hmore => absurd hmore hend)
    -- the slice would end before it begins, so there is no answer
    rw [hpeek hmore]
    rintro ⟨⟩
  | next => cases ha
  | startsWith pattern => cases ha
  | expect patterns => cases ha

/-! ## §7. Runs. -/

theorem Valid.perform (hc : c.Valid) {op : Op} {r : Answer × Cursor} (h : c.perform op = some r) :
    r.2.Valid ∧ r.2.text = c.text := by
  cases op with
  | peek n =>
    obtain ⟨s, -, rfl⟩ := Option.map_eq_some_iff.mp h
    exact ⟨hc, rfl⟩
  | pop a =>
    cases h
    exact ⟨hc.advance a, rfl⟩
  | next =>
    cases h
    exact ⟨hc.advance 1, rfl⟩
  | peekChar k =>
    cases h
    exact ⟨hc, rfl⟩
  | startsWith pattern =>
    cases h
    exact ⟨hc, rfl⟩
  | expect patterns =>
    cases h
    exact ⟨hc, rfl⟩

theorem Valid.run (hc : c.Valid) {ops : List Op} {c' : Cursor} (h : c.run ops = some c') :
    c'.Valid ∧ c'.text = c.text := by
  induction ops generalizing c with
  | nil =>
    cases h
    exact ⟨hc, rfl⟩
  | cons op ops ih =>
    obtain ⟨d, hd, h⟩ := Option.bind_eq_some_iff.mp h
    obtain ⟨r, hr, rfl⟩ := Option.map_eq_some_iff.mp hd
    obtain ⟨hvalid, htext⟩ := hc.perform hr
    obtain ⟨hvalid', htext'⟩ := ih hvalid h
    exact ⟨hvalid', htext'.trans htext⟩

/-- Whatever calls have been made, the cursor is in its text. The next call does what it does in
exact integers, and does not move back, exactly if none of its sums leaves the words of 64 bits.
Steps to the next character, comparisons and expectations are such calls; the others are unless the
sum with the given word is too great. Then moving on goes back, a character behind the cursor is
shown as one ahead, and the characters up to there cannot be shown. -/
theorem perform_ideal_iff {text : String} (htext : Held text.toList) {ops : List Op} {c : Cursor}
    (hrun : (ofString text).run ops = some c) {op : Op} (hop : op.Held) :
    c.text = text.toList ∧ c.index ≤ c.text.length
      ∧ (c.perform op = some (c.ideal op) ↔ c.Fits op)
      ∧ c.index ≤ (c.ideal op).2.index ∧ (c.ideal op).2.index ≤ c.text.length
      ∧ (c.Fits op ∨ ∃ a, op.word? = some a ∧ UInt64.size ≤ c.index + a.toNat)
      ∧ ∀ a : UInt64, UInt64.size ≤ c.index + a.toNat →
          c.perform (.pop a) = some (.moved, ⟨c.text, c.index + a.toNat - UInt64.size⟩)
          ∧ c.index + a.toNat - UInt64.size < c.index
          ∧ c.perform (.peekChar a) = some (.char c.text[c.index + a.toNat - UInt64.size]?, c)
          ∧ (c.index < c.text.length → c.perform (.peek a) = none) := by
  obtain ⟨hc, hctext⟩ := (valid_ofString htext).run hrun
  obtain ⟨hforward, hend⟩ := le_index_ideal hc op
  refine ⟨hctext, hc.index_le, ⟨fun h => ?_, perform_of_fits hc hop⟩, hforward, hend,
    fits_or_wraps hc hop, fun a => perform_of_wraps hc⟩
  exact Decidable.byContradiction fun hfits => perform_ne_ideal hc hop hfits h

theorem run_pop_one : (ofString "ab").run [.pop 1] = some ⟨['a', 'b'], 1⟩ := rfl

/-- The greatest word, added up behind the first character. -/
theorem perform_ideal_iff_wraps :
    Held "ab".toList ∧ (ofString "ab").run [.pop 1] = some ⟨['a', 'b'], 1⟩
      ∧ (perform ⟨['a', 'b'], 1⟩ .next = some (ideal ⟨['a', 'b'], 1⟩ .next))
      ∧ ¬ Fits ⟨['a', 'b'], 1⟩ (.pop 18446744073709551615)
      ∧ perform ⟨['a', 'b'], 1⟩ (.pop 18446744073709551615) = some (.moved, ⟨['a', 'b'], 0⟩) := by
  have htext : Held "ab".toList := by decide
  have hheld : ∀ op : Op, op.patterns = [] → op.Held := fun op h p hp => by
    rw [h] at hp
    cases hp
  have hnext := perform_ideal_iff htext run_pop_one (hheld .next rfl)
  have hpop := perform_ideal_iff htext run_pop_one (hheld (.pop 18446744073709551615) rfl)
  refine ⟨htext, run_pop_one, hnext.2.2.1.mpr (by decide), by decide, ?_⟩
  exact (hpop.2.2.2.2.2.2 18446744073709551615 (by decide)).1

/-- Not all calls do what they do in exact integers. -/
theorem not_forall_ideal :
    ¬∀ (text : String) (ops : List Op) (c : Cursor) (op : Op), Held text.toList →
      (ofString text).run ops = some c → op.Held →
        c.Fits op ∧ c.perform op = some (c.ideal op) := by
  intro h
  have hpop := (h "ab" [.pop 1] _ (.pop 18446744073709551615) (by decide) run_pop_one
    (List.forall_mem_nil _)).2
  -- the cursor is back at the beginning instead of at the end
  injection hpop with hpop
  have hindex : 0 = 2 := congrArg (fun r => r.2.index) hpop
  cases hindex

end Cursor

end JsonQuery
