/-
  JsonQuery.Proofs.Eval.Address
  ─────────────────────────────
  Every location of a document has a text.

  A path is written step by step: a field as a key that is marked as a string, so that
  its name may be anything, and an item by its position in brackets.  The text reads the
  value at the path; with an assignment behind it, it replaces that value and nothing
  else (`Query.runText_address`).

  The positions in a path have to be words.  No array in memory is longer.
-/
import JsonQuery.Proofs.Eval.Nesting
import JsonQuery.Proofs.Eval.Lens
import JsonQuery.Proofs.Query.Canonical

namespace JsonQuery

open Grammar Query

/-! ## §1. The text of a path. -/

/-- A string as it is written in a literal that is marked as one. -/
def Query.escaped (s : String) : String := String.ofList (escape (· == ')') s.toList)

namespace Step

/-- A step as a query may write it whatever it is: a field by its marked name, an item by its
position. -/
def address : Step → String
  | .field name => ".s(" ++ escaped name ++ ")"
  | .item i => ".[" ++ toString i ++ "]"

/-- The key that addresses a step. -/
def key : Step → Key
  | .field name => .name name
  | .item i => .index (Int64.ofNat i)

/-- Whether a position is a word; names are any. -/
def IsWord : Step → Prop
  | .field _ => True
  | .item i => (i : Int) ≤ Int64.maxValue.toInt

theorem toInt_ofNat {i : Nat} (h : (item i).IsWord) : (Int64.ofNat i).toInt = i := by
  have hmax : Int64.maxValue.toInt = 9223372036854775807 := rfl
  unfold IsWord at h
  exact Int64.toInt_ofNat_of_lt (by omega)

end Step

namespace Path

/-- The text of a path. -/
def address (p : Path) : String := String.join (p.map Step.address)

/-- The selectors that go along a path. -/
def selectors (p : Path) : Statement := p.map fun step => .select step.key

theorem selectors_not_terminal (p : Path) : ∀ c ∈ p.selectors, c.isTerminal = false := by
  intro c hc
  obtain ⟨step, -, rfl⟩ := List.mem_map.mp hc
  rfl

theorem toList_address (p : Path) : p.address.toList = p.flatMap fun s => s.address.toList := by
  rw [address, String.toList_join, List.flatMap_map]

end Path

/-! ## §2. Paths parse. -/

namespace Grammar

theorem not_special_of_isDigit {c : Char} (h : c.isDigit = true) : isSpecial c = false := by
  cases hs : isSpecial c with
  | false => rfl
  | true =>
    have hdigit : specials.all (! ·.isDigit) = true := by decide
    have hc := List.all_eq_true.mp hdigit c (List.contains_iff_mem.mp hs)
    rw [h] at hc
    cases hc

/-- Digits are a token that stands for itself. -/
theorem token_digits {s : List Char} (h : ∀ c ∈ s, c.isDigit = true) : Token isSpecial s s := by
  induction s with
  | nil => exact .nil
  | cons c s ih =>
    obtain ⟨hc, hs⟩ := List.forall_mem_cons.mp h
    refine .plain ?_ (not_special_of_isDigit hc) (ih hs)
    rintro rfl
    cases hc

/-- A position is read back from its digits. -/
theorem literal_item {i : Nat} (h : (JsonQuery.Step.item i).IsWord) :
    Literal (digits i) (.int (Int64.ofNat i)) := by
  have hdigits : (toString (Int64.ofNat i).toInt).toList = digits i := by
    rw [JsonQuery.Step.toInt_ofNat h, toList_toString, if_neg (by omega), Int.natAbs_natCast]
  have hread := readInt64_toString (Int64.ofNat i)
  rw [hdigits] at hread
  have hvalue : coerce (digits i) = .int (Int64.ofNat i) := by
    unfold coerce
    rw [hread]
  exact hvalue ▸ .token (token_digits fun _ hc => isDigit_of_mem_digits hc)

theorem present_digits (i : Nat) : Present (digits i) := by
  obtain ⟨c, hc, -⟩ := digits_head? i
  obtain ⟨rest, hrest⟩ := List.head?_eq_some_iff.mp hc
  have hdigit := isDigit_of_mem_digits (List.mem_of_mem_head? hc)
  exact ⟨c, rest, hrest, not_special_of_isDigit hdigit⟩

/-- The text of a step is a step to its key. -/
theorem step_address {s : JsonQuery.Step} (h : s.IsWord) :
    Step s.address.toList (.select s.key) := by
  cases s with
  | field name =>
    have hstep : Step ('.' :: keyChars (.name name)) (.select (.name name)) := step_key trivial
    simpa [JsonQuery.Step.address, JsonQuery.Step.key, escaped, keyChars, markedChars] using hstep
  | item i =>
    have hstep := Step.index (present_digits i) (literal_item h)
    simpa [JsonQuery.Step.address, JsonQuery.Step.key, Nat.toString_eq_ofList_toDigits, digits]
      using hstep

/-- The text of a path is its selectors. -/
theorem steps_address {p : Path} (h : ∀ s ∈ p, s.IsWord) : Steps p.address.toList p.selectors := by
  suffices hmore : ∀ t st, Steps t st →
      Steps (t ++ p.flatMap fun s => s.address.toList) (st ++ p.selectors) by
    rw [p.toList_address]
    exact hmore [] [] .nil
  induction p with
  | nil =>
    intro t st hst
    simpa [Path.selectors] using hst
  | cons s p ih =>
    obtain ⟨hs, hp⟩ := List.forall_mem_cons.mp h
    intro t st hst
    have hnext := ih hp _ _ (hst.snoc (step_address hs))
    simpa [Path.selectors] using hnext

/-- The text of a path with an assignment of a string behind it. -/
theorem commands_put {p : Path} {s : JsonQuery.Step} (hp : ∀ s ∈ p, s.IsWord) (hs : s.IsWord)
    (w : String) :
    Commands (Path.address (p ++ [s]) ++ "=s(" ++ escaped w ++ ")").toList
      (p.selectors ++ [.assign s.key (.literal (.str w))]) := by
  have hvalue : Assigned (markedChars 's' w.toList) (.literal (.str w)) :=
    .literal (.marked (marked_string w))
  have hassign := Commands.assign (steps_address hp) (step_address hs) hvalue
  simpa [Path.toList_address, markedChars, escaped] using hassign

end Grammar

/-! ## §3. Paths lead to what they name. -/

namespace Json

variable {v w new : Json} {f : Json → Except QueryError Json} {p : Path}

/-- Where a step leads to a child, its key addresses that child. -/
theorem slot_key {c : Json} {s : Step} (hs : s.IsWord) (h : v.child? s = some c) :
    v.slot s.key = .ok (s, c) := by
  unfold child? at h
  split at h
  · rename_i entries name
    simp only [Step.key, slot, Key.text, h]
  · rename_i items i
    have hi : i < items.length := (List.getElem?_eq_some_iff.mp h).1
    -- a position that is a word counts from the start
    have hresolve : resolveIndex (Int64.ofNat i) items.length = some i := by
      have hstart : fromStart (Int64.ofNat i) items.length = i := by
        unfold fromStart
        rw [Step.toInt_ofNat hs, if_neg (by omega)]
      unfold resolveIndex
      simp only [hstart]
      rw [if_pos (by omega), Int.toNat_natCast]
    have hitem : item? items (Int64.ofNat i) = some (i, c) := by
      unfold item?
      simp [hresolve, h]
    simp only [Step.key, slot, hitem]
  · cases h

/-- Going along the selectors of a path is going to the value at the path. -/
theorem along_selectors_read (h : v.get? p = some w) (hp : ∀ s ∈ p, s.IsWord) :
    v.along .read f (Path.selectors p) = f w := by
  induction p generalizing v with
  | nil =>
    injection h with h
    rw [h]
    rfl
  | cons s p ih =>
    obtain ⟨hs, hp⟩ := List.forall_mem_cons.mp hp
    simp only [get?, Option.bind_eq_some_iff] at h
    obtain ⟨c, hc, h⟩ := h
    have hselect : v.select s.key = .ok c := by
      rw [select, slot_key hs hc]
      rfl
    show v.along .read f (.select s.key :: Path.selectors p) = _
    rw [along_select_read, hselect, ok_bind]
    exact ih h hp

/-- Writing along the selectors of a path is writing at the path. -/
theorem along_selectors_write (h : v.get? p = some w) (hp : ∀ s ∈ p, s.IsWord)
    (hf : f w = .ok new) :
    ∃ d, v.along .write f (Path.selectors p) = .ok d ∧ v.set? p new = some d := by
  induction p generalizing v with
  | nil =>
    injection h with h
    exact ⟨new, by rw [← hf, ← h]; rfl, rfl⟩
  | cons s p ih =>
    obtain ⟨hs, hp⟩ := List.forall_mem_cons.mp hp
    simp only [get?, Option.bind_eq_some_iff] at h
    obtain ⟨c, hc, h⟩ := h
    obtain ⟨d, hd, hset⟩ := ih h hp
    refine ⟨v.setChild s d, ?_, ?_⟩
    · show v.along .write f (.select s.key :: Path.selectors p) = _
      rw [along_select_write, updateAt, slot_key hs hc, runtime_ok, ok_bind, hd]
      rfl
    · simp [set?, hc, hset]

end Json

/-! ## §4. Texts. -/

namespace Query

variable {d v : Json} {p : Path}

theorem runText_address_read (r : Registry) (hd : d.Distinct) (h : d.get? p = some v)
    (hp : ∀ s ∈ p, s.IsWord) : runText r p.address d = .ok v := by
  have hparse := parse_of_statements p.address (.segment (.commands (.steps (steps_address hp))))
  rw [runText_of_parse hparse]
  show (Query.single p.selectors).run r d = _
  rw [run_single, Statement.run_steps hd p.selectors_not_terminal, Json.along_selectors_read h hp]

theorem runText_address_put (r : Registry) (hd : d.Distinct) (h : d.get? p = some v)
    (hp : ∀ s ∈ p, s.IsWord) (hne : p ≠ []) (w : String) :
    ∃ d', runText r (p.address ++ "=s(" ++ escaped w ++ ")") d = .ok d'
      ∧ d.set? p (.str w) = some d' := by
  obtain ⟨q, s, rfl⟩ : ∃ q s, p = q ++ [s] :=
    ⟨p.dropLast, p.getLast hne, (List.dropLast_concat_getLast hne).symm⟩
  obtain ⟨hq, hs⟩ := List.forall_mem_append.mp hp
  have hs := hs s (List.mem_singleton_self s)
  -- the value at the last step is written as a child of the value that holds it
  rw [Json.get?_append] at h
  obtain ⟨u, hu, h⟩ := Option.bind_eq_some_iff.mp h
  rw [Json.get?_singleton] at h
  have hassign : runtime (u.assign s.key (.str w)) = .ok (u.setChild s (.str w)) := by
    rw [Json.assign_eq, Json.target_of_slot (Json.slot_key hs h)]
    rfl
  obtain ⟨d', hwrite, hset⟩ :=
    Json.along_selectors_write (f := fun c => runtime (c.assign s.key (.str w))) hu hq hassign
  refine ⟨d', ?_, by rw [Json.set?_append_singleton hu h, hset]⟩
  rw [runText_of_parse (parse_of_statements _ (.segment (.commands (commands_put hq hs w))))]
  show (Query.single (Path.selectors q ++ [.assign s.key (.literal (.str w))])).run r d = _
  rw [run_single, Statement.run_put r hd (Path.selectors_not_terminal q), hwrite]

/-- Every location of a document is addressed by the text of its path, whatever the keys on the way
are: the text reads exactly the value there, and an assignment behind it puts a string in its place
and leaves every other value, and the keys of every object and their order, as they are. -/
theorem runText_address (r : Registry) (hd : d.Distinct) (h : d.get? p = some v)
    (hp : ∀ s ∈ p, s.IsWord) :
    runText r p.address d = .ok v
      ∧ (p ≠ [] → ∀ w : String, ∃ d',
          runText r (p.address ++ "=s(" ++ escaped w ++ ")") d = .ok d'
            ∧ d.set? p (.str w) = some d' ∧ d'.get? p = some (.str w)
            ∧ ∀ q, ¬ p <+: q → (d'.get? q).map Json.outline = (d.get? q).map Json.outline) := by
  refine ⟨runText_address_read r hd h hp, fun hne w => ?_⟩
  obtain ⟨d', hrun, hset⟩ := runText_address_put r hd h hp hne w
  exact ⟨d', hrun, hset, Json.get?_of_set? hset, fun q hq => Json.outline_of_set? hset hq⟩

/-- The second item under a key that holds brackets and the escape character, below an empty key. -/
theorem runText_address_odd_keys :
    runText .standard ".s().s(i(a~~~)).[1]"
        (.obj [("", .obj [("i(a~)", .arr [.null, .bool true])])]) = .ok (.bool true)
      ∧ runText .standard ".s().s(i(a~~~)).[1]=s(~))"
          (.obj [("", .obj [("i(a~)", .arr [.null, .bool true])])])
        = .ok (.obj [("", .obj [("i(a~)", .arr [.null, .str ")"])])]) := by
  have hd : (Json.obj [("", .obj [("i(a~)", .arr [.null, .bool true])])]).Distinct := by decide
  have hitem : (Step.item 1).IsWord := by
    show (1 : Int) ≤ Int64.maxValue.toInt
    decide
  have hp : ∀ s ∈ [Step.field "", .field "i(a~)", .item 1], s.IsWord := by
    simpa [Step.IsWord] using hitem
  obtain ⟨hread, hput⟩ :=
    runText_address .standard hd (p := [.field "", .field "i(a~)", .item 1]) rfl hp
  obtain ⟨d', hrun, hset, -⟩ := hput (List.cons_ne_nil _ _) ")"
  injection hset with hset
  subst hset
  exact ⟨hread, hrun⟩

end Query

end JsonQuery
