/-
  JsonQuery.Proofs.Document.Slot
  ──────────────────────────────
  The children that keys and spans address, at a value and without the way to it.

  A slot is a child together with the step to it.  Keys address one slot, spans address
  several; the places that the evaluator goes to are exactly these slots below its place
  (`Place.select_eq`, `Place.children_eq`).  In a lawful value the slots of a span lie at
  different steps, so that writing into one of them leaves the others as they are.

  Main definitions:
    * `Json.select`, `Json.collect` — what a key or a span reads;
    * `Json.updateAt`, `Json.updateAll` — the value with the addressed children replaced.
-/
import JsonQuery.Proofs.Except
import JsonQuery.Proofs.Json.Lawful

namespace JsonQuery

/-- A child of a value and the step to it. -/
abbrev Slot := Step × Json

/-- A labelled value with what `f` yields in its place. -/
def updateSnd {κ : Type} (f : Json → Except QueryError Json) (e : κ × Json) :
    Except QueryError (κ × Json) := do
  let new ← f e.2
  return (e.1, new)

/-! ## §1. What keys and spans address. -/

/-- The items of an array that a span addresses. -/
def Span.items (span : Span) (items : List Json) : List Json :=
  (items.take (span.bounds items.length).2).drop (span.bounds items.length).1

namespace Json

/-- The slot that a key addresses. -/
def slot (v : Json) (key : Key) : Except RuntimeError Slot :=
  match v with
  | .arr items =>
    match key with
    | .index n =>
      match item? items n with
      | some (i, child) => .ok (.item i, child)
      | none => .error (.indexOutOfBounds n items.length)
    | key => .error (.invalidIndex key.text)
  | .obj entries =>
    match Entries.get? entries key.text with
    | some child => .ok (.field key.text, child)
    | none => .error (.keyNotFound key.text)
  | v => .error (.invalidSelection v.kind key.text)

/-- The slots that a span addresses, in order. -/
def slots (v : Json) (span : Span) : Except RuntimeError (List Slot) :=
  match v with
  | .arr items => .ok ((span.positions items).map fun (child, i) => (.item i, child))
  | .obj entries =>
    match span with
    | .all => .ok (entries.map fun (k, child) => (.field k, child))
    | .range _ _ => .error .rangeOnObject
  | v => .error (.notIterable v.kind)

/-- The child that a key addresses. -/
def select (v : Json) (key : Key) : Except QueryError Json := do
  let slot ← runtime (v.slot key)
  return slot.2

/-- What `f` yields at the addressed children, in the shape of their container. -/
def collect (v : Json) (span : Span) (f : Json → Except QueryError Json) :
    Except QueryError Json :=
  match v with
  | .arr items => do
    let results ← (span.items items).mapM f
    return .arr results
  | .obj entries =>
    match span with
    | .all => do
      let results ← entries.mapM (updateSnd f)
      return .obj results
    | .range _ _ => .error (.runtime .rangeOnObject)
  | v => .error (.runtime (.notIterable v.kind))

/-- The value with what `f` yields in place of the child that a key addresses. -/
def updateAt (v : Json) (key : Key) (f : Json → Except QueryError Json) :
    Except QueryError Json := do
  let slot ← runtime (v.slot key)
  let new ← f slot.2
  return v.setChild slot.1 new

/-- The value with what `f` yields in place of every addressed child; the other children stay. -/
def updateAll (v : Json) (span : Span) (f : Json → Except QueryError Json) :
    Except QueryError Json :=
  match v with
  | .arr items => do
    let bounds := span.bounds items.length
    let results ← (span.items items).mapM f
    return .arr (items.take bounds.1 ++ results ++ items.drop bounds.2)
  | .obj entries =>
    match span with
    | .all => do
      let results ← entries.mapM (updateSnd f)
      return .obj results
    | .range _ _ => .error (.runtime .rangeOnObject)
  | v => .error (.runtime (.notIterable v.kind))

end Json

/-! ## §2. Places are slots below a place. -/

namespace Place

/-- The place of a slot below a place. -/
def enter (p : Place) (s : Slot) : Place := p.child s.1 s.2

@[simp] theorem path_enter (p : Place) (s : Slot) : (p.enter s).path = p.path ++ [s.1] := rfl

theorem select_eq (p : Place) (key : Key) : p.select key = (p.value.slot key).map p.enter := by
  unfold Place.select Json.slot
  cases p.value with
  | arr items =>
    cases key with
    | index n => cases h : item? items n <;> simp [h, Except.map, enter]
    | name s => rfl
    | number x => rfl
  | obj entries =>
    cases h : Entries.get? entries key.text <;> simp [h, Except.map, enter]
  | _ => rfl

theorem children_eq (p : Place) (span : Span) :
    p.children span = (p.value.slots span).map (List.map p.enter) := by
  unfold Place.children Json.slots
  cases p.value with
  | arr items => simp [Except.map, enter, Function.comp_def]
  | obj entries => cases span <;> simp [Except.map, enter, Function.comp_def]
  | _ => rfl

theorem select_eq_ok_iff {p c : Place} {key : Key} :
    p.select key = .ok c ↔ ∃ s, p.value.slot key = .ok s ∧ c = p.enter s := by
  rw [select_eq, map_eq_ok_iff]
  simp only [eq_comm]

theorem children_eq_ok_iff {p : Place} {span : Span} {cs : List Place} :
    p.children span = .ok cs ↔ ∃ ss, p.value.slots span = .ok ss ∧ cs = ss.map p.enter := by
  rw [children_eq, map_eq_ok_iff]
  simp only [eq_comm]

end Place

/-! ## §3. Slots hold children. -/

theorem Span.map_fst_positions (span : Span) (items : List Json) :
    (span.positions items).map Prod.fst = span.items items := by
  simp [Span.positions, Span.items]

theorem Span.bounds_le (span : Span) (length : Nat) :
    (span.bounds length).1 ≤ (span.bounds length).2 ∧ (span.bounds length).2 ≤ length := by
  cases span with
  | all => simp [Span.bounds]
  | range start stop =>
    have clamp_le : ∀ n, clampBound length n ≤ length := fun n => Nat.min_le_right _ _
    cases start with
    | none => cases stop <;> simp [Span.bounds, sliceBounds, clamp_le]
    | some a =>
      cases stop with
      | none => simp [Span.bounds, sliceBounds, clamp_le]
      | some b =>
        have ha := clamp_le a
        have hb := clamp_le b
        simp only [Span.bounds, sliceBounds, Option.map_some, Option.getD_some]
        omega

/-- A position of a span holds the item that stands there. -/
theorem Span.getElem?_of_mem_positions {span : Span} {items : List Json} {p : Json × Nat}
    (h : p ∈ span.positions items) : items[p.2]? = some p.1 := by
  -- items are numbered before any are cut off, so their numbers are those of the whole array
  have hp : p ∈ items.zipIdx := List.mem_of_mem_take (List.mem_of_mem_drop h)
  simpa using List.mem_zipIdx_iff_getElem?.mp hp

/-- The positions of a span are pairwise different. -/
theorem Span.nodup_positions (span : Span) (items : List Json) :
    ((span.positions items).map Prod.snd).Nodup := by
  -- the positions of a span are some of all positions, in order
  have hs : ((span.positions items).map Prod.snd).Sublist (items.zipIdx.map Prod.snd) :=
    ((List.drop_sublist _ _).trans (List.take_sublist _ _)).map _
  refine List.Sublist.nodup hs ?_
  rw [List.zipIdx_map_snd]
  exact List.nodup_range'

namespace Json

variable {allowed : Float → Prop}

theorem child?_of_slot {v : Json} {key : Key} {s : Slot} (h : v.slot key = .ok s) :
    v.child? s.1 = some s.2 := by
  unfold slot at h
  split at h
  · -- an index, which leads to an item of an array
    split at h
    · split at h
      · rename_i items _ n i child hi
        injection h with h
        subst h
        simp only [item?, Option.bind_eq_bind, Option.bind_eq_some_iff, Option.pure_def,
          Option.some.injEq, Prod.mk.injEq] at hi
        obtain ⟨j, -, w, hw, rfl, rfl⟩ := hi
        exact hw
      · cases h
    · cases h
  · split at h
    · rename_i hg
      injection h with h
      subst h
      exact hg
    · cases h
  · cases h

theorem child?_of_mem_slots {v : Json} (hv : v.Lawful allowed) {span : Span} {ss : List Slot}
    (h : v.slots span = .ok ss) {s : Slot} (hs : s ∈ ss) : v.child? s.1 = some s.2 := by
  unfold slots at h
  split at h
  · injection h with h
    subst h
    obtain ⟨p, hp, rfl⟩ := List.mem_map.mp hs
    exact Span.getElem?_of_mem_positions hp
  · split at h
    · injection h with h
      subst h
      obtain ⟨e, he, rfl⟩ := List.mem_map.mp hs
      exact Entries.get?_of_mem hv.keys he
    · cases h
  · cases h

/-- The slots of a span lie at pairwise different steps. -/
theorem nodup_slots {v : Json} (hv : v.Lawful allowed) {span : Span} {ss : List Slot}
    (h : v.slots span = .ok ss) : (ss.map Prod.fst).Nodup := by
  unfold slots at h
  split at h
  · -- the items of an array lie at their positions
    rename_i items
    injection h with h
    subst h
    have hn : (((span.positions items).map Prod.snd).map Step.item).Nodup :=
      List.Pairwise.map Step.item (fun _ _ hij hs => hij (Step.item.inj hs))
        (span.nodup_positions items)
    simpa [Function.comp_def] using hn
  · -- the values of an object lie under its keys, which are lawful
    rename_i entries
    split at h
    · injection h with h
      subst h
      have hn : ((Entries.keys entries).map Step.field).Nodup :=
        List.Pairwise.map Step.field (fun _ _ hab hs => hab (Step.field.inj hs)) hv.keys
      simpa [Entries.keys, Function.comp_def] using hn
    · cases h
  · cases h

theorem Lawful.slot {v : Json} (hv : v.Lawful allowed) {key : Key} {s : Slot}
    (h : v.slot key = .ok s) : s.2.Lawful allowed :=
  hv.child? (child?_of_slot h)

theorem Lawful.slots {v : Json} (hv : v.Lawful allowed) {span : Span} {ss : List Slot}
    (h : v.slots span = .ok ss) {s : Slot} (hs : s ∈ ss) : s.2.Lawful allowed :=
  hv.child? (child?_of_mem_slots hv h hs)

end Json

end JsonQuery
