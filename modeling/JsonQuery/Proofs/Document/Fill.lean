/-
  JsonQuery.Proofs.Document.Fill
  ──────────────────────────────
  Writing into slots one after another.

  The evaluator replaces the children of a container one by one, while `Json.updateAll`
  builds the new container at once.  Both agree in a lawful value (`Json.updateAll_eq`):
  the items of an array before and behind the span stay, and every entry of an object
  keeps its key and place.
-/
import JsonQuery.Proofs.Document.Slot

namespace JsonQuery

/-! ## §1. Filling slots. -/

/-- The value after writing into slots one after another. -/
def Json.fill (v : Json) (ss : List Slot) : Json := ss.foldl (fun w s => w.setChild s.1 s.2) v

@[simp] theorem Json.fill_nil (v : Json) : v.fill [] = v := rfl

@[simp] theorem Json.fill_cons (v : Json) (s : Slot) (ss : List Slot) :
    v.fill (s :: ss) = (v.setChild s.1 s.2).fill ss := rfl

/-- Updating labelled values keeps their labels. -/
theorem mapM_updateSnd {κ : Type} (f : Json → Except QueryError Json) (l : List (κ × Json)) :
    l.mapM (updateSnd f) = do
      let vs ← l.mapM fun e => f e.2
      return (l.map Prod.fst).zip vs := by
  induction l with
  | nil => rfl
  | cons e l ih => simp [updateSnd, ih]

/-! ## §2. Arrays. -/

/-- An array around a span: what lies before it, its items and what lies behind it. -/
theorem Span.append_items (span : Span) (items : List Json) :
    items.take (span.bounds items.length).1 ++ span.items items
      ++ items.drop (span.bounds items.length).2 = items := by
  obtain ⟨hle, -⟩ := span.bounds_le items.length
  have hlow : items.take (span.bounds items.length).1
      = (items.take (span.bounds items.length).2).take (span.bounds items.length).1 := by
    rw [List.take_take, Nat.min_eq_left hle]
  rw [Span.items, hlow, List.take_append_drop, List.take_append_drop]

theorem Span.positions_eq (span : Span) (items : List Json) :
    span.positions items = (span.items items).zipIdx (span.bounds items.length).1 := by
  obtain ⟨hle, hlen⟩ := span.bounds_le items.length
  apply List.ext_getElem?
  intro i
  simp only [Span.positions, Span.items, List.getElem?_drop, List.getElem?_take,
    List.getElem?_zipIdx, Nat.zero_add]
  split <;> simp

/-- Writing into the middle of an array, item after item. -/
theorem Json.fill_items (f : Json → Except QueryError Json) (mid : List Json) :
    ∀ (pre post : List Json),
      (do let news ← (mid.zipIdx pre.length).mapM fun p : Json × Nat =>
            updateSnd f (Step.item p.2, p.1)
          return (Json.arr (pre ++ mid ++ post)).fill news)
        = do
          let results ← mid.mapM f
          return .arr (pre ++ results ++ post) := by
  -- an item that has been written belongs to the part before the middle
  induction mid with
  | nil =>
    intro pre post
    simp
  | cons c mid ih =>
    intro pre post
    simp only [List.zipIdx_cons, List.mapM_cons, updateSnd, bind_assoc, pure_bind]
    refine bind_congr_of_ok fun new _ => ?_
    have hset : (Json.arr (pre ++ (c :: mid) ++ post)).setChild (.item pre.length) new
        = .arr ((pre ++ [new]) ++ mid ++ post) := by
      simp [setChild, List.append_assoc]
    have h := ih (pre ++ [new]) post
    simp only [Json.fill_cons]
    rw [hset]
    simpa [updateSnd] using h

/-! ## §3. Objects. -/

theorem Entries.put_append_cons (pre rest : Entries) {key : String} (h : key ∉ pre.keys)
    (old new : Json) :
    Entries.put (pre ++ (key, old) :: rest) key new = pre ++ (key, new) :: rest := by
  induction pre with
  | nil => simp [put]
  | cons e pre ih =>
    simp only [keys, List.map_cons, List.mem_cons, not_or] at h
    simp only [List.cons_append, put, if_neg (Ne.symm h.1)]
    rw [ih h.2]

/-- Writing into an object whose keys are distinct, entry after entry. -/
theorem Json.fill_entries (f : Json → Except QueryError Json) (rest : Entries) :
    ∀ pre : Entries, (Entries.keys (pre ++ rest)).Nodup →
      (do let news ← rest.mapM fun e : String × Json =>
            updateSnd f (Step.field e.1, e.2)
          return (Json.obj (pre ++ rest)).fill news)
        = do
          let results ← rest.mapM (updateSnd f)
          return .obj (pre ++ results) := by
  induction rest with
  | nil =>
    intro pre _
    simp
  | cons e rest ih =>
    intro pre hd
    obtain ⟨key, old⟩ := e
    simp only [List.mapM_cons, updateSnd, bind_assoc, pure_bind]
    refine bind_congr_of_ok fun new _ => ?_
    -- the key does not occur before, so the entry written is this one
    have hkey : key ∉ Entries.keys pre := by
      simp only [Entries.keys, List.map_append, List.map_cons, List.nodup_append] at hd
      exact fun hk => hd.2.2 key hk key List.mem_cons_self rfl
    have hset : (Json.obj (pre ++ (key, old) :: rest)).setChild (.field key) new
        = .obj ((pre ++ [(key, new)]) ++ rest) := by
      simp [setChild, Entries.put_append_cons pre rest hkey]
    have hd' : (Entries.keys ((pre ++ [(key, new)]) ++ rest)).Nodup := by
      simpa [Entries.keys] using hd
    have h := ih (pre ++ [(key, new)]) hd'
    simp only [Json.fill_cons]
    rw [hset]
    simpa [updateSnd] using h

/-! ## §4. Containers. -/

namespace Json

variable {allowed : Float → Prop}

/-- Replacing the addressed children at once is writing into their slots one after another. -/
theorem updateAll_eq {v : Json} (hv : v.Lawful allowed) (span : Span)
    (f : Json → Except QueryError Json) :
    v.updateAll span f = do
      let ss ← runtime (v.slots span)
      let news ← ss.mapM (updateSnd f)
      return v.fill news := by
  cases v with
  | arr items =>
    have hlen : (items.take (span.bounds items.length).1).length
        = (span.bounds items.length).1 := by
      have := span.bounds_le items.length
      rw [List.length_take]
      omega
    -- when the slots are written to, the items before the span have been passed
    have h := fill_items f (span.items items) (items.take (span.bounds items.length).1)
      (items.drop (span.bounds items.length).2)
    rw [span.append_items, hlen, ← span.positions_eq] at h
    simp only [updateAll, slots, runtime_ok, ok_bind, List.mapM_map]
    exact h.symm
  | obj entries =>
    cases span with
    | all =>
      -- no key occurs twice, so each write meets the entry that it is for
      have h := fill_entries f entries [] hv.keys
      simp only [List.nil_append] at h
      simp only [updateAll, slots, runtime_ok, ok_bind, List.mapM_map]
      exact h.symm
    | range start stop => rfl
  | _ => rfl

/-- The results at the addressed children fill a container of the same shape. -/
theorem collect_eq (v : Json) (span : Span) (f : Json → Except QueryError Json) :
    v.collect span f = do
      let ss ← runtime (v.slots span)
      let results ← ss.mapM fun s => f s.2
      return v.refill results := by
  cases v with
  | arr items =>
    simp only [collect, slots, runtime_ok, ok_bind, List.mapM_map, refill,
      ← span.map_fst_positions]
    rfl
  | obj entries =>
    cases span with
    | all =>
      simp only [collect, slots, runtime_ok, ok_bind, List.mapM_map, refill, mapM_updateSnd,
        bind_assoc, pure_bind]
      rfl
    | range start stop => rfl
  | _ => rfl

end Json

end JsonQuery
