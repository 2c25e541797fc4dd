/-
  JsonQuery.Proofs.Eval.Writing
  ─────────────────────────────
  Writing is plain.

  A statement that ends in a write threads one draft through its commands.  While it runs
  at a place, the draft still holds the place's own value there; what the commands then
  do to the draft is to replace that value by its plain update (`runCommands_write`).

  The step that carries this is an iterator's: it writes below each of its slots in turn.
  A write below one slot leaves the later slots as they are, because they lie at other
  steps of the same container (`Visit.sweep_eq`).

  Main result:
    * `Statement.run_eq_plain` — a statement computes its plain meaning, which for one that
      ends in a write is an update.
-/
import JsonQuery.Proofs.Eval.Reading

namespace JsonQuery

variable {r : Registry} {allowed : Float → Prop}

/-! ## §1. Going through the slots of a container. -/

/-- Visits that each replace the value at their place by its update fill the container. -/
theorem Visit.sweep_eq {visit : Visit} {f : Json → Except QueryError Json} {p : Place} :
    ∀ (ss : List Slot) (w : Json) (d : Draft), d.get? p.path = some w →
      (ss.map Prod.fst).Nodup → (∀ s ∈ ss, w.child? s.1 = some s.2) →
      (∀ s ∈ ss, ∀ d : Draft, d.get? (p.enter s).path = some s.2 →
        visit (p.enter s) (some d) = do
          let new ← f s.2
          let d ← runtime (d.replace (p.enter s).path new)
          return (.written, some d)) →
      visit.sweep (ss.map p.enter) (some d) = do
        let news ← ss.mapM (updateSnd f)
        let d ← runtime (d.replace p.path (w.fill news))
        return some d
  | [], w, d, hw, _, _, _ => by
    simp [Visit.sweep, Draft.replace_self hw]
  | s :: ss, w, d, hw, hn, hc, hv => by
    have hs := hc s List.mem_cons_self
    have hd : d.get? (p.enter s).path = some s.2 := by
      rw [Place.path_enter, Draft.get?_append_singleton hw, hs]
    simp only [List.map_cons, List.nodup_cons] at hn
    simp only [List.map_cons, Visit.sweep, hv s List.mem_cons_self d hd, List.mapM_cons,
      updateSnd, bind_assoc, pure_bind]
    refine bind_congr_of_ok fun new _ => ?_
    rw [Place.path_enter, Draft.replace_append_singleton hw hs]
    -- the draft now holds the container with the first slot written
    obtain ⟨d', hd', hw'⟩ := Draft.exists_replace hw (w.setChild s.1 new)
    have hc' : ∀ t ∈ ss, (w.setChild s.1 new).child? t.1 = some t.2 := by
      intro t ht
      have hne : t.1 ≠ s.1 := fun h => hn.1 (h ▸ List.mem_map_of_mem ht)
      rw [Json.child?_setChild_of_ne hne, hc t (List.mem_cons_of_mem _ ht)]
    have ih := sweep_eq ss (w.setChild s.1 new) d' hw' hn.2 hc'
      fun t ht => hv t (List.mem_cons_of_mem _ ht)
    rw [hd', runtime_ok, ok_bind, ih]
    simp only [Draft.replace_replace hd', Json.fill_cons]

/-! ## §2. Commands. -/

/-- Commands that end in a write replace the value at their place by its plain update. -/
theorem runCommands_write {last : Command} (hm : r.mode last = .write) :
    ∀ (cs : List Command) (p : Place) (d : Draft), cs.getLast? = some last →
      d.get? p.path = some p.value → p.value.Lawful allowed →
      runCommands r .write cs p (some d) = do
        let v ← Plain.update r refused cs p.scope
        let d ← runtime (d.replace p.path v)
        return (.written, some d)
  | [], p, d, hcs, _, _ => by cases hcs
  | [.select key], p, d, hcs, _, _ => by
    cases hcs
    cases hm
  | [.iterate span], p, d, hcs, _, _ => by
    cases hcs
    cases hm
  | [.list items], p, d, hcs, _, _ => by
    cases hcs
    cases hm
  | [.assign target value], p, d, _, hd, _ => by
    rw [runCommands_singleton, runLast, Plain.update, runOperand_eq, Place.value_scope]
    simp only [bind_assoc, Draft.assign_eq hd]
    refine bind_congr_of_ok fun v _ => ?_
    cases p.value.assign target v with
    | error e => rfl
    | ok w => rfl
  | [.call cs], p, d, hcs, hd, _ => by
    obtain rfl : .call cs = last := Option.some.inj hcs
    rw [runCommands_singleton, runLast, Plain.update, Place.value_scope]
    simp only [hd, pure_bind, runCalls_eq, bind_assoc]
    refine bind_congr_of_ok fun result hresult => ?_
    -- a chain that writes does not end with a result of its own
    rcases Plain.mode_of_calls hresult with ⟨hr, -⟩ | ⟨-, w, rfl⟩
    · rw [hm] at hr
      cases hr
    · rfl
  | .select key :: next :: rest, p, d, hcs, hd, hp => by
    -- a write of the child into the draft is a write of the value with that child
    rw [List.getLast?_cons_cons] at hcs
    rw [runCommands_select, Plain.update, Place.value_scope, Json.updateAt]
    simp only [bind_assoc, pure_bind]
    refine bind_congr_of_ok fun s hs => ?_
    have hslot := runtime_eq_ok_iff.mp hs
    have hs := Json.child?_of_slot hslot
    have hchild : d.get? (p.enter s).path = some s.2 := by
      rw [Place.path_enter, Draft.get?_append_singleton hd, hs]
    rw [runCommands_write hm (next :: rest) (p.enter s) d hcs hchild (hp.slot hslot)]
    simp only [Place.path_enter, Draft.replace_append_singleton hd hs, Place.scope_enter]
  | .iterate span :: next :: rest, p, d, hcs, hd, hp => by
    rw [List.getLast?_cons_cons] at hcs
    rw [runCommands_iterate_write, Plain.update, Place.value_scope, Json.updateAll_eq hp]
    simp only [bind_assoc, pure_bind]
    refine bind_congr_of_ok fun ss hss => ?_
    have hslots := runtime_eq_ok_iff.mp hss
    -- each visit is a write by induction, wherever the draft still has its slot
    rw [Visit.sweep_eq (f := fun child => Plain.update r refused (next :: rest)
      (p.scope.enter child)) ss p.value d hd (Json.nodup_slots hp hslots)
      (fun s hs => Json.child?_of_mem_slots hp hslots hs)
      fun s hs d hchild => runCommands_write hm (next :: rest) (p.enter s) d hcs hchild
        (hp.slots hslots hs)]
    simp only [bind_assoc, pure_bind]
  | .assign target value :: next :: rest, p, d, _, _, _ => by
    rw [runCommands_terminal r rfl, Plain.update_terminal rfl]
    rfl
  | .call cs :: next :: rest, p, d, _, _, _ => by
    rw [runCommands_terminal r rfl, Plain.update_terminal rfl]
    rfl
  | .list items :: next :: rest, p, d, _, _, _ => by
    rw [runCommands_terminal r rfl, Plain.update_terminal rfl]
    rfl

/-! ## §3. Statements. -/

/-- The last command of a statement that runs without a draft reads. -/
theorem Registry.mode_of_not_needsDraft {last : Command} (h : last.needsDraft = false) :
    r.mode last = .read := by
  cases last with
  | assign target value => cases h
  | call cs => cases h
  | _ => rfl

theorem Statement.run_of_getLast? {st : Statement} {last : Command}
    (h : st.getLast? = some last) (document : Json) :
    Statement.run r st document
      = runCommands r (r.mode last) st (.root document)
          (if last.needsDraft then some ⟨document⟩ else none)
        >>= fun result => result.1.result result.2 := by
  unfold Statement.run
  rw [h]

/-- A statement that works without a draft reads, and asks nothing of its document. -/
theorem Statement.run_eq_read {st : Statement} {last : Command} (hlast : st.getLast? = some last)
    (hn : last.needsDraft = false) (document : Json) :
    Statement.run r st document = Plain.read r refused st (.root document) := by
  rw [Statement.run_of_getLast? hlast, Registry.mode_of_not_needsDraft hn, hn,
    if_neg Bool.false_ne_true, runCommands_none]
  simp only [bind_assoc, pure_bind, Outcome.result, Place.scope_root]
  exact bind_pure (Plain.read r refused st (.root document))

/-- A statement on a lawful document computes its plain meaning. -/
theorem Statement.run_eq_plain {document : Json} (hd : document.Lawful allowed)
    (st : Statement) : Statement.run r st document = Plain.statement r refused st document := by
  have hroot : (⟨document⟩ : Draft).get? (Place.root document).path = some document := rfl
  cases hlast : st.getLast? with
  | none =>
    unfold Statement.run Plain.statement
    rw [hlast]
  | some last =>
    cases hn : last.needsDraft with
    | false =>
      -- no draft, so nothing but reading is left
      rw [Statement.run_eq_read hlast hn,
        Plain.statement_of_read hlast (Registry.mode_of_not_needsDraft hn)]
    | true =>
      rw [Statement.run_of_getLast? hlast, hn, if_pos rfl]
      cases hm : r.mode last with
      | read =>
        -- a draft that is never written to: the chain ends in a producer
        obtain ⟨calls, rfl⟩ : ∃ calls, last = .call calls := by
          cases last with
          | call calls => exact ⟨calls, rfl⟩
          | assign target value => cases hm
          | _ => cases hn
        rw [Plain.statement_of_read hlast hm,
          runCommands_read hm st (.root document) hlast hroot hd]
        simp only [bind_assoc, pure_bind, Outcome.result, Place.scope_root]
        exact bind_pure (Plain.read r refused st (.root document))
      | write =>
        rw [Plain.statement_of_write hlast hm,
          runCommands_write hm st (.root document) _ hlast hroot hd]
        simp only [bind_assoc, pure_bind, Outcome.result, Place.scope_root]
        exact bind_pure (Plain.update r refused st (.root document))

/-! ## §4. Statements that write. -/

/-- Whether a statement that ends in the command writes: it is an assignment, or a chain of calls
of which the last does not name a registered producer. -/
inductive Registry.Writes (r : Registry) : Command → Prop
  | assign (target : Key) (value : Operand) : Writes r (.assign target value)
  | call {calls : List Call} {c : Call} : calls.getLast? = some c →
      (∀ f, r.get? c.name = some f → f.role ≠ .producer) → Writes r (.call calls)

theorem Registry.Writes.mode {last : Command} (h : r.Writes last) : r.mode last = .write := by
  cases h with
  | assign target value => rfl
  | call hc hf =>
    unfold Registry.mode
    simp only [hc, Option.bind_some]
    split
    · -- the last call names a function, and one that is no producer modifies
      rename_i f hget
      have hrole : f.role = .modifier := by
        cases hr : f.role with
        | modifier => rfl
        | producer => exact absurd hr (hf f hget)
      simp [Function.isModifier, hrole]
    · rfl

/-- A statement that ends in a write computes the plain update of its document: the same value or
the same failure. -/
theorem Statement.run_eq_update {document : Json} (hd : document.Distinct)
    (before : List Command) (last : Command) (hlast : r.Writes last) :
    Statement.run r (before ++ [last]) document
      = Plain.update r refused (before ++ [last]) (.root document) := by
  rw [Statement.run_eq_plain hd,
    Plain.statement_of_write (List.getLast?_concat) hlast.mode]

/-- An assignment below an iterator, of an operand that is read at each item. -/
theorem Statement.run_copies_field :
    Statement.run .empty
        ([.iterate .all] ++ [.assign (.name "b") (.query (.single [.select (.name "a")]))])
        (.arr [.obj [("a", .int 1)], .obj [("b", .int 0), ("a", .int 2)]])
      = .ok (.arr [.obj [("a", .int 1), ("b", .int 1)], .obj [("b", .int 2), ("a", .int 2)]]) := by
  refine (Statement.run_eq_update (.arr ?_) [.iterate .all] _ (.assign _ _)).trans rfl
  intro v hv
  rw [List.mem_cons, List.mem_singleton] at hv
  rcases hv with rfl | rfl
  · refine .obj (by decide) fun e he => ?_
    rw [List.mem_singleton.mp he]
    exact .int 1
  · refine .obj (by decide) fun e he => ?_
    rw [List.mem_cons, List.mem_singleton] at he
    rcases he with rfl | rfl
    · exact .int 0
    · exact .int 2

end JsonQuery
