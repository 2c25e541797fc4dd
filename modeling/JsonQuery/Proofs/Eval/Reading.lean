/-
  JsonQuery.Proofs.Eval.Reading
  ─────────────────────────────
  Reading is plain.

  Where there is no draft the evaluator computes what `Plain.read` says, for every tree of
  commands (`runCommands_none`, and `runOperand_eq` for the operands of a command).  The
  same holds in a statement that ends in a producer, which has a draft that nothing is
  written to: each place then finds its own value in the draft (`runCommands_read`).
-/
import JsonQuery.Proofs.Document.Fill
import JsonQuery.Proofs.Document.Write
import JsonQuery.Proofs.Eval.Plain

namespace JsonQuery

variable (r : Registry)

/-! ## §1. The commands of a statement, one at a time. -/

theorem runCommands_singleton (mode : Mode) (last : Command) (p : Place) (d : Option Draft) :
    runCommands r mode [last] p d = runLast r last p d := by
  rw [runCommands.eq_def]
  rfl

theorem runCommands_select (mode : Mode) (key : Key) (next : Command) (rest : List Command)
    (p : Place) (d : Option Draft) :
    runCommands r mode (.select key :: next :: rest) p d
      = runtime (p.value.slot key) >>= fun s =>
          runCommands r mode (next :: rest) (p.enter s) d := by
  rw [runCommands.eq_def]
  simp only [List.isEmpty_cons, Bool.false_eq_true, if_false, Place.select_eq]
  cases p.value.slot key with
  | error e => rfl
  | ok s => rfl

theorem runCommands_iterate_read (span : Span) (next : Command) (rest : List Command)
    (p : Place) (d : Option Draft) :
    runCommands r .read (.iterate span :: next :: rest) p d = do
      let ss ← runtime (p.value.slots span)
      let (values, d) ← Visit.collect (runCommands r .read (next :: rest)) (ss.map p.enter) d
      return (.value (p.value.refill values), d) := by
  rw [runCommands.eq_def]
  simp only [List.isEmpty_cons, Bool.false_eq_true, if_false, Place.children_eq]
  cases p.value.slots span with
  | error e => rfl
  | ok ss => rfl

theorem runCommands_iterate_write (span : Span) (next : Command) (rest : List Command)
    (p : Place) (d : Option Draft) :
    runCommands r .write (.iterate span :: next :: rest) p d = do
      let ss ← runtime (p.value.slots span)
      let d ← Visit.sweep (runCommands r .write (next :: rest)) (ss.map p.enter) d
      return (.written, d) := by
  rw [runCommands.eq_def]
  simp only [List.isEmpty_cons, Bool.false_eq_true, if_false, Place.children_eq]
  cases p.value.slots span with
  | error e => rfl
  | ok ss => rfl

/-- A command that cannot stand before others. -/
theorem runCommands_terminal {command : Command} (h : command.isTerminal = true) (mode : Mode)
    (next : Command) (rest : List Command) (p : Place) (d : Option Draft) :
    runCommands r mode (command :: next :: rest) p d
      = .error (.internal (.unrunnable command.name)) := by
  rw [runCommands.eq_def]
  cases command with
  | select key => cases h
  | iterate span => cases h
  | _ => rfl

/-! ## §2. The scope of a place. -/

namespace Place

/-- The values at a place and above it. -/
def scope : Place → Plain.Scope
  | .root document => .root document
  | .child parent _ v => parent.scope.enter v

@[simp] theorem value_scope (p : Place) : p.scope.value = p.value := by cases p <;> rfl

@[simp] theorem scope_root (document : Json) : (Place.root document).scope = .root document := rfl

@[simp] theorem scope_enter (p : Place) (s : Slot) :
    (p.enter s).scope = p.scope.enter s.2 := rfl

/-- The scope of the place that holds a place. -/
theorem scope_parent (p : Place) : (p.parent?.getD p).scope = p.scope.outer := by
  cases p with
  | root document => rfl
  | child parent step v =>
    cases parent <;> rfl

end Place

/-! ## §3. Without a draft. -/

/-- Visits that lead to values without touching the draft collect those values. -/
theorem Visit.collect_eq {visit : Visit} {f : Json → Except QueryError Json} {p : Place}
    {d : Option Draft} (ss : List Slot)
    (h : ∀ s ∈ ss, visit (p.enter s) d = do
      let v ← f s.2
      return (.value v, d)) :
    visit.collect (ss.map p.enter) d = do
      let vs ← ss.mapM fun s => f s.2
      return (vs, d) := by
  induction ss with
  | nil => rfl
  | cons s ss ih =>
    have hs := h s List.mem_cons_self
    have hss := ih fun s hs => h s (List.mem_cons_of_mem _ hs)
    simp only [List.map_cons, Visit.collect, hs, hss, List.mapM_cons, bind_assoc, pure_bind,
      Outcome.result, ok_bind]

mutual

/-- Commands run without a draft lead to the value that reading them plainly does. -/
theorem runCommands_none : ∀ (cs : List Command) (p : Place),
    runCommands r .read cs p none = do
      let v ← Plain.read r refused cs p.scope
      return (.value v, none)
  | [], p => by
    rw [runCommands, Plain.read, Place.value_scope]
    rfl
  | [last], p => by
    rw [runCommands_singleton, Plain.read]
    exact runLast_none last p
  | .select key :: next :: rest, p => by
    have ih := runCommands_none (next :: rest)
    rw [runCommands_select, Plain.read, Place.value_scope]
    simp only [ih, Json.select, bind_assoc, pure_bind, Place.scope_enter]
  | .iterate span :: next :: rest, p => by
    have ih := runCommands_none (next :: rest)
    rw [runCommands_iterate_read, Plain.read, Place.value_scope, Json.collect_eq]
    simp only [bind_assoc, pure_bind]
    refine bind_congr_of_ok fun ss _ => ?_
    -- each child is read without a draft as well, so that none is left behind
    rw [Visit.collect_eq (f := fun child => Plain.read r refused (next :: rest)
      (p.scope.enter child)) ss fun s _ => ih (p.enter s)]
    simp only [bind_assoc, pure_bind]
  | .assign target value :: next :: rest, p => by
    rw [runCommands_terminal r rfl, Plain.read_terminal rfl]
    rfl
  | .call calls :: next :: rest, p => by
    rw [runCommands_terminal r rfl, Plain.read_terminal rfl]
    rfl
  | .list items :: next :: rest, p => by
    rw [runCommands_terminal r rfl, Plain.read_terminal rfl]
    rfl

theorem runLast_none : ∀ (last : Command) (p : Place),
    runLast r last p none = do
      let v ← Plain.readLast r refused last p.scope
      return (.value v, none)
  | .select key, p => by
    rw [runLast, Plain.readLast, Place.value_scope, Place.select_eq, Json.select]
    cases p.value.slot key <;> rfl
  | .iterate span, p => by
    rw [runLast, Plain.readLast, Place.value_scope]
  | .assign target value, p => by
    have ih := runOperand_eq .assignmentValue value p
    rw [runLast, Plain.readLast, ih]
    simp only [bind_assoc]
    rfl
  | .call cs, p => by
    have ih := runCalls_eq cs p p.value
    rw [runLast, Plain.readLast, Place.value_scope]
    simp only [pure_bind, ih, bind_assoc]
    refine bind_congr_of_ok fun result _ => ?_
    cases result <;> rfl
  | .list items, p => by
    have ih := runOperands_eq .listElement items p
    rw [runLast, Plain.readLast, ih]
    simp only [bind_assoc, pure_bind]

/-- Calls at a place end as they do in its scope. -/
theorem runCalls_eq : ∀ (cs : List Call) (p : Place) (v : Json),
    runCalls r cs p v = Plain.calls r refused cs p.scope v
  | [], p, v => by
    rw [runCalls, Plain.calls]
  | .mk name args :: rest, p, v => by
    have hargs := runOperands_eq .functionArgument args (p.parent?.getD p)
    have ih := runCalls_eq rest p
    rw [runCalls, Plain.calls, hargs, Place.scope_parent, Place.value_scope]
    simp only [ih]

theorem runOperands_eq (site : ModifierSite) : ∀ (os : List Operand) (p : Place),
    runOperands r site os p = Plain.operands r refused site os p.scope
  | [], p => by
    rw [runOperands, Plain.operands]
  | o :: rest, p => by
    rw [runOperands, Plain.operands, runOperand_eq site o p, runOperands_eq site rest p]

/-- An operand at a place has the value that it has in the place's scope. -/
theorem runOperand_eq (site : ModifierSite) : ∀ (o : Operand) (p : Place),
    runOperand r site o p = Plain.operand r refused site o p.scope
  | .literal v, p => by
    rw [runOperand, Plain.operand]
  | .query q, p => by
    rw [runOperand, Plain.operand, runNested_eq site q p]

theorem runNested_eq (site : ModifierSite) : ∀ (q : Query) (p : Place),
    runNested r site q p = Plain.nested r refused site q p.scope
  | .single st, p => by
    rw [runNested, Plain.nested, runCommands_none st p]
    simp only [bind_assoc, pure_bind, Outcome.result]
    rw [show (Plain.read r refused st p.scope >>= fun v => Except.ok v)
        = Plain.read r refused st p.scope from bind_pure _]
  | .piped sts, p => by
    rw [runNested, Plain.nested, runPiped_eq sts p]

theorem runPiped_eq : ∀ (sts : List Statement) (p : Place),
    runPiped r sts p = Plain.piped r refused sts p.scope
  | [], p => by
    rw [runPiped, Plain.piped, Place.value_scope]
  | st :: rest, p => by
    have ih := runPiped_eq rest
    rw [runPiped, Plain.piped, runCommands_none st p]
    simp only [bind_assoc, pure_bind, Outcome.result, ok_bind, ih, Place.scope_root]

end

/-! ## §4. How chains of calls end. -/

theorem Registry.get?_of_resolve {r : Registry} {name : String} {v : Json} {given : Nat}
    {f : Function} (h : r.resolve name v given = .ok f) : r.get? name = some f := by
  unfold Registry.resolve at h
  split at h
  · cases h
  · rename_i g hg
    split at h
    · cases h
    · split at h
      · cases h
      · injection h with h
        rw [hg, h]

/-- A chain of calls that ends well produces a result in read mode and a new value for its place in
write mode. -/
theorem Plain.mode_of_calls {r : Registry} {refuse : ModifierSite → QueryError} {s : Scope}
    {result : ChainEnd} :
    ∀ {cs : List Call} {v : Json}, Plain.calls r refuse cs s v = .ok result →
      (r.mode (.call cs) = .read ∧ ∃ w, result = .produced w)
        ∨ (r.mode (.call cs) = .write ∧ ∃ w, result = .modified w)
  | [], v, h => by
    rw [Plain.calls] at h
    injection h with h
    exact .inr ⟨rfl, v, h.symm⟩
  | .mk name args :: rest, v, h => by
    rw [Plain.calls] at h
    obtain ⟨f, hf, h⟩ := bind_eq_ok_iff.mp h
    obtain ⟨values, -, h⟩ := bind_eq_ok_iff.mp h
    obtain ⟨w, -, h⟩ := bind_eq_ok_iff.mp h
    have hget := Registry.get?_of_resolve (runtime_eq_ok_iff.mp hf)
    split at h
    · rename_i hm
      -- a modifier: the calls behind it decide, if there are any
      have ih := mode_of_calls h
      cases rest with
      | nil =>
        rw [Plain.calls] at h
        injection h with h
        refine .inr ⟨?_, w, h.symm⟩
        simp [Registry.mode, Call.name, hget, hm]
      | cons c rest =>
        simpa only [Registry.mode, List.getLast?_cons_cons] using ih
    · rename_i hm
      -- a producer, which is only allowed to come last
      cases rest with
      | nil =>
        injection h with h
        refine .inl ⟨?_, w, h.symm⟩
        simp [Registry.mode, Call.name, hget, hm]
      | cons c rest => cases h

/-! ## §5. With a draft that nothing is written to. -/

variable {r}

/-- A statement that ends in a producer reads its draft as the document was. -/
theorem runCommands_read {allowed : Float → Prop} {calls : List Call}
    (hm : r.mode (.call calls) = .read) {d : Draft} :
    ∀ (cs : List Command) (p : Place), cs.getLast? = some (.call calls) →
      d.get? p.path = some p.value → p.value.Lawful allowed →
      runCommands r .read cs p (some d) = do
        let v ← Plain.read r refused cs p.scope
        return (.value v, some d)
  | [], p, hcs, _, _ => by cases hcs
  | [last], p, hcs, hd, _ => by
    cases hcs
    rw [runCommands_singleton, runLast, Plain.read, Plain.readLast, Place.value_scope]
    simp only [hd, pure_bind, runCalls_eq, bind_assoc]
    -- in read mode the chain has produced a result, so the draft is not written to
    refine bind_congr_of_ok fun result hresult => ?_
    rcases Plain.mode_of_calls hresult with ⟨-, w, rfl⟩ | ⟨hw, -⟩
    · rfl
    · rw [hm] at hw
      cases hw
  | .select key :: next :: rest, p, hcs, hd, hp => by
    rw [List.getLast?_cons_cons] at hcs
    rw [runCommands_select, Plain.read, Place.value_scope, Json.select]
    simp only [bind_assoc, pure_bind]
    refine bind_congr_of_ok fun s hs => ?_
    have hslot := runtime_eq_ok_iff.mp hs
    have hchild : d.get? (p.enter s).path = some s.2 := by
      rw [Place.path_enter, Draft.get?_append_singleton hd, Json.child?_of_slot hslot]
    exact runCommands_read hm (next :: rest) (p.enter s) hcs hchild (hp.slot hslot)
  | .iterate span :: next :: rest, p, hcs, hd, hp => by
    rw [List.getLast?_cons_cons] at hcs
    rw [runCommands_iterate_read, Plain.read, Place.value_scope, Json.collect_eq]
    simp only [bind_assoc, pure_bind]
    refine bind_congr_of_ok fun ss hss => ?_
    have hslots := runtime_eq_ok_iff.mp hss
    have hvisit : ∀ s ∈ ss, runCommands r .read (next :: rest) (p.enter s) (some d) = do
        let v ← Plain.read r refused (next :: rest) (p.scope.enter s.2)
        return (.value v, some d) := by
      intro s hs
      -- no visit changes the draft, so each slot is still found in it
      have hchild : d.get? (p.enter s).path = some s.2 := by
        rw [Place.path_enter, Draft.get?_append_singleton hd,
          Json.child?_of_mem_slots hp hslots hs]
      exact runCommands_read hm (next :: rest) (p.enter s) hcs hchild (hp.slots hslots hs)
    rw [Visit.collect_eq (f := fun child => Plain.read r refused (next :: rest)
      (p.scope.enter child)) ss hvisit]
    simp only [bind_assoc, pure_bind]
  | .assign target value :: next :: rest, p, _, _, _ => by
    rw [runCommands_terminal r rfl, Plain.read_terminal rfl]
    rfl
  | .call cs :: next :: rest, p, _, _, _ => by
    rw [runCommands_terminal r rfl, Plain.read_terminal rfl]
    rfl
  | .list items :: next :: rest, p, _, _, _ => by
    rw [runCommands_terminal r rfl, Plain.read_terminal rfl]
    rfl

end JsonQuery
