/-
  JsonQuery.Proofs.Eval.Steps
  ───────────────────────────
  Statements that begin with steps.

  Selectors and iterators at the beginning of a statement only lead to values; what the
  rest of the statement does there is done along them.  So a statement is its steps and a
  function on values, as far as the rest looks at the value it has been led to and not at
  those that hold it.

  Main results:
    * `Statement.run_steps` — steps alone read the values that they lead to;
    * `Statement.run_append_read`, `Statement.run_append_write` — steps before other
      commands go along to them.
-/
import JsonQuery.Proofs.Document.Along
import JsonQuery.Proofs.Eval.Writing

namespace JsonQuery

variable {r : Registry} {f : Json → Except QueryError Json} {steps : Statement}

/-! ## §1. Reading and updating. -/

namespace Plain

variable {refuse : ModifierSite → QueryError}

/-- A last step leads to values that are read as they are. -/
theorem readLast_step {step : Command} (h : step.isTerminal = false) (s : Scope) :
    readLast r refuse step s = s.value.along .read .ok [step] := by
  cases step with
  | select key =>
    rw [readLast, Json.along_select_read]
    exact (bind_pure (s.value.select key)).symm
  | iterate span =>
    show _ = (s.value.focus (.iterate span) >>= fun F => _)
    rw [readLast, Json.slice_eq]
    refine bind_congr_of_ok fun F _ => ?_
    show _ = (F.parts.mapM Except.ok >>= _)
    rw [mapM_ok]
    rfl
  | _ => cases h

/-- Reading steps and other commands is going along the steps to what the commands read. -/
theorem read_append {tail : List Command} (hsteps : ∀ c ∈ steps, c.isTerminal = false)
    (htail : ∀ s, read r refuse tail s = f s.value) (s : Scope) :
    read r refuse (steps ++ tail) s = s.value.along .read f steps := by
  induction steps generalizing s with
  | nil => exact htail s
  | cons step steps ih =>
    obtain ⟨hstep, hrest⟩ := List.forall_mem_cons.mp hsteps
    have ih := ih hrest
    rw [List.cons_append]
    cases hmore : steps ++ tail with
    | nil =>
      -- the step is the last command, and the values that it leads to are read as they are
      obtain ⟨rfl, rfl⟩ := List.append_eq_nil_iff.mp hmore
      have hf : f = .ok := by
        funext v
        rw [show f v = f (Scope.root v).value from rfl, ← htail, read]
        rfl
      rw [read, readLast_step hstep, hf]
    | cons next more =>
      rw [hmore] at ih
      cases step with
      | select key =>
        rw [read, Json.along_select_read]
        exact bind_congr_of_ok fun child _ => ih (s.enter child)
      | iterate span =>
        rw [read, Json.along_iterate_read]
        exact congrArg (s.value.collect span) (funext fun child => ih (s.enter child))
      | _ => cases hstep

/-- Updating by steps and a write is going along the steps to what is written. -/
theorem update_append {last : Command} (hsteps : ∀ c ∈ steps, c.isTerminal = false)
    (hlast : ∀ s, update r refuse [last] s = f s.value) (s : Scope) :
    update r refuse (steps ++ [last]) s = s.value.along .write f steps := by
  induction steps generalizing s with
  | nil => exact hlast s
  | cons step steps ih =>
    obtain ⟨hstep, hrest⟩ := List.forall_mem_cons.mp hsteps
    have ih := ih hrest
    rw [List.cons_append]
    cases step with
    | select key =>
      rw [update, Json.along_select_write]
      exact congrArg (s.value.updateAt key) (funext fun child => ih (s.enter child))
    | iterate span =>
      rw [update, Json.along_iterate_write]
      exact congrArg (s.value.updateAll span) (funext fun child => ih (s.enter child))
    | _ => cases hstep

end Plain

/-! ## §2. Statements. -/

namespace Statement

variable {allowed : Float → Prop} {document : Json}

/-- Steps alone read the values that they lead to. -/
theorem run_steps (hd : document.Lawful allowed) (hsteps : ∀ c ∈ steps, c.isTerminal = false) :
    Statement.run r steps document = document.along .read .ok steps := by
  have hm : ∀ last, steps.getLast? = some last → r.mode last = .read := by
    intro last hlast
    have hterminal := hsteps last (List.mem_of_getLast? hlast)
    cases last with
    | select key => rfl
    | iterate span => rfl
    | _ => cases hterminal
  have hread : Plain.read r refused (steps ++ []) (.root document)
      = document.along .read .ok steps :=
    Plain.read_append hsteps (fun s => by rw [Plain.read]) (.root document)
  rw [List.append_nil] at hread
  rw [run_eq_plain hd, Plain.statement_eq_read hm]
  exact hread

/-- A statement that reads goes along its steps to what the commands behind them read. -/
theorem run_append_read (hd : document.Lawful allowed)
    (hsteps : ∀ c ∈ steps, c.isTerminal = false) {tail : Statement} {last : Command}
    (hlast : tail.getLast? = some last) (hm : r.mode last = .read)
    (htail : ∀ s, Plain.read r refused tail s = f s.value) :
    Statement.run r (steps ++ tail) document = document.along .read f steps := by
  have hlast' : (steps ++ tail).getLast? = some last := by
    rw [List.getLast?_append, hlast]
    rfl
  rw [run_eq_plain hd, Plain.statement_of_read hlast' hm]
  exact Plain.read_append hsteps htail (.root document)

/-- A statement that writes goes along its steps to what its last command writes. -/
theorem run_append_write (hd : document.Lawful allowed)
    (hsteps : ∀ c ∈ steps, c.isTerminal = false) {last : Command} (hm : r.mode last = .write)
    (hlast : ∀ s, Plain.update r refused [last] s = f s.value) :
    Statement.run r (steps ++ [last]) document = document.along .write f steps := by
  rw [run_eq_plain hd, Plain.statement_of_write List.getLast?_concat hm]
  exact Plain.update_append hsteps hlast (.root document)

/-- Statements one after the other. -/
theorem run_pair (r : Registry) (s t : Statement) (document : Json) :
    (Query.piped [s, t]).run r document
      = Statement.run r s document >>= fun v => Statement.run r t v := by
  show [s, t].foldlM _ _ = _
  rw [List.foldlM_cons]
  refine bind_congr_of_ok fun v _ => ?_
  rw [List.foldlM_cons]
  exact bind_pure (Statement.run r t v)

end Statement

end JsonQuery
