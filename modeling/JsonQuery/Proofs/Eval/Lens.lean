/-
  JsonQuery.Proofs.Eval.Lens
  ──────────────────────────
  Reading and writing the same address.

  Steps and a key address a place under every value that the steps lead to.  Reads and
  writes of one address obey the laws of a lens: what was written is read back, writing
  what is there changes nothing, and of two writes only the second one shows.

  Each law is first one of a single container (`Json.assign`), whatever other key has the
  same text; going along the steps carries it to all containers at once.
-/
import JsonQuery.Proofs.Eval.Steps

namespace JsonQuery

/-! ## §1. One container. -/

namespace Json

variable {v w new : Json} {key : Key}

theorem assign_eq_ok_iff :
    v.assign key new = .ok w ↔ ∃ step, v.target key = .ok step ∧ v.setChild step new = w := by
  rw [assign_eq]
  exact map_eq_ok_iff

/-- What was assigned is read back. -/
theorem select_of_assign (h : v.assign key new = .ok w) : w.select key = .ok new := by
  obtain ⟨step, hstep, rfl⟩ := assign_eq_ok_iff.mp h
  rw [select, slot_setChild hstep]
  rfl

/-- Of two assignments only the second one shows. -/
theorem assign_of_assign (h : v.assign key new = .ok w) (other : Json) :
    w.assign key other = v.assign key other := by
  obtain ⟨step, hstep, rfl⟩ := assign_eq_ok_iff.mp h
  have hstep' : (v.setChild step new).target key = .ok step :=
    target_of_slot (slot_setChild hstep new)
  rw [assign_eq, assign_eq, hstep, hstep']
  exact congrArg Except.ok (setChild_setChild v step new other)

/-- Assigning what is there changes nothing. -/
theorem eq_of_assign_select (hnew : v.select key = .ok new) (h : v.assign key new = .ok w) :
    w = v := by
  obtain ⟨s, hs, hnew⟩ := bind_eq_ok_iff.mp hnew
  injection hnew with hnew
  subst hnew
  have hslot := runtime_eq_ok_iff.mp hs
  obtain ⟨step, hstep, rfl⟩ := assign_eq_ok_iff.mp h
  rw [target_of_slot hslot] at hstep
  injection hstep with hstep
  subst hstep
  exact setChild_self (child?_of_slot hslot)

/-- Whether an assignment fails, and how, does not depend on the value. -/
theorem assign_eq_error {e : RuntimeError} (h : v.assign key new = .error e) (other : Json) :
    v.assign key other = .error e := by
  rw [assign_eq] at h ⊢
  cases hstep : v.target key with
  | error e' =>
    rw [hstep] at h
    exact h
  | ok step =>
    rw [hstep] at h
    cases h

theorem exists_assign (h : v.assign key new = .ok w) (other : Json) :
    ∃ w', v.assign key other = .ok w' := by
  obtain ⟨step, hstep, -⟩ := assign_eq_ok_iff.mp h
  exact ⟨v.setChild step other, assign_eq_ok_iff.mpr ⟨step, hstep, rfl⟩⟩

end Json

/-! ## §2. Reads and writes along steps. -/

namespace Statement

variable (r : Registry) {allowed : Float → Prop} {document : Json} {steps : Statement}

theorem run_read (hd : document.Lawful allowed) (hsteps : ∀ c ∈ steps, c.isTerminal = false)
    (key : Key) :
    Statement.run r (steps ++ [.select key]) document
      = document.along .read (fun c => c.select key) steps := by
  refine run_append_read hd hsteps rfl rfl fun s => ?_
  rw [Plain.read, Plain.readLast]

/-- An assignment of a literal. -/
theorem run_put (hd : document.Lawful allowed) (hsteps : ∀ c ∈ steps, c.isTerminal = false)
    (key : Key) (v : Json) :
    Statement.run r (steps ++ [.assign key (.literal v)]) document
      = document.along .write (fun c => runtime (c.assign key v)) steps := by
  refine run_append_write hd hsteps rfl fun s => ?_
  rw [Plain.update, Plain.operand]
  rfl

/-- An assignment of what stands at its target. -/
theorem run_restore (hd : document.Lawful allowed)
    (hsteps : ∀ c ∈ steps, c.isTerminal = false) (key : Key) :
    Statement.run r (steps ++ [.assign key (.query (.single [.select key]))]) document
      = document.along .write
          (fun c => c.select key >>= fun v => runtime (c.assign key v)) steps := by
  refine run_append_write hd hsteps rfl fun s => ?_
  rw [Plain.update, Plain.operand, Plain.nested, if_neg (by simp [Registry.endsInMutation,
    Registry.mutates]), Plain.read, Plain.readLast]

/-- Of two writes along the same steps only the second one shows, also in how they fail. -/
theorem along_assign_assign (v w : Json) (key : Key) :
    (document.along .write (fun c => runtime (c.assign key v)) steps >>= fun d =>
        d.along .write (fun c => runtime (c.assign key w)) steps)
      = document.along .write (fun c => runtime (c.assign key w)) steps := by
  cases h : document.along .write (fun c => runtime (c.assign key v)) steps with
  | error e =>
    have hfail : document.along .write (fun c => runtime (c.assign key w)) steps = .error e := by
      refine Json.along_eq_error h (fun c hc => ?_) fun span _ c c' hc => ?_
      · obtain ⟨e', he', hc⟩ := runtime_eq_error_iff.mp hc
        exact runtime_eq_error_iff.mpr ⟨e', Json.assign_eq_error he' w, hc⟩
      · obtain ⟨d, hd⟩ := Json.exists_assign (runtime_eq_ok_iff.mp hc) w
        exact ⟨d, runtime_eq_ok_iff.mpr hd⟩
    rw [hfail]
    rfl
  | ok d =>
    exact Json.along_of_write h fun c c' hc =>
      congrArg runtime (Json.assign_of_assign (runtime_eq_ok_iff.mp hc) w)

/-- Reads and writes of one address: what was written is read back wherever the steps lead, in the
shape in which they read; writing what is there changes nothing; and of two writes only the second
one shows, also in how they fail. -/
theorem lens_laws {v : Json} (hd : document.Distinct) (hv : v.Distinct)
    (hsteps : ∀ c ∈ steps, c.isTerminal = false) (key : Key) (w : Json) :
    (∀ d', Statement.run r (steps ++ [.assign key (.literal v)]) document = .ok d' →
        ∃ shape x, Statement.run r steps document = .ok shape
          ∧ Statement.run r (steps ++ [.select key]) d' = .ok x
          ∧ shape.atDepth (fun _ => .ok v) (depth steps) = .ok x)
      ∧ (∀ d', Statement.run r (steps ++ [.assign key (.query (.single [.select key]))]) document
            = .ok d' → d' = document)
      ∧ (Query.piped [steps ++ [.assign key (.literal v)],
            steps ++ [.assign key (.literal w)]]).run r document
          = Statement.run r (steps ++ [.assign key (.literal w)]) document := by
  have hwritten : ∀ d', Statement.run r (steps ++ [.assign key (.literal v)]) document = .ok d' →
      document.along .write (fun c => runtime (c.assign key v)) steps = .ok d' ∧ d'.Distinct := by
    intro d' h
    rw [run_put r hd hsteps] at h
    refine ⟨h, hd.along h fun c c' hc h => ?_⟩
    exact (Json.within_assign hc key hv).of_ok (runtime_eq_ok_iff.mp h)
  refine ⟨fun d' h => ?_, fun d' h => ?_, ?_⟩
  · -- the steps lead in the written document to what was written, and read as before
    obtain ⟨h, hd'⟩ := hwritten d' h
    obtain ⟨shape, hshape⟩ : ∃ shape, document.along .read .ok steps = .ok shape :=
      Json.exists_along h fun c c' _ => ⟨c, rfl⟩
    obtain ⟨x, hx⟩ : ∃ x, document.along .read (fun _ => .ok v) steps = .ok x :=
      Json.exists_along h fun c c' _ => ⟨v, rfl⟩
    refine ⟨shape, x, ?_, ?_, ?_⟩
    · rw [run_steps hd hsteps, hshape]
    · rw [run_read r hd' hsteps, ← hx]
      exact Json.along_of_write h fun c c' hc =>
        Json.select_of_assign (runtime_eq_ok_iff.mp hc)
    · rw [← Json.along_read_eq hshape, hx]
  · rw [run_restore r hd hsteps] at h
    refine Json.eq_of_along_write h fun c c' hc => ?_
    obtain ⟨new, hnew, hc⟩ := bind_eq_ok_iff.mp hc
    exact Json.eq_of_assign_select hnew (runtime_eq_ok_iff.mp hc)
  · rw [run_pair, run_put r hd hsteps key w, ← along_assign_assign v w key,
      ← run_put r hd hsteps key v]
    refine bind_congr_of_ok fun d' h => ?_
    rw [run_put r (hwritten d' h).2 hsteps]

/-- A key that one of two items has, written in both, read back and written again. -/
theorem lens_laws_items :
    ∃ d', Statement.run .empty ([.iterate .all] ++ [.assign (.name "b") (.literal (.int 7))])
          (.arr [.obj [("a", .int 1)], .obj [("b", .int 0), ("a", .int 2)]]) = .ok d'
      ∧ Statement.run .empty ([.iterate .all] ++ [.select (.name "b")]) d'
          = .ok (.arr [.int 7, .int 7])
      ∧ (Query.piped [[.iterate .all] ++ [.assign (.name "b") (.literal (.int 7))],
            [.iterate .all] ++ [.assign (.name "b") (.literal (.int 8))]]).run .empty
          (.arr [.obj [("a", .int 1)], .obj [("b", .int 0), ("a", .int 2)]])
        = .ok (.arr [.obj [("a", .int 1), ("b", .int 8)],
            .obj [("b", .int 8), ("a", .int 2)]]) := by
  have hd : (Json.arr [.obj [("a", .int 1)], .obj [("b", .int 0), ("a", .int 2)]]).Distinct := by
    decide
  have hsteps : ∀ c ∈ [Command.iterate .all], c.isTerminal = false := by decide
  obtain ⟨hget, -, hput⟩ := lens_laws .empty hd (.int 7) hsteps (.name "b") (.int 8)
  obtain ⟨shape, x, hshape, hread, hx⟩ := hget _ rfl
  injection hshape with hshape
  subst hshape
  injection hx with hx
  exact ⟨_, rfl, by rw [hread, ← hx]; rfl, hput⟩

end Statement

end JsonQuery
