/-
  JsonQuery.Proofs.Eval.Navigation
  ────────────────────────────────
  Reading in two parts.

  Steps at the beginning of a statement that reads may be taken on their own: they yield
  values in the shape of the containers that their iterators went through, and the rest of
  the statement, run as a statement on each of those values, yields what stands in their
  place in the end (`Statement.run_append`).

  The rest then runs on a whole document where it used to run on a part of one.  Its calls
  could tell the two apart by arguments that are queries, and only by those.
-/
import JsonQuery.Proofs.Eval.Chain

namespace JsonQuery

/-- Whether a statement that ends in the command reads: it is a step, a list, or a chain of calls of
which the last names a registered producer. -/
inductive Registry.Reads (r : Registry) : Command → Prop
  | select (key : Key) : Reads r (.select key)
  | iterate (span : Span) : Reads r (.iterate span)
  | list (items : List Operand) : Reads r (.list items)
  | call {calls : List Call} {c : Call} {f : Function} : calls.getLast? = some c →
      r.get? c.name = some f → f.role = .producer → Reads r (.call calls)

theorem Registry.Reads.mode {r : Registry} {last : Command} (h : r.Reads last) :
    r.mode last = .read := by
  cases h with
  | call hc hf hrole =>
    unfold Registry.mode
    simp only [hc, Option.bind_some, hf, Function.isModifier, hrole]
    rfl
  | _ => rfl

namespace Statement

variable {r : Registry} {allowed : Float → Prop} {document : Json} {steps tail : Statement}
  {last : Command}

/-- A statement that reads is its steps, and the rest as a statement where they lead to. -/
theorem run_append_eq_along (hd : document.Lawful allowed)
    (hsteps : ∀ c ∈ steps, c.isTerminal = false) (hlast : tail.getLast? = some last)
    (hm : r.mode last = .read) (hcalls : (Query.single tail).CallsLiterals) :
    Statement.run r (steps ++ tail) document
      = document.along .read (Statement.run r tail) steps := by
  have hholds : ∀ c ∈ tail, ∀ site o, c.Holds site o → (Query.single tail).Holds site o :=
    fun c hc site o ho => .here (List.mem_singleton_self tail) hc ho
  have hinner : ∀ s : Plain.Scope, Plain.read r refused tail s
      = Plain.read r refused tail (.root s.value) :=
    fun s => Plain.read_scope hcalls tail s (.root s.value) hholds rfl
  rw [run_append_read (f := fun c => Plain.read r refused tail (.root c)) hd hsteps hlast hm hinner]
  -- the steps lead to lawful values, on which the rest computes its plain meaning
  refine Json.along_congr hd fun c hc => ?_
  rw [run_eq_plain hc, Plain.statement_of_read hlast hm]

/-- Reading may be cut behind steps: the statement succeeds exactly if the steps do and the rest
does, as a statement of its own, on each value that they address, and it yields what the steps yield
with the rest's results in place of those values. Where there is one such value, the statement is
the steps piped into the rest, also in how it fails. -/
theorem run_append (hd : document.Distinct) (hsteps : ∀ c ∈ steps, c.isTerminal = false)
    (hlast : tail.getLast? = some last) (hreads : r.Reads last)
    (hcalls : (Query.single tail).CallsLiterals) :
    (∀ x, Statement.run r (steps ++ tail) document = .ok x ↔
        ∃ shape, Statement.run r steps document = .ok shape
          ∧ shape.atDepth (Statement.run r tail) (depth steps) = .ok x)
      ∧ ((∀ span, .iterate span ∉ steps) →
          Statement.run r (steps ++ tail) document
            = (Query.piped [steps, tail]).run r document) := by
  have hone := run_append_eq_along hd hsteps hlast hreads.mode hcalls
  have hshape : Statement.run r steps document = document.along .read .ok steps :=
    run_steps hd hsteps
  rw [hone, run_pair, hshape]
  refine ⟨fun x => ⟨fun h => ?_, ?_⟩, fun hselectors => ?_⟩
  · obtain ⟨shape, hs⟩ : ∃ shape, document.along .read .ok steps = .ok shape :=
      Json.exists_along h fun c c' _ => ⟨c, rfl⟩
    rw [Json.along_read_eq hs] at h
    exact ⟨shape, hs, h⟩
  · rintro ⟨shape, hs, h⟩
    rw [Json.along_read_eq hs, h]
  · cases hs : document.along .read .ok steps with
    | error e =>
      exact Json.along_eq_error hs (fun c hc => by cases hc)
        fun span hspan => absurd hspan (hselectors span)
    | ok shape =>
      rw [Json.along_read_eq hs, depth_eq_zero hselectors]
      rfl

/-- The lengths of what stands under a key in each entry. -/
theorem run_append_lengths :
    Statement.run .standard
        ([.iterate .all] ++ [.select (.name "a"), .call [.mk "len" []]])
        (.obj [("x", .obj [("a", .arr [.null, .null])]), ("y", .obj [("a", .arr [.null])])])
      = .ok (.obj [("x", .int 2), ("y", .int 1)]) := by
  have hd : (Json.obj [("x", .obj [("a", .arr [.null, .null])]),
      ("y", .obj [("a", .arr [.null])])]).Distinct := by decide
  have hsteps : ∀ c ∈ [Command.iterate .all], c.isTerminal = false := by decide
  have hreads : Registry.standard.Reads (.call [.mk "len" []]) := .call rfl rfl rfl
  have hcalls : (Query.single [.select (.name "a"), .call [.mk "len" []]]).CallsLiterals := by
    intro sub hsub
    have hsteps : ∀ c ∈ [Command.select (.name "a")], c.isTerminal = false := by decide
    have hlen : ∀ c ∈ [Call.mk "len" []], c.OfLiterals := by simp [Call.OfLiterals, Call.args]
    obtain ⟨v, -, hv⟩ := holds_chain hsteps hlen hsub
    cases hv
  refine ((run_append hd hsteps rfl hreads hcalls).1 _).mpr ⟨_, rfl, rfl⟩

end Statement

end JsonQuery
