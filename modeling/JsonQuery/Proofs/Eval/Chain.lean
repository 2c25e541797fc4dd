/-
  JsonQuery.Proofs.Eval.Chain
  ───────────────────────────
  Cutting a chain of calls.

  A chain keeps the results of its calls to itself and writes, if at all, once.  Cut into
  two statements it writes twice and navigates in between.  Behind modifiers both come to
  the same, because the steps of the second statement lead to what the first one wrote
  there (`Statement.run_chain_append`); only a function that looks at the document, and not
  only at the value it is applied to, could tell.

  What a chain does at a value is one function, whether the statement reads or writes
  (`Plain.chain`), and a statement goes along its steps to it (`Statement.run_chain`).
-/
import JsonQuery.Proofs.Eval.Scope
import JsonQuery.Proofs.Eval.Steps
import JsonQuery.Proofs.Function.Standard

namespace JsonQuery

/-! ## §1. Functions and modes. -/

/-- The function does not look at the document at the place of the call. -/
def Function.IgnoresData (f : Function) : Prop :=
  ∀ (call : Invocation) (data : Json), f.run { call with data } = f.run call

/-- The call names a modifier of the registry. -/
def Registry.Modifies (r : Registry) (c : Call) : Prop :=
  ∃ f, r.get? c.name = some f ∧ f.role = .modifier

/-- The arguments of the call are literals whose objects have distinct keys. -/
def Call.OfLiterals (c : Call) : Prop := ∀ o ∈ c.args, ∃ v : Json, v.Distinct ∧ o = .literal v

/-- No standard function looks at the document. -/
theorem Registry.ignoresData_standard : ∀ f ∈ standard.functions, f.IgnoresData := by
  have hall : ∀ f ∈ [Function.sort, .rsort, .upper, .lower, .replace, .len, .keys, .sum, .test],
      f.IgnoresData := by
    simp only [List.forall_mem_cons]
    refine ⟨?_, ?_, ?_, ?_, ?_, ?_, ?_, ?_, ?_, List.forall_mem_nil _⟩
    all_goals exact fun call data => rfl
  exact fun f hf => hall f (mem_ofList hf)

/-- What is behind modifiers decides whether a chain writes. -/
theorem Registry.mode_append (r : Registry) (fs : List Call) {gs : List Call} (hgs : gs ≠ []) :
    r.mode (.call (fs ++ gs)) = r.mode (.call gs) := by
  cases hlast : gs.getLast? with
  | none => exact absurd (List.getLast?_eq_none_iff.mp hlast) hgs
  | some c =>
    have happend : (fs ++ gs).getLast? = some c := by
      rw [List.getLast?_append, hlast]
      rfl
    simp only [mode, hlast, happend]

/-- A chain of modifiers writes. -/
theorem Registry.mode_of_modifies {r : Registry} {fs : List Call}
    (hfs : ∀ c ∈ fs, r.Modifies c) : r.mode (.call fs) = .write := by
  cases hlast : fs.getLast? with
  | none => simp only [mode, hlast, Option.bind_none]
  | some c =>
    obtain ⟨f, hf, hrole⟩ := hfs c (List.mem_of_getLast? hlast)
    have hm : f.isModifier = true := by
      rw [Function.isModifier, hrole]
      rfl
    simp only [mode, hlast, Option.bind_some, hf, hm, if_true]

/-! ## §2. What a chain does at a value. -/

namespace Plain

variable {r : Registry} {refuse : ModifierSite → QueryError} {fs gs : List Call}

/-- The value that a chain ends with when it is applied to a whole document. -/
def chain (r : Registry) (cs : List Call) (v : Json) : Except QueryError Json := do
  let result ← calls r refused cs (.root v) v
  return result.value

/-- Modifiers hand their results on to the calls behind them. -/
theorem calls_append (hfs : ∀ c ∈ fs, r.Modifies c) (gs : List Call) (s : Scope) (v : Json) :
    calls r refuse (fs ++ gs) s v
      = calls r refuse fs s v >>= fun result => calls r refuse gs s result.value := by
  induction fs generalizing v with
  | nil =>
    rw [calls]
    rfl
  | cons c rest ih =>
    obtain ⟨name, args⟩ := c
    obtain ⟨⟨f, hget, hrole⟩, hrest⟩ := List.forall_mem_cons.mp hfs
    rw [List.cons_append, calls, calls]
    simp only [bind_assoc]
    refine bind_congr_of_ok fun f' hf' => bind_congr_of_ok fun values _ =>
      bind_congr_of_ok fun w _ => ?_
    -- the function that the call resolves to is the modifier
    have hf : f' = f := by
      have hget' := Registry.get?_of_resolve (runtime_eq_ok_iff.mp hf')
      rw [show r.get? name = some f from hget] at hget'
      exact (Option.some.inj hget').symm
    have hm : f'.isModifier = true := by
      rw [hf, Function.isModifier, hrole]
      rfl
    rw [if_pos hm, if_pos hm, ih hrest]

/-- Where no function looks at the document, a chain is its modifiers and then the rest. -/
theorem chain_append (hdata : ∀ f ∈ r.functions, f.IgnoresData) (hfs : ∀ c ∈ fs, r.Modifies c)
    (hgs : ∀ c ∈ gs, ∀ o ∈ c.args, ∃ v, o = .literal v) (v : Json) :
    chain r (fs ++ gs) v = chain r fs v >>= chain r gs := by
  unfold chain
  rw [calls_append hfs]
  simp only [bind_assoc, pure_bind]
  refine bind_congr_of_ok fun result _ => ?_
  -- the rest now runs on the modifiers' result, which is no longer the value at its place
  have hscope : calls r refused gs (.root v) result.value
      = calls r refused gs (.root result.value) result.value :=
    calls_scope (fun f hf name w args => hdata f hf ⟨name, result.value, w, args⟩ v) hgs
      result.value
  rw [hscope]

end Plain

/-! ## §3. Statements. -/

namespace Statement

variable {r : Registry} {allowed : Float → Prop} {document : Json} {steps : Statement}
  {fs gs cs : List Call}

/-- A statement that ends in a chain goes along its steps to what the chain does. -/
theorem run_chain (hd : document.Lawful allowed) (hsteps : ∀ c ∈ steps, c.isTerminal = false)
    (hcs : ∀ c ∈ cs, ∀ o ∈ c.args, ∃ v, o = .literal v) :
    Statement.run r (steps ++ [.call cs]) document
      = document.along (r.mode (.call cs)) (Plain.chain r cs) steps := by
  have hscope : ∀ s : Plain.Scope, Plain.calls r refused cs s s.value
      = Plain.calls r refused cs (.root s.value) s.value := fun s =>
    Plain.calls_scope (s := s) (t := .root s.value) (fun _ _ _ _ _ => rfl) hcs s.value
  cases hm : r.mode (.call cs) with
  | read =>
    refine run_append_read hd hsteps rfl hm fun s => ?_
    rw [Plain.read, Plain.readLast, hscope, Plain.chain]
    refine bind_congr_of_ok fun result hresult => ?_
    -- in read mode the chain has produced a result
    rcases Plain.mode_of_calls hresult with ⟨-, w, rfl⟩ | ⟨hw, -⟩
    · rfl
    · rw [hm] at hw
      cases hw
  | write =>
    refine run_append_write hd hsteps hm fun s => ?_
    rw [Plain.update, hscope, Plain.chain]

/-- A lone call is its function applied to the document, whatever becomes of the result. -/
theorem run_call (r : Registry) (name : String) (args : List Json) (document : Json) :
    Statement.run r [.call [.mk name (args.map .literal)]] document
      = runtime (do
          let f ← r.resolve name document args.length
          f.run ⟨name, document, document, args⟩) := by
  have hlast : [Command.call [.mk name (args.map .literal)]].getLast?
      = some (.call [.mk name (args.map .literal)]) := rfl
  have hdraft : (Command.call [.mk name (args.map .literal)]).needsDraft = true := rfl
  have hroot : (⟨document⟩ : Draft).get? (Place.root document).path = some document := rfl
  have hvalue : Plain.Scope.value (.root document) = document := rfl
  rw [run_of_getLast? hlast, if_pos hdraft, runCommands_singleton, runLast]
  simp only [hroot, pure_bind, runCalls_eq, Place.scope_root]
  rw [Plain.calls, List.length_map, Plain.operands_map_literal]
  cases r.resolve name document args.length with
  | error e => rfl
  | ok f =>
    simp only [runtime_ok, ok_bind, hvalue]
    cases f.run ⟨name, document, document, args⟩ with
    | error e => rfl
    | ok result =>
      simp only [runtime_ok, ok_bind]
      -- a modifier's result replaces the draft, a producer's is yielded beside it
      split
      · rw [Plain.calls]
        rfl
      · rfl

/-- What is held by a statement of steps and a chain of literals. -/
theorem holds_chain (hsteps : ∀ c ∈ steps, c.isTerminal = false) (hcs : ∀ c ∈ cs, c.OfLiterals)
    {site : ModifierSite} {o : Operand}
    (h : (Query.single (steps ++ [.call cs])).Holds site o) :
    ∃ v : Json, v.Distinct ∧ o = .literal v := by
  generalize hq : Query.single (steps ++ [.call cs]) = q at h
  induction h with
  | here hst hc ho =>
    subst hq
    rw [List.mem_singleton.mp hst] at hc
    rcases List.mem_append.mp hc with hc | hc
    · have hterminal := ho.isTerminal
      rw [hsteps _ hc] at hterminal
      cases hterminal
    · rw [List.mem_singleton.mp hc] at ho
      cases ho with
      | argument hmem harg => exact hcs _ hmem _ harg
  | inside _ _ ih _ =>
    -- a literal holds nothing
    obtain ⟨v, -, hv⟩ := ih hq
    cases hv

/-- What a statement of steps and a chain yields is lawful again. -/
theorem distinct_of_run_chain {reports : RuntimeError → Prop}
    (hr : r.Behaved (fun _ => True) reports) (hd : document.Distinct)
    (hsteps : ∀ c ∈ steps, c.isTerminal = false) (hcs : ∀ c ∈ cs, c.OfLiterals) {d : Json}
    (h : Statement.run r (steps ++ [.call cs]) document = .ok d) : d.Distinct := by
  have hliterals : ∀ site v, (Query.single (steps ++ [.call cs])).Holds site (.literal v) →
      v.Distinct := by
    intro site v hv
    obtain ⟨w, hw, hvw⟩ := holds_chain hsteps hcs hv
    injection hvw with hvw
    exact hvw ▸ hw
  rw [run_eq_plain hd] at h
  exact (Plain.within_statement (Query.bounded_true hr hliterals refused)
    (.top (List.mem_singleton_self _)) hd).of_ok h

/-- A chain may be cut behind modifiers: as one statement it yields what it does as two of which the
second one runs on the result of the first. Where the steps lead to one value only, it also fails
as the two do. -/
theorem run_chain_append {reports : RuntimeError → Prop}
    (hr : r.Behaved (fun _ => True) reports) (hdata : ∀ f ∈ r.functions, f.IgnoresData)
    (hd : document.Distinct) (hsteps : ∀ c ∈ steps, c.isTerminal = false)
    (hfs : ∀ c ∈ fs, r.Modifies c) (hgs : gs ≠ []) (hargs : ∀ c ∈ fs ++ gs, c.OfLiterals) :
    (∀ x, Statement.run r (steps ++ [.call (fs ++ gs)]) document = .ok x ↔
        (Query.piped [steps ++ [.call fs], steps ++ [.call gs]]).run r document = .ok x)
      ∧ ((∀ span, .iterate span ∉ steps) →
          Statement.run r (steps ++ [.call (fs ++ gs)]) document
            = (Query.piped [steps ++ [.call fs], steps ++ [.call gs]]).run r document) := by
  obtain ⟨hfargs, hgargs⟩ := List.forall_mem_append.mp hargs
  have hliterals : ∀ cs : List Call, (∀ c ∈ cs, c.OfLiterals) →
      ∀ c ∈ cs, ∀ o ∈ c.args, ∃ v, o = .literal v := by
    intro cs hcs c hc o ho
    obtain ⟨v, -, hv⟩ := hcs c hc o ho
    exact ⟨v, hv⟩
  have hone : Statement.run r (steps ++ [.call (fs ++ gs)]) document
      = document.along (r.mode (.call gs))
          (fun c => Plain.chain r fs c >>= Plain.chain r gs) steps := by
    rw [run_chain hd hsteps (hliterals _ hargs), r.mode_append fs hgs]
    exact congrArg (fun f => document.along (r.mode (.call gs)) f steps)
      (funext fun c => Plain.chain_append hdata hfs (hliterals gs hgargs) c)
  have htwo : (Query.piped [steps ++ [.call fs], steps ++ [.call gs]]).run r document
      = document.along .write (Plain.chain r fs) steps >>= fun d =>
          d.along (r.mode (.call gs)) (Plain.chain r gs) steps := by
    rw [run_pair, ← Registry.mode_of_modifies hfs, ← run_chain hd hsteps (hliterals fs hfargs)]
    -- the second statement runs on a lawful document, too
    refine bind_congr_of_ok fun d hrun => ?_
    rw [run_chain (distinct_of_run_chain hr hd hsteps hfargs hrun) hsteps (hliterals gs hgargs)]
  rw [hone, htwo]
  exact ⟨fun x => Json.along_bind_eq_ok_iff, fun hselectors => Json.along_bind hselectors⟩

/-- Lists sorted and measured at once, and sorted in place first and measured then. -/
theorem run_chain_append_sort_len :
    Statement.run .standard ([.iterate .all] ++ [.call ([.mk "sort" []] ++ [.mk "len" []])])
      (.arr [.arr [.int 2, .int 1], .arr [.int 3]]) = .ok (.arr [.int 2, .int 1]) := by
  have hd : (Json.arr [.arr [.int 2, .int 1], .arr [.int 3]]).Distinct := by decide
  have hsteps : ∀ c ∈ [Command.iterate .all], c.isTerminal = false := by decide
  have hsort : ∀ c ∈ [Call.mk "sort" []], Registry.standard.Modifies c :=
    List.forall_mem_singleton.mpr ⟨.sort, rfl, rfl⟩
  have hargs : ∀ c ∈ [Call.mk "sort" []] ++ [Call.mk "len" []], c.OfLiterals := by
    simp [Call.OfLiterals, Call.args]
  exact ((run_chain_append Registry.behaved_standard Registry.ignoresData_standard hd hsteps hsort
    (List.cons_ne_nil _ _) hargs).1 _).mpr rfl

end Statement

end JsonQuery
