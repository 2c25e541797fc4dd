/-
  JsonQuery.Proofs.Eval.Scope
  ───────────────────────────
  What commands look at.

  Commands look at the value that they are applied to.  The values that hold it are looked
  at by the arguments of calls alone, and only by those that are queries again.  So where
  the arguments of calls are literals, the holders do not matter (`Plain.read_scope`), and
  where besides no function looks at the document, neither does the value itself
  (`Plain.calls_scope`).
-/
import JsonQuery.Proofs.Eval.Reading
import JsonQuery.Proofs.Query.Shape

namespace JsonQuery

/-- No call of the query, at any depth, has a nested query as an argument. -/
def Query.CallsLiterals (q : Query) : Prop := ∀ sub, ¬ q.Holds .functionArgument (.query sub)

namespace Plain

variable {r : Registry} {refuse : ModifierSite → QueryError}

/-! ## §1. Calls. -/

theorem operands_literal (site : ModifierSite) {os : List Operand}
    (h : ∀ o ∈ os, ∃ v, o = .literal v) (s t : Scope) :
    operands r refuse site os s = operands r refuse site os t := by
  induction os with
  | nil => rw [operands, operands]
  | cons o rest ih =>
    obtain ⟨⟨v, rfl⟩, hrest⟩ := List.forall_mem_cons.mp h
    rw [operands, operands, operand, operand, ih hrest]

/-- Literals stand for themselves. -/
theorem operands_map_literal (site : ModifierSite) (vs : List Json) (s : Scope) :
    operands r refuse site (vs.map .literal) s = .ok vs := by
  induction vs with
  | nil => rw [List.map_nil, operands]
  | cons v vs ih =>
    rw [List.map_cons, operands, operand, ih]
    rfl

/-- Calls of literals in two scopes that no function tells apart. -/
theorem calls_scope {s t : Scope} (hrun : ∀ f ∈ r.functions, ∀ name v args,
      f.run ⟨name, s.value, v, args⟩ = f.run ⟨name, t.value, v, args⟩)
    {cs : List Call} (hargs : ∀ c ∈ cs, ∀ o ∈ c.args, ∃ v, o = .literal v) (v : Json) :
    calls r refuse cs s v = calls r refuse cs t v := by
  induction cs generalizing v with
  | nil => rw [calls, calls]
  | cons c rest ih =>
    obtain ⟨name, args⟩ := c
    obtain ⟨hfirst, hrest⟩ := List.forall_mem_cons.mp hargs
    have hvalues : operands r refuse .functionArgument args s.outer
        = operands r refuse .functionArgument args t.outer :=
      operands_literal _ hfirst s.outer t.outer
    rw [calls, calls, hvalues]
    refine bind_congr_of_ok fun f hf => bind_congr_of_ok fun values _ => ?_
    -- the function that a call names is a registered one
    have hmem : f ∈ r.functions :=
      List.mem_of_find?_eq_some (Registry.get?_of_resolve (runtime_eq_ok_iff.mp hf))
    rw [hrun f hmem]
    simp only [ih hrest]

/-! ## §2. Commands. -/

variable {root : Query}

mutual

/-- Reading does not look at what holds the value, if no argument of a call does. -/
theorem read_scope (h : root.CallsLiterals) : ∀ (cs : List Command) (s t : Scope),
    (∀ c ∈ cs, ∀ site o, c.Holds site o → root.Holds site o) → s.value = t.value →
    read r refuse cs s = read r refuse cs t
  | [], s, t, _, hv => by
    rw [read, read, hv]
  | [last], s, t, hc, hv => by
    have ih := readLast_scope h last s t
    rw [read, read]
    exact ih (hc last List.mem_cons_self) hv
  | .select key :: next :: rest, s, t, hc, hv => by
    have ih := read_scope h (next :: rest)
    have hrest := (List.forall_mem_cons.mp hc).2
    rw [read, read, hv]
    exact bind_congr_of_ok fun child _ => ih (s.enter child) (t.enter child) hrest rfl
  | .iterate span :: next :: rest, s, t, hc, hv => by
    have ih := read_scope h (next :: rest)
    have hrest := (List.forall_mem_cons.mp hc).2
    rw [read, read, hv]
    exact congrArg (t.value.collect span)
      (funext fun child => ih (s.enter child) (t.enter child) hrest rfl)
  -- a command that has to be last stands in front of others: neither scope is looked at
  | .assign target value :: next :: rest, s, t, _, _ => by
    rw [read_terminal rfl, read_terminal rfl]
  | .call cs :: next :: rest, s, t, _, _ => by
    rw [read_terminal rfl, read_terminal rfl]
  | .list items :: next :: rest, s, t, _, _ => by
    rw [read_terminal rfl, read_terminal rfl]

theorem readLast_scope (h : root.CallsLiterals) : ∀ (c : Command) (s t : Scope),
    (∀ site o, c.Holds site o → root.Holds site o) → s.value = t.value →
    readLast r refuse c s = readLast r refuse c t
  | .select key, s, t, _, hv => by
    rw [readLast, readLast, hv]
  | .iterate span, s, t, _, hv => by
    rw [readLast, readLast, hv]
  | .assign target value, s, t, hc, hv => by
    have ih := operand_scope h .assignmentValue value s t (hc _ _ (.assigned target value)) hv
    rw [readLast, readLast, ih]
  | .call cs, s, t, hc, hv => by
    -- an argument that is a query is held by the root
    have hargs : ∀ c ∈ cs, ∀ o ∈ c.args, ∃ v, o = .literal v := by
      intro c hmem o ho
      cases o with
      | literal v => exact ⟨v, rfl⟩
      | query sub => exact absurd (hc _ _ (.argument hmem ho)) (h sub)
    have hcalls : calls r refuse cs s t.value = calls r refuse cs t t.value :=
      calls_scope (fun _ _ _ _ _ => by rw [hv]) hargs t.value
    rw [readLast, readLast, hv, hcalls]
  | .list items, s, t, hc, hv => by
    have ih := operands_scope h .listElement items s t (fun o ho => hc _ _ (.element ho)) hv
    rw [readLast, readLast, ih]

theorem operands_scope (h : root.CallsLiterals) (site : ModifierSite) :
    ∀ (os : List Operand) (s t : Scope), (∀ o ∈ os, root.Holds site o) → s.value = t.value →
    operands r refuse site os s = operands r refuse site os t
  | [], s, t, _, _ => by
    rw [operands, operands]
  | o :: rest, s, t, ho, hv => by
    obtain ⟨ho, hrest⟩ := List.forall_mem_cons.mp ho
    have hfirst := operand_scope h site o s t ho hv
    have ih := operands_scope h site rest s t hrest hv
    rw [operands, operands, hfirst, ih]

theorem operand_scope (h : root.CallsLiterals) (site : ModifierSite) :
    ∀ (o : Operand) (s t : Scope), root.Holds site o → s.value = t.value →
    operand r refuse site o s = operand r refuse site o t
  | .literal v, s, t, _, _ => by
    rw [operand, operand]
  | .query q, s, t, ho, hv => by
    have ih := nested_scope h site q s t ho hv
    rw [operand, operand, ih]

theorem nested_scope (h : root.CallsLiterals) (site : ModifierSite) :
    ∀ (q : Query) (s t : Scope), root.Holds site (.query q) → s.value = t.value →
    nested r refuse site q s = nested r refuse site q t
  | .single st, s, t, hq, hv => by
    have hruns : root.Runs st := .nested hq (List.mem_singleton_self st)
    have ih := read_scope h st s t (fun _ hc _ _ ho => hruns.holds hc ho) hv
    rw [nested, nested, ih]
  | .piped sts, s, t, hq, hv => by
    have ih := piped_scope h sts s t (fun st hst => .nested hq hst) hv
    rw [nested, nested, ih]

/-- Of nested statements only the first one runs in the scope of their query. -/
theorem piped_scope (h : root.CallsLiterals) : ∀ (sts : List Statement) (s t : Scope),
    (∀ st ∈ sts, root.Runs st) → s.value = t.value →
    piped r refuse sts s = piped r refuse sts t
  | [], s, t, _, hv => by
    rw [piped, piped, hv]
  | st :: rest, s, t, hruns, hv => by
    have hst := hruns st List.mem_cons_self
    have ih := read_scope h st s t (fun _ hc _ _ ho => hst.holds hc ho) hv
    rw [piped, piped, ih]

end

end Plain

end JsonQuery
