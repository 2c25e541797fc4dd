/-
  JsonQuery.Proofs.Eval.Safety
  ────────────────────────────
  What running a query may lead to.

  A registry is `Behaved` when its functions take lawful values to lawful ones, and report
  failures of a given class only.  A query is `Bounded` by a class of failures that has
  those that its functions report, the failures of navigation and calls, those of nested
  queries that are refused, and those of commands that cannot run, as far as the query has
  such queries and commands.

  Every part of the query then leads to a lawful value or to a failure of the class.  The
  proof is one induction over the commands and the operands that they hold.
-/
import JsonQuery.Proofs.Document.Bounds
import JsonQuery.Proofs.Eval.Writing
import JsonQuery.Proofs.Query.Shape

namespace JsonQuery

/-! ## §1. Assumptions. -/

/-- The function takes lawful values to lawful ones, or reports a failure that it may report. -/
def Function.Behaved (f : Function) (allowed : Float → Prop) (reports : RuntimeError → Prop) :
    Prop :=
  ∀ call : Invocation, call.data.Lawful allowed → call.value.Lawful allowed →
    (∀ v ∈ call.args, v.Lawful allowed) → Within (Json.Lawful allowed) reports (f.run call)

/-- Every function of the registry is behaved. -/
def Registry.Behaved (r : Registry) (allowed : Float → Prop) (reports : RuntimeError → Prop) :
    Prop :=
  ∀ f ∈ r.functions, f.Behaved allowed reports

theorem Registry.Behaved.mono {r : Registry} {allowed : Float → Prop}
    {reports reports' : RuntimeError → Prop} (hr : r.Behaved allowed reports)
    (h : ∀ e, reports e → reports' e) : r.Behaved allowed reports' :=
  fun f hf call hdata hvalue hargs => (hr f hf call hdata hvalue hargs).mono h

/-- Commands of a statement that belongs to a query: the query holds their operands, and a command
that cannot stand where it does fails within `E`. -/
structure Query.Covers (root : Query) (E : QueryError → Prop) (cs : List Command) : Prop where
  operands : ∀ c ∈ cs, ∀ site o, c.Holds site o → root.Holds site o
  unrunnable : ∀ c ∈ cs.dropLast, c.isTerminal = true → E (.internal (.unrunnable c.name))

/-- What a query is written with leads to lawful values, or to failures within `E`. -/
structure Query.Bounded (r : Registry) (refuse : ModifierSite → QueryError)
    (allowed : Float → Prop) (E : QueryError → Prop) (root : Query) : Prop where
  functions : r.Behaved allowed fun e => E (.runtime e)
  literals : ∀ site v, root.Holds site (.literal v) → v.Lawful allowed
  ordinary : ∀ e : RuntimeError, e.Ordinary → E (.runtime e)
  fallback : ∀ site, E (refuse site)
  /-- A nested query that ends a statement in a write is refused before it runs. -/
  upfront : ∀ site sub, root.Holds site (.query sub) →
    (∃ st ∈ sub.statements, r.endsInMutation st) → E (.runtime (.modifierNotAllowed site))
  /-- A command that others follow may have to be the last one. -/
  unrunnable : ∀ st, root.Runs st → ∀ c ∈ st.dropLast, c.isTerminal = true →
    E (.internal (.unrunnable c.name))

theorem Query.Covers.tail {root : Query} {E : QueryError → Prop} {c next : Command}
    {rest : List Command} (h : root.Covers E (c :: next :: rest)) :
    root.Covers E (next :: rest) :=
  ⟨fun d hd => h.operands d (List.mem_cons_of_mem _ hd),
    fun d hd => h.unrunnable d (List.mem_cons_of_mem _ hd)⟩

theorem Query.Bounded.covers {r : Registry} {refuse : ModifierSite → QueryError}
    {allowed : Float → Prop} {E : QueryError → Prop} {root : Query}
    (h : root.Bounded r refuse allowed E) {st : Statement} (hst : root.Runs st) :
    root.Covers E st :=
  ⟨fun _ hc _ _ ho => hst.holds hc ho, h.unrunnable st hst⟩

/-- A value and the values that hold it are lawful. -/
structure Plain.Scope.Lawful (allowed : Float → Prop) (s : Scope) : Prop where
  value : s.value.Lawful allowed
  holders : ∀ v ∈ s.holders, v.Lawful allowed

namespace Plain

variable {allowed : Float → Prop}

theorem Scope.Lawful.root {document : Json} (h : document.Lawful allowed) :
    (Scope.root document).Lawful allowed :=
  ⟨h, fun _ hv => by cases hv⟩

theorem Scope.Lawful.enter {s : Scope} (hs : s.Lawful allowed) {child : Json}
    (hchild : child.Lawful allowed) : (s.enter child).Lawful allowed :=
  ⟨hchild, List.forall_mem_cons.mpr ⟨hs.value, hs.holders⟩⟩

theorem Scope.Lawful.outer {s : Scope} (hs : s.Lawful allowed) : s.outer.Lawful allowed := by
  obtain ⟨v, holders⟩ := s
  cases holders with
  | nil => exact hs
  | cons holder rest =>
    obtain ⟨hholder, hrest⟩ := List.forall_mem_cons.mp hs.holders
    exact ⟨hholder, hrest⟩

end Plain

theorem Registry.within_resolve (r : Registry) (name : String) (v : Json) (given : Nat) :
    Within (fun f => f ∈ r.functions) RuntimeError.Ordinary (r.resolve name v given) := by
  cases h : r.resolve name v given with
  | ok f => exact List.mem_of_find?_eq_some (Registry.get?_of_resolve h)
  | error e =>
    unfold Registry.resolve at h
    repeat' split at h
    all_goals cases h
    all_goals exact trivial

/-! ## §2. The induction. -/

namespace Plain

variable {r : Registry} {refuse : ModifierSite → QueryError} {allowed : Float → Prop}
  {E : QueryError → Prop} {root : Query}

mutual

theorem within_read (h : root.Bounded r refuse allowed E) : ∀ (cs : List Command) (s : Scope),
    root.Covers E cs → s.Lawful allowed →
    Within (Json.Lawful allowed) E (read r refuse cs s)
  | [], s, _, hs => by
    rw [read]
    exact hs.value
  | [last], s, hc, hs => by
    have ih := within_readLast h last s
    rw [read]
    exact ih (hc.operands last (List.mem_singleton_self _)) hs
  | .select key :: next :: rest, s, hc, hs => by
    have ih := within_read h (next :: rest)
    rw [read]
    exact (Json.within_select h.ordinary hs.value key).bind fun child hchild =>
      ih (s.enter child) hc.tail (hs.enter hchild)
  | .iterate span :: next :: rest, s, hc, hs => by
    have ih := within_read h (next :: rest)
    rw [read]
    exact Json.within_collect h.ordinary
      (fun child hchild => ih (s.enter child) hc.tail (hs.enter hchild)) hs.value span
  -- a command that has to be last stands in front of others, and cannot be run
  | .assign target value :: next :: rest, s, hc, _ => by
    rw [read_terminal rfl]
    exact hc.unrunnable _ List.mem_cons_self rfl
  | .call cs :: next :: rest, s, hc, _ => by
    rw [read_terminal rfl]
    exact hc.unrunnable _ List.mem_cons_self rfl
  | .list items :: next :: rest, s, hc, _ => by
    rw [read_terminal rfl]
    exact hc.unrunnable _ List.mem_cons_self rfl

theorem within_readLast (h : root.Bounded r refuse allowed E) : ∀ (c : Command) (s : Scope),
    (∀ site o, c.Holds site o → root.Holds site o) → s.Lawful allowed →
    Within (Json.Lawful allowed) E (readLast r refuse c s)
  | .select key, s, _, hs => by
    rw [readLast]
    exact Json.within_select h.ordinary hs.value key
  | .iterate span, s, _, hs => by
    rw [readLast]
    exact (Json.within_slice hs.value span).runtime h.ordinary
  | .assign target value, s, hc, hs => by
    have ih := within_operand h .assignmentValue value s
    rw [readLast]
    exact (ih (hc _ _ (.assigned target value)) hs).bind fun _ _ => h.fallback _
  | .call cs, s, hc, hs => by
    have ih := within_calls h cs s s.value
    -- a chain that ends with a new value for its place is refused
    rw [readLast]
    have hargs : ∀ c ∈ cs, ∀ o ∈ c.args, root.Holds .functionArgument o :=
      fun c hmem o ho => hc _ _ (.argument hmem ho)
    refine (ih hargs hs hs.value).bind fun result hresult => ?_
    cases result with
    | modified v =>
      -- nothing is known of the chain here, so the refusal has to be within the bound
      exact h.fallback _
    | produced v => exact hresult
  | .list items, s, hc, hs => by
    have ih := within_operands h .listElement items s
    rw [readLast]
    exact (ih (fun o ho => hc _ _ (.element ho)) hs).bind fun values hvalues => .arr hvalues

theorem within_calls (h : root.Bounded r refuse allowed E) : ∀ (cs : List Call) (s : Scope)
    (v : Json), (∀ c ∈ cs, ∀ o ∈ c.args, root.Holds .functionArgument o) →
    s.Lawful allowed → v.Lawful allowed →
    Within (fun result : ChainEnd => result.value.Lawful allowed) E (calls r refuse cs s v)
  | [], s, v, _, _, hv => by
    rw [calls]
    exact hv
  | .mk name args :: rest, s, v, hc, hs, hv => by
    have hargs := within_operands h .functionArgument args s.outer
    have ih := within_calls h rest s
    obtain ⟨hfirst, hrest⟩ := List.forall_mem_cons.mp hc
    rw [calls]
    -- the function is one of the registry, so what is assumed of those holds of it
    refine ((r.within_resolve name v args.length).runtime h.ordinary).bind fun f hf => ?_
    refine (hargs hfirst hs.outer).bind fun values hvalues => ?_
    refine ((h.functions f hf _ hs.value hv hvalues).runtime fun _ he => he).bind fun w hw => ?_
    split
    · exact ih w hrest hs hw
    · split
      · exact hw
      · exact h.ordinary _ trivial

theorem within_operands (h : root.Bounded r refuse allowed E) (site : ModifierSite) :
    ∀ (os : List Operand) (s : Scope),
    (∀ o ∈ os, root.Holds site o) → s.Lawful allowed →
    Within (fun vs => ∀ v ∈ vs, v.Lawful allowed) E (operands r refuse site os s)
  | [], s, _, _ => by
    rw [operands]
    exact List.forall_mem_nil _
  | o :: rest, s, ho, hs => by
    have hfirst := within_operand h site o s
    have ih := within_operands h site rest s
    obtain ⟨ho, hrest⟩ := List.forall_mem_cons.mp ho
    rw [operands]
    refine (hfirst ho hs).bind fun v hv => ?_
    exact (ih hrest hs).bind fun vs hvs => List.forall_mem_cons.mpr ⟨hv, hvs⟩

theorem within_operand (h : root.Bounded r refuse allowed E) (site : ModifierSite) :
    ∀ (o : Operand) (s : Scope),
    root.Holds site o → s.Lawful allowed →
    Within (Json.Lawful allowed) E (operand r refuse site o s)
  | .literal v, s, ho, _ => by
    rw [operand]
    exact h.literals site v ho
  | .query q, s, ho, hs => by
    have ih := within_nested h site q s
    rw [operand]
    exact ih ho hs

theorem within_nested (h : root.Bounded r refuse allowed E) (site : ModifierSite) :
    ∀ (q : Query) (s : Scope),
    root.Holds site (.query q) → s.Lawful allowed →
    Within (Json.Lawful allowed) E (nested r refuse site q s)
  | .single st, s, hq, hs => by
    have ih := within_read h st s
    have hst : st ∈ (Query.single st).statements := List.mem_singleton_self st
    rw [nested]
    split
    · -- refused before it runs
      rename_i hm
      exact h.upfront site _ hq ⟨st, hst, hm⟩
    · exact ih (h.covers (.nested hq hst)) hs
  | .piped sts, s, hq, hs => by
    have ih := within_piped h sts s
    rw [nested]
    split
    · rename_i hm
      exact h.upfront site _ hq (List.any_eq_true.mp hm)
    · exact ih (fun st hst => h.covers (.nested hq hst)) hs

theorem within_piped (h : root.Bounded r refuse allowed E) : ∀ (sts : List Statement) (s : Scope),
    (∀ st ∈ sts, root.Covers E st) → s.Lawful allowed →
    Within (Json.Lawful allowed) E (piped r refuse sts s)
  | [], s, _, hs => by
    rw [piped]
    exact hs.value
  | st :: rest, s, hc, hs => by
    have hfirst := within_read h st s
    have ih := within_piped h rest
    obtain ⟨hc, hrest⟩ := List.forall_mem_cons.mp hc
    rw [piped]
    exact (hfirst hc hs).bind fun v hv => ih (.root v) hrest (.root hv)

end

/-! ## §3. Statements and queries. -/

theorem within_update (h : root.Bounded r refuse allowed E) {last : Command}
    (hm : r.mode last = .write) : ∀ (cs : List Command) (s : Scope), cs.getLast? = some last →
    root.Covers E cs → s.Lawful allowed →
    Within (Json.Lawful allowed) E (update r refuse cs s)
  | [], s, hcs, _, _ => by cases hcs
  -- a command that writes is last, so none of those that only read
  | [.select key], s, hcs, _, _ => by
    cases hcs
    cases hm
  | [.iterate span], s, hcs, _, _ => by
    cases hcs
    cases hm
  | [.list items], s, hcs, _, _ => by
    cases hcs
    cases hm
  | [.assign target value], s, _, hc, hs => by
    have ho : root.Holds .assignmentValue value :=
      hc.operands _ List.mem_cons_self _ _ (.assigned target value)
    rw [update]
    refine (within_operand h .assignmentValue value s ho hs).bind fun v hv => ?_
    exact (Json.within_assign hs.value target hv).runtime h.ordinary
  | [.call cs], s, _, hc, hs => by
    have hargs : ∀ c ∈ cs, ∀ o ∈ c.args, root.Holds .functionArgument o :=
      fun c hmem o ho => hc.operands _ List.mem_cons_self _ _ (.argument hmem ho)
    rw [update]
    exact (within_calls h cs s s.value hargs hs hs.value).bind fun result hresult => hresult
  | .select key :: next :: rest, s, hcs, hc, hs => by
    rw [List.getLast?_cons_cons] at hcs
    rw [update]
    exact Json.within_updateAt h.ordinary (fun child hchild =>
      within_update h hm (next :: rest) (s.enter child) hcs hc.tail (hs.enter hchild)) hs.value key
  | .iterate span :: next :: rest, s, hcs, hc, hs => by
    rw [List.getLast?_cons_cons] at hcs
    rw [update]
    exact Json.within_updateAll h.ordinary (fun child hchild =>
      within_update h hm (next :: rest) (s.enter child) hcs hc.tail (hs.enter hchild)) hs.value span
  -- a command that has to be last stands in front of others, and cannot be run
  | .assign target value :: next :: rest, s, _, hc, _ => by
    rw [update_terminal rfl]
    exact hc.unrunnable _ List.mem_cons_self rfl
  | .call cs :: next :: rest, s, _, hc, _ => by
    rw [update_terminal rfl]
    exact hc.unrunnable _ List.mem_cons_self rfl
  | .list items :: next :: rest, s, _, hc, _ => by
    rw [update_terminal rfl]
    exact hc.unrunnable _ List.mem_cons_self rfl

theorem within_statement (h : root.Bounded r refuse allowed E) {st : Statement}
    (hst : root.Runs st) {document : Json} (hd : document.Lawful allowed) :
    Within (Json.Lawful allowed) E (statement r refuse st document) := by
  have hc := h.covers hst
  cases hlast : st.getLast? with
  | none =>
    unfold statement
    rw [hlast]
    exact hd
  | some last =>
    cases hm : r.mode last with
    | read =>
      rw [statement_of_read hlast hm]
      exact within_read h st _ hc (.root hd)
    | write =>
      rw [statement_of_write hlast hm]
      exact within_update h hm st _ hlast hc (.root hd)

/-- A query on a lawful document leads to a lawful value or fails within its bound. -/
theorem within_query (h : root.Bounded r refuse allowed E) {document : Json}
    (hd : document.Lawful allowed) :
    Within (Json.Lawful allowed) E (query r refuse root document) := by
  unfold query
  exact Within.foldlM (fun _ _ hst hd => within_statement h (.top hst) hd) hd

end Plain

/-! ## §4. Queries are plain. -/

theorem Query.bounded_true {r : Registry} {allowed : Float → Prop}
    {reports : RuntimeError → Prop} {q : Query} (hr : r.Behaved allowed reports)
    (hlit : ∀ site v, q.Holds site (.literal v) → v.Lawful allowed)
    (refuse : ModifierSite → QueryError) : q.Bounded r refuse allowed fun _ => True :=
  ⟨hr.mono fun _ _ => trivial, hlit, fun _ _ => trivial, fun _ => trivial,
    fun _ _ _ _ => trivial, fun _ _ _ _ _ => trivial⟩

/-- A query on a lawful document computes its plain meaning. -/
theorem Query.run_eq_plain {r : Registry} {allowed : Float → Prop}
    {reports : RuntimeError → Prop} {q : Query} (hr : r.Behaved allowed reports)
    (hlit : ∀ site v, q.Holds site (.literal v) → v.Lawful allowed) {document : Json}
    (hd : document.Lawful allowed) :
    q.run r document = Plain.query r refused q document := by
  have h := Query.bounded_true hr hlit refused
  unfold Query.run Plain.query
  -- the invariant is that the document between two statements is lawful
  refine foldlM_congr (fun d st hst hd => ?_) hd
  exact ⟨Statement.run_eq_plain hd st,
    fun v hv => (Plain.within_statement h (.top hst) hd).of_ok hv⟩

end JsonQuery
