/-
  JsonQuery.Proofs.Eval.Failure
  ─────────────────────────────
  Failures that cannot happen.

  The evaluator has failures for a draft that lacks a path, for a write that has no draft
  to go to, and for a command that cannot stand before others.  It also refuses a write in
  a nested query twice: before the query runs, and again where the write would go to the
  draft that is not there.

  Where every chain holds a call, a nested query that was not refused has no write to
  refuse: what the second refusal is does not matter (`Plain.query_congr`).  So drafts do
  not fail, and of the queries that texts write only those are refused that are refused
  before they run.
-/
import JsonQuery.Proofs.Function.Standard

namespace JsonQuery

/-! ## §1. Commands that leave no write behind. -/

/-- The command is no assignment, and no chain that ends with a new value for its place. -/
def Registry.OnlyReads (r : Registry) : Command → Prop
  | .assign _ _ => False
  | .call cs => ∀ refuse s v w, Plain.calls r refuse cs s v ≠ .ok (.modified w)
  | _ => True

theorem Registry.onlyReads_of_mode {r : Registry} {last : Command} (h : r.mode last = .read) :
    r.OnlyReads last := by
  cases last with
  | assign target value => cases h
  | call cs =>
    intro refuse s v w hcalls
    rcases Plain.mode_of_calls hcalls with ⟨-, u, hu⟩ | ⟨hm, -⟩
    · cases hu
    · rw [h] at hm
      cases hm
  | _ => trivial

/-- A chain that holds a call and names no modifier fails or ends in its first call. -/
theorem Registry.onlyReads_of_mutates {r : Registry} {last : Command}
    (h : r.mutates last = false) (hne : last ≠ .call []) : r.OnlyReads last := by
  cases last with
  | assign target value => cases h
  | call cs =>
    intro refuse s v w hcalls
    match cs with
    | [] => exact hne rfl
    | .mk name args :: rest =>
      rw [Plain.calls] at hcalls
      -- the first call has a function, which is registered and so is no modifier
      obtain ⟨f, hf, hcalls⟩ := bind_eq_ok_iff.mp hcalls
      obtain ⟨values, -, hcalls⟩ := bind_eq_ok_iff.mp hcalls
      obtain ⟨result, -, hcalls⟩ := bind_eq_ok_iff.mp hcalls
      have hget := Registry.get?_of_resolve (runtime_eq_ok_iff.mp hf)
      have hm : f.isModifier = false := by
        simp only [Registry.mutates, List.any_cons, Call.name, hget, Option.any_some,
          Bool.or_eq_false_iff] at h
        exact h.1
      rw [hm, if_neg (by decide)] at hcalls
      split at hcalls
      · cases hcalls
      · cases hcalls
  | _ => trivial

/-- The last command of a statement of a nested query that is not refused. -/
theorem Registry.onlyReads_of_endsInMutation {r : Registry} {st : Statement}
    (h : r.endsInMutation st = false) (hne : .call [] ∉ st) (last : Command)
    (hlast : st.getLast? = some last) : r.OnlyReads last := by
  unfold endsInMutation at h
  rw [hlast] at h
  refine onlyReads_of_mutates h ?_
  rintro rfl
  exact hne (List.mem_of_getLast? hlast)

/-- Every chain of a query holds a call, at every depth. -/
def Query.Chained (q : Query) : Prop := ∀ st, q.Runs st → .call [] ∉ st

/-! ## §2. What the second refusal is does not matter. -/

namespace Plain

variable {r : Registry} {root : Query}

section

variable (refuse refuse' : ModifierSite → QueryError)

mutual

theorem read_congr (h : root.Chained) : ∀ (cs : List Command) (s : Scope),
    (∀ c ∈ cs, ∀ site o, c.Holds site o → root.Holds site o) →
    (∀ last, cs.getLast? = some last → r.OnlyReads last) →
    read r refuse cs s = read r refuse' cs s
  | [], s, _, _ => by
    rw [read, read]
  | [last], s, hc, hlast => by
    have ih := readLast_congr h last s
    rw [read, read]
    exact ih (hc last List.mem_cons_self) (hlast last rfl)
  | .select key :: next :: rest, s, hc, hlast => by
    have ih := read_congr h (next :: rest)
    have hrest := (List.forall_mem_cons.mp hc).2
    rw [List.getLast?_cons_cons] at hlast
    rw [read, read]
    refine bind_congr_of_ok fun child _ => ih (s.enter child) hrest hlast
  | .iterate span :: next :: rest, s, hc, hlast => by
    have ih := read_congr h (next :: rest)
    have hrest := (List.forall_mem_cons.mp hc).2
    rw [List.getLast?_cons_cons] at hlast
    rw [read, read]
    have hchild : (fun child => read r refuse (next :: rest) (s.enter child))
        = fun child => read r refuse' (next :: rest) (s.enter child) :=
      funext fun child => ih (s.enter child) hrest hlast
    rw [hchild]
  -- a command that has to be last stands in front of others: both fail alike
  | .assign target value :: next :: rest, s, _, _ => by
    rw [read_terminal rfl, read_terminal rfl]
  | .call cs :: next :: rest, s, _, _ => by
    rw [read_terminal rfl, read_terminal rfl]
  | .list items :: next :: rest, s, _, _ => by
    rw [read_terminal rfl, read_terminal rfl]

theorem readLast_congr (h : root.Chained) : ∀ (c : Command) (s : Scope),
    (∀ site o, c.Holds site o → root.Holds site o) → r.OnlyReads c →
    readLast r refuse c s = readLast r refuse' c s
  | .select key, s, _, _ => by
    rw [readLast, readLast]
  | .iterate span, s, _, _ => by
    rw [readLast, readLast]
  | .assign target value, s, _, hreads => hreads.elim
  | .call cs, s, hc, hreads => by
    have ih := calls_congr h cs s s.value
    rw [readLast, readLast, ih fun c hmem o ho => hc _ _ (.argument hmem ho)]
    refine bind_congr_of_ok fun result hresult => ?_
    -- the second refusal stands where the chain ends with a new value
    cases result with
    | modified w => exact absurd hresult (hreads refuse' s s.value w)
    | produced w => rfl
  | .list items, s, hc, _ => by
    have ih := operands_congr h .listElement items s
    rw [readLast, readLast, ih fun o ho => hc _ _ (.element ho)]

theorem calls_congr (h : root.Chained) : ∀ (cs : List Call) (s : Scope)
    (v : Json), (∀ c ∈ cs, ∀ o ∈ c.args, root.Holds .functionArgument o) →
    calls r refuse cs s v = calls r refuse' cs s v
  | [], s, v, _ => by
    rw [calls, calls]
  | .mk name args :: rest, s, v, hc => by
    have hargs := operands_congr h .functionArgument args s.outer
    have ih := calls_congr h rest s
    obtain ⟨hfirst, hrest⟩ := List.forall_mem_cons.mp hc
    rw [calls, calls, hargs hfirst]
    simp only [ih _ hrest]

theorem operands_congr (h : root.Chained) (site : ModifierSite) :
    ∀ (os : List Operand) (s : Scope), (∀ o ∈ os, root.Holds site o) →
    operands r refuse site os s = operands r refuse' site os s
  | [], s, _ => by
    rw [operands, operands]
  | o :: rest, s, ho => by
    have hfirst := operand_congr h site o s
    have ih := operands_congr h site rest s
    obtain ⟨ho, hrest⟩ := List.forall_mem_cons.mp ho
    rw [operands, operands, hfirst ho, ih hrest]

theorem operand_congr (h : root.Chained) (site : ModifierSite) :
    ∀ (o : Operand) (s : Scope), root.Holds site o →
    operand r refuse site o s = operand r refuse' site o s
  | .literal v, s, _ => by
    rw [operand, operand]
  | .query q, s, ho => by
    have ih := nested_congr h site q s
    rw [operand, operand, ih ho]

theorem nested_congr (h : root.Chained) (site : ModifierSite) :
    ∀ (q : Query) (s : Scope), root.Holds site (.query q) →
    nested r refuse site q s = nested r refuse' site q s
  | .single st, s, hq => by
    have ih := read_congr h st s
    have hruns : root.Runs st := .nested hq (List.mem_singleton_self st)
    rw [nested, nested]
    split
    · rfl
    · -- not refused before it runs, so its last command only reads
      rename_i hm
      exact ih (fun c hc site o ho => hruns.holds hc ho)
        (Registry.onlyReads_of_endsInMutation (by simpa using hm) (h st hruns))
  | .piped sts, s, hq => by
    have ih := piped_congr h sts s
    have hruns : ∀ st ∈ sts, root.Runs st := fun st hst => .nested hq hst
    rw [nested, nested]
    split
    · rfl
    · rename_i hm
      exact ih hruns (by simpa using hm)

theorem piped_congr (h : root.Chained) : ∀ (sts : List Statement)
    (s : Scope), (∀ st ∈ sts, root.Runs st) → (∀ st ∈ sts, r.endsInMutation st = false) →
    piped r refuse sts s = piped r refuse' sts s
  | [], s, _, _ => by
    rw [piped, piped]
  | st :: rest, s, hruns, hm => by
    have hfirst := read_congr h st s
    have ih := piped_congr h rest
    obtain ⟨hst, hruns⟩ := List.forall_mem_cons.mp hruns
    obtain ⟨hmst, hm⟩ := List.forall_mem_cons.mp hm
    rw [piped, piped, hfirst (fun c hc site o ho => hst.holds hc ho)
      (Registry.onlyReads_of_endsInMutation hmst (h st hst))]
    exact bind_congr_of_ok fun v _ => ih (.root v) hruns hm

end

theorem update_congr (h : root.Chained) : ∀ (cs : List Command) (s : Scope),
    (∀ c ∈ cs, ∀ site o, c.Holds site o → root.Holds site o) →
    update r refuse cs s = update r refuse' cs s
  | [], s, _ => by
    rw [update, update]
  | [.select key], s, _ => by
    simp only [update]
  | [.iterate span], s, _ => by
    simp only [update]
  | [.list items], s, _ => by
    simp only [update]
  | [.assign target value], s, hc => by
    rw [update, update, operand_congr refuse refuse' h .assignmentValue value s
      (hc _ List.mem_cons_self _ _ (.assigned target value))]
  | [.call cs], s, hc => by
    rw [update, update, calls_congr refuse refuse' h cs s s.value
      fun c hmem o ho => hc _ List.mem_cons_self _ _ (.argument hmem ho)]
  | .select key :: next :: rest, s, hc => by
    have ih := fun child => update_congr h (next :: rest) (s.enter child)
      (List.forall_mem_cons.mp hc).2
    rw [update, update, funext ih]
  | .iterate span :: next :: rest, s, hc => by
    have ih := fun child => update_congr h (next :: rest) (s.enter child)
      (List.forall_mem_cons.mp hc).2
    rw [update, update, funext ih]
  -- a command that has to be last stands in front of others: both fail alike
  | .assign target value :: next :: rest, s, _ => by
    rw [update_terminal rfl, update_terminal rfl]
  | .call cs :: next :: rest, s, _ => by
    rw [update_terminal rfl, update_terminal rfl]
  | .list items :: next :: rest, s, _ => by
    rw [update_terminal rfl, update_terminal rfl]

theorem statement_congr (h : root.Chained) {st : Statement} (hst : root.Runs st)
    (document : Json) : statement r refuse st document = statement r refuse' st document := by
  have hc : ∀ c ∈ st, ∀ site o, c.Holds site o → root.Holds site o :=
    fun _ hc _ _ ho => hst.holds hc ho
  cases hlast : st.getLast? with
  | none =>
    unfold statement
    rw [hlast]
  | some last =>
    cases hm : r.mode last with
    | read =>
      -- the mode alone keeps a chain from ending with a new value here
      rw [statement_of_read hlast hm, statement_of_read hlast hm]
      refine read_congr refuse refuse' h st _ hc fun last' hlast' => ?_
      rw [hlast] at hlast'
      exact Option.some.inj hlast' ▸ Registry.onlyReads_of_mode hm
    | write =>
      rw [statement_of_write hlast hm, statement_of_write hlast hm]
      exact update_congr refuse refuse' h st _ hc

/-- Where every chain holds a call, no write in a nested query is refused a second time. -/
theorem query_congr (h : root.Chained) (document : Json) :
    query r refuse root document = query r refuse' root document := by
  unfold query
  exact foldlM_congr (V := fun _ => True)
    (fun d st hst _ => ⟨statement_congr refuse refuse' h (.top hst) d, fun _ _ => trivial⟩) trivial

end

end Plain

/-! ## §3. Failures of queries. -/

theorem Query.Shaped.chained {q : Query} (h : q.Shaped) : q.Chained := by
  intro st hst hmem
  cases h.runs hst with
  | mk _ hchains _ => exact hchains [] hmem rfl

theorem Query.Shaped.literals {q : Query} (h : q.Shaped) (site : ModifierSite) (v : Json)
    (hv : q.Holds site (.literal v)) : v.Distinct := by
  cases h.holds hv with
  | literal hv => exact hv

theorem Query.Shaped.ordered {q : Query} (h : q.Shaped) {st : Statement} (hst : q.Runs st) :
    ∀ c ∈ st.dropLast, c.isTerminal = false := by
  cases h.runs hst with
  | mk hordered _ _ => exact hordered

theorem RuntimeError.Ordinary.ne_missingPath {e : RuntimeError} (h : e.Ordinary) (path : Path) :
    e ≠ .missingPath path := by
  rintro rfl
  exact h

theorem RuntimeError.Ordinary.ne_modifierNotAllowed {e : RuntimeError} (h : e.Ordinary)
    (site : ModifierSite) : e ≠ .modifierNotAllowed site := by
  rintro rfl
  exact h

section

variable {r : Registry} {reports : RuntimeError → Prop}

/-- The failures that a query may lead to, whatever it is made of. -/
theorem Query.bounded_by_draft (hr : r.Behaved (fun _ => True) reports) {q : Query}
    (hlit : ∀ site v, q.Holds site (.literal v) → v.Distinct) :
    q.Bounded r refused (fun _ => True) fun e =>
      (∀ path, e = .runtime (.missingPath path) → reports (.missingPath path))
        ∧ e ≠ .internal .noDraft where
  functions := by
    refine hr.mono fun e he => ⟨fun path h => ?_, by simp⟩
    injection h with h
    exact h ▸ he
  literals := hlit
  ordinary := by
    refine fun e he => ⟨fun path h => ?_, by simp⟩
    injection h with h
    exact absurd h (he.ne_missingPath path)
  fallback := fun site => ⟨by simp [refused], by simp [refused]⟩
  upfront := fun site sub _ _ => ⟨by simp, by simp⟩
  unrunnable := fun st _ c _ _ => ⟨by simp, by simp⟩

/-- The failures that a query in shape may lead to, where a second refusal would be an ordinary
failure. -/
theorem Query.Shaped.bounded (hr : r.Behaved (fun _ => True) reports) {q : Query}
    (hq : q.Shaped) :
    q.Bounded r (fun _ => .runtime .rangeOnObject) (fun _ => True) fun e =>
      (∀ internal, e ≠ .internal internal)
        ∧ ∀ site, ¬ reports (.modifierNotAllowed site) → e = .runtime (.modifierNotAllowed site) →
            ∃ sub, q.Holds site (.query sub) ∧ ∃ st ∈ sub.statements, r.endsInMutation st where
  functions := by
    refine hr.mono fun e he => ⟨by simp, fun site hsite h => ?_⟩
    injection h with h
    exact absurd (h ▸ he) hsite
  literals := hq.literals
  ordinary := by
    refine fun e he => ⟨by simp, fun site _ h => ?_⟩
    injection h with h
    exact absurd h (he.ne_modifierNotAllowed site)
  fallback := fun site => ⟨by simp, by simp⟩
  upfront := by
    refine fun site sub hsub hm => ⟨by simp, fun site' _ h => ?_⟩
    injection h with h
    injection h with h
    exact h ▸ ⟨sub, hsub, hm⟩
  unrunnable := by
    intro st hst c hc hterminal
    rw [hq.ordered hst c hc] at hterminal
    cases hterminal

/-- Documents, literals and results of functions are maps, so their keys are distinct. Where
functions do not report failures of the evaluator themselves, no query fails for its draft. A
query that a text writes never fails internally, is refused only if a nested query at the named
place ends a statement in a write, and does not depend on what a write without a draft leads to. -/
theorem Query.run_failures (hr : r.Behaved (fun _ => True) reports) {document : Json}
    (hd : document.Distinct) :
    (∀ q : Query, (∀ site v, q.Holds site (.literal v) → v.Distinct) →
        (∀ path, ¬ reports (.missingPath path) →
            q.run r document ≠ .error (.runtime (.missingPath path)))
          ∧ q.run r document ≠ .error (.internal .noDraft))
      ∧ ∀ (text : String) (q : Query), parse text = .ok q →
          (∀ internal, q.run r document ≠ .error (.internal internal))
            ∧ (∀ site, ¬ reports (.modifierNotAllowed site) →
                q.run r document = .error (.runtime (.modifierNotAllowed site)) →
                ∃ sub, q.Holds site (.query sub)
                  ∧ ∃ st ∈ sub.statements, r.endsInMutation st = true)
            ∧ ∀ refuse, q.run r document = Plain.query r refuse q document := by
  constructor
  · intro q hlit
    have hwithin := Plain.within_query (Query.bounded_by_draft hr hlit) hd
    rw [← Query.run_eq_plain hr hlit hd] at hwithin
    exact ⟨fun path hpath h => hpath ((hwithin.of_error h).1 path rfl),
      fun h => (hwithin.of_error h).2 rfl⟩
  · intro text q hparse
    have hq := Query.shaped_of_parse hparse
    -- the second refusal may be replaced by any failure, so by an ordinary one
    have hplain : ∀ refuse, q.run r document = Plain.query r refuse q document := fun refuse =>
      (Query.run_eq_plain hr hq.literals hd).trans
        (Plain.query_congr refused refuse hq.chained document)
    have hwithin := Plain.within_query (hq.bounded hr) hd
    rw [← hplain] at hwithin
    exact ⟨fun internal h => (hwithin.of_error h).1 internal rfl,
      fun site hsite h => (hwithin.of_error h).2 site hsite rfl, hplain⟩

end

/-- A list of what sorting its input in place would yield is refused, because that writes. -/
theorem Query.run_failures_in_list :
    ∃ q, parse "[(#sort())]" = .ok q
      ∧ q.run .standard (.arr [.int 2, .int 1])
          = .error (.runtime (.modifierNotAllowed .listElement))
      ∧ ∃ sub, q.Holds .listElement (.query sub)
          ∧ ∃ st ∈ sub.statements, Registry.standard.endsInMutation st = true := by
  have hblanks : Grammar.Blanks [] := by simp [Grammar.Blanks]
  have hname : Grammar.Token endsName ['s', 'o', 'r', 't'] ['s', 'o', 'r', 't'] :=
    .plain (by decide) rfl (.plain (by decide) rfl
      (.plain (by decide) rfl (.plain (by decide) rfl .nil)))
  have hgroup : Grammar.Group ['(', '#', 's', 'o', 'r', 't', '(', ')', ')']
      [[.call [.mk "sort" []]]] :=
    .mk (.segment (.commands (.calls .nil (.one (.mk hname (by decide) (.none hblanks))))))
  have htext : Grammar.Statements ['[', '(', '#', 's', 'o', 'r', 't', '(', ')', ')', ']']
      [[.list [.query (.single [.call [.mk "sort" []]])]]] :=
    .segment (.commands (.list (@Grammar.Items.last [] _ [] _ hblanks (.group hgroup) (by decide)
      hblanks)))
  have hparse := parse_of_statements "[(#sort())]" htext
  have hd : (Json.arr [.int 2, .int 1]).Distinct := by
    refine .arr fun v hv => ?_
    rw [List.mem_cons, List.mem_singleton] at hv
    rcases hv with rfl | rfl
    · exact .int 2
    · exact .int 1
  have hfailures := (Query.run_failures Registry.behaved_standard hd).2 _ _ hparse
  exact ⟨_, hparse, rfl, hfailures.2.1 .listElement (fun h => h) rfl⟩

end JsonQuery
