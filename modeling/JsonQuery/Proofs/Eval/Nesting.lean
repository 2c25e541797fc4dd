/-
  JsonQuery.Proofs.Eval.Nesting
  ─────────────────────────────
  Queries in brackets.

  A query on its own has a draft for each statement that ends in a chain of calls, and a
  mode that its last command decides.  Between brackets the same query is an operand: it
  reads, and has no draft.

  Where no statement ends in a write both compute the same (`Query.run_eq_nested`), so a
  list of the query and an assignment of it yield what the query yields on its own, and
  fail as it does (`runText_nested`).  A chain of unknown functions has to be excluded.  As
  a statement it is taken for a write, so where its iterators lead to nothing it yields the
  whole document, and in brackets the part that they read.
-/
import JsonQuery.Proofs.Eval.Failure

namespace JsonQuery

variable {r : Registry}

/-! ## §1. Statements that end in no write. -/

/-- Every function that a chain of the statement names is registered. -/
def Registry.Knows (r : Registry) (st : Statement) : Prop :=
  ∀ calls, .call calls ∈ st → ∀ c ∈ calls, (r.get? c.name).isSome

/-- A statement that ends in no write, and in no chain that could be taken for one, reads. -/
theorem Registry.Knows.mode {st : Statement} (hknown : r.Knows st)
    (hreads : r.endsInMutation st = false) (hne : .call [] ∉ st) {last : Command}
    (hlast : st.getLast? = some last) : r.mode last = .read := by
  have hmem : last ∈ st := List.mem_of_getLast? hlast
  have hm : r.mutates last = false := by
    rw [endsInMutation, hlast] at hreads
    exact hreads
  cases last with
  | assign target value => cases hm
  | call calls =>
    cases hc : calls.getLast? with
    | none =>
      rw [List.getLast?_eq_none_iff.mp hc] at hmem
      exact absurd hmem hne
    | some c =>
      have hcmem : c ∈ calls := List.mem_of_getLast? hc
      obtain ⟨f, hf⟩ := Option.isSome_iff_exists.mp (hknown calls hmem c hcmem)
      -- a modifier anywhere in the chain would make the statement end in a write
      have hmodifier : f.isModifier = false := by
        have h := List.any_eq_false.mp hm c hcmem
        rw [hf] at h
        simpa using h
      simp only [Registry.mode, hc, Option.bind_some, hf, hmodifier]
      rfl
  | _ => rfl

/-! ## §2. Nested queries. -/

namespace Plain

variable {refuse : ModifierSite → QueryError}

/-- Nested statements at a whole document are statements one after the other. -/
theorem piped_root {sts : List Statement}
    (h : ∀ st ∈ sts, ∀ last, st.getLast? = some last → r.mode last = .read) (document : Json) :
    piped r refuse sts (.root document)
      = sts.foldlM (fun document st => statement r refuse st document) document := by
  induction sts generalizing document with
  | nil =>
    rw [piped]
    rfl
  | cons st rest ih =>
    obtain ⟨hst, hrest⟩ := List.forall_mem_cons.mp h
    rw [piped, List.foldlM_cons, statement_eq_read hst]
    exact bind_congr_of_ok fun v _ => ih hrest v

/-- A nested query at a whole document is the query on that document. -/
theorem nested_root {q : Query} (hreads : ∀ st ∈ q.statements, r.endsInMutation st = false)
    (hmode : ∀ st ∈ q.statements, ∀ last, st.getLast? = some last → r.mode last = .read)
    (site : ModifierSite) (document : Json) :
    nested r refuse site q (.root document) = query r refuse q document := by
  unfold query
  rw [← piped_root hmode]
  cases q with
  | single st =>
    have hst : ¬ r.endsInMutation st = true := by
      simpa using hreads st (List.mem_singleton_self st)
    rw [nested, if_neg hst]
    show _ = piped r refuse [st] (.root document)
    rw [piped]
    refine (bind_pure _).symm.trans (bind_congr_of_ok fun v _ => ?_)
    rw [piped]
    rfl
  | piped sts =>
    have hall : ∀ st ∈ sts, r.endsInMutation st = false := hreads
    have hsts : ¬ sts.any r.endsInMutation = true := by
      simpa using hall
    rw [nested, if_neg hsts]
    rfl

end Plain

/-! ## §3. Queries. -/

namespace Query

variable {reports : RuntimeError → Prop} {document : Json} {q : Query}

theorem run_single (r : Registry) (st : Statement) (document : Json) :
    (Query.single st).run r document = Statement.run r st document := by
  show [st].foldlM _ _ = _
  rw [List.foldlM_cons]
  exact bind_pure (Statement.run r st document)

/-- A query that ends no statement in a write yields on its own what it yields as an operand. -/
theorem run_eq_nested (hr : r.Behaved (fun _ => True) reports) (hd : document.Distinct)
    (hq : q.Shaped) (hreads : ∀ st ∈ q.statements, r.endsInMutation st = false)
    (hknown : ∀ st ∈ q.statements, r.Knows st) (site : ModifierSite) :
    q.run r document = Plain.nested r refused site q (.root document) := by
  have hmode : ∀ st ∈ q.statements, ∀ last, st.getLast? = some last → r.mode last = .read :=
    fun st hst last hlast => (hknown st hst).mode (hreads st hst) (hq.chained st (.top hst)) hlast
  rw [run_eq_plain hr hq.literals hd, Plain.nested_root hreads hmode]

/-- A query in shape fails on the document only. -/
theorem Shaped.bounded_runtime (hr : r.Behaved (fun _ => True) reports) (hq : q.Shaped) :
    q.Bounded r refused (fun _ => True) fun e => ∃ e', e = .runtime e' where
  functions := hr.mono fun e _ => ⟨e, rfl⟩
  literals := hq.literals
  ordinary := fun e _ => ⟨e, rfl⟩
  fallback := fun site => ⟨.modifierNotAllowed site, rfl⟩
  upfront := fun site _ _ _ => ⟨.modifierNotAllowed site, rfl⟩
  unrunnable := by
    intro st hst c hc hterminal
    rw [hq.ordered hst c hc] at hterminal
    cases hterminal

/-! ## §4. Texts. -/

open Grammar

/-- A list of a query in brackets. -/
theorem parse_list_of {text : String} (h : parse text = .ok q) :
    parse ("[(" ++ text ++ ")]") = .ok (.single [.list [.query q]]) := by
  obtain ⟨ss, hss, rfl⟩ := parse_eq_ok_iff.mp h
  have hblanks : Blanks [] := List.forall_mem_nil _
  have hitem : Item ('(' :: (text.toList ++ [')'])) (.query (ofStatements ss)) := .group (.mk hss)
  have hitems := Items.last hblanks hitem (List.cons_ne_nil _ _) hblanks
  have htext : Statements ("[(" ++ text ++ ")]").toList [[.list [.query (ofStatements ss)]]] := by
    simpa using Statements.segment (.commands (.list hitems))
  exact parse_of_statements _ htext

/-- An assignment of a query in brackets to a key that is marked as a string. -/
theorem parse_assign_of {text : String} (h : parse text = .ok q) {t key : String}
    (hkey : Grammar.Token (· == ')') t.toList key.toList) :
    parse (".s(" ++ t ++ ")=(" ++ text ++ ")")
      = .ok (.single [.assign (.name key) (.query q)]) := by
  obtain ⟨ss, hss, rfl⟩ := parse_eq_ok_iff.mp h
  have hname : Literal ('s' :: '(' :: (t.toList ++ [')'])) (.str key) := by
    refine .marked (.mk rfl hkey ?_)
    show Except.ok (Json.str (String.ofList key.toList)) = _
    rw [String.ofList_toList]
  have hstep : Grammar.Step _ (.select (.name key)) := .key ⟨'s', _, rfl, rfl⟩ hname rfl
  have hvalue : Assigned ('(' :: (text.toList ++ [')'])) (.query (ofStatements ss)) :=
    .group (.mk hss)
  have htext : Statements (".s(" ++ t ++ ")=(" ++ text ++ ")").toList
      [[.assign (.name key) (.query (ofStatements ss))]] := by
    simpa using Statements.segment (.commands (.assign .nil hstep hvalue))
  exact parse_of_statements _ htext

theorem runText_of_parse {text : String} (h : parse text = .ok q) (document : Json) :
    runText r text document = q.run r document := by
  unfold runText
  rw [h]
  rfl

/-- A list of a query in brackets is a list of what the query yields at its place. -/
theorem run_list_of (hd : document.Distinct) :
    (Query.single [.list [.query q]]).run r document
      = (Plain.nested r refused .listElement q (.root document)).map fun x => .arr [x] := by
  rw [run_single, Statement.run_eq_plain hd, Plain.statement_of_read rfl rfl, Plain.read,
    Plain.readLast, Plain.operands, Plain.operands, Plain.operand]
  cases Plain.nested r refused .listElement q (.root document) with
  | error e => rfl
  | ok x => rfl

/-- An assignment of a query in brackets sets the key to what the query yields at its place. -/
theorem run_assign_of {entries : Entries} (hd : (Json.obj entries).Distinct) (key : String) :
    (Query.single [.assign (.name key) (.query q)]).run r (.obj entries)
      = (Plain.nested r refused .assignmentValue q (.root (.obj entries))).map
          fun x => .obj (entries.put key x) := by
  rw [run_single, Statement.run_eq_plain hd, Plain.statement_of_write rfl rfl, Plain.update,
    Plain.operand]
  cases Plain.nested r refused .assignmentValue q (.root (.obj entries)) with
  | error e => rfl
  | ok x => rfl

/-- A query that ends no statement in a write, and names registered functions in its chains, means
in brackets what it means on its own: a list of it has its result as the one item, an assignment of
it sets the key to its result, and both fail as it does, which is on the document only. -/
theorem runText_nested (hr : r.Behaved (fun _ => True) reports) (hd : document.Distinct)
    {text : String} (hparse : parse text = .ok q)
    (hreads : ∀ st ∈ q.statements, r.endsInMutation st = false)
    (hknown : ∀ st ∈ q.statements, r.Knows st) :
    runText r ("[(" ++ text ++ ")]") document
        = (runText r text document).map (fun x => .arr [x])
      ∧ (∀ (entries : Entries) (key t : String), document = .obj entries →
          Grammar.Token (· == ')') t.toList key.toList →
          runText r (".s(" ++ t ++ ")=(" ++ text ++ ")") document
            = (runText r text document).map fun x => .obj (entries.put key x))
      ∧ ∀ e, runText r text document = .error e → ∃ e', e = .runtime e' := by
  have hq := shaped_of_parse hparse
  have hown : ∀ site, runText r text document
      = Plain.nested r refused site q (.root document) := fun site =>
    (runText_of_parse hparse document).trans (run_eq_nested hr hd hq hreads hknown site)
  refine ⟨?_, ?_, ?_⟩
  · rw [runText_of_parse (parse_list_of hparse), run_list_of hd, hown .listElement]
  · rintro entries key t rfl hkey
    rw [runText_of_parse (parse_assign_of hparse hkey), run_assign_of hd, hown .assignmentValue]
  · intro e he
    rw [runText_of_parse hparse, run_eq_plain hr hq.literals hd] at he
    exact (Plain.within_query (hq.bounded_runtime hr) hd).of_error he

/-- The length of an entry, listed, and put under a key that holds a bracket. -/
theorem runText_nested_length :
    runText .standard "[(.a#len())]" (.obj [("a", .arr [.null, .null])]) = .ok (.arr [.int 2])
      ∧ runText .standard ".s(b~))=(.a#len())" (.obj [("a", .arr [.null, .null])])
          = .ok (.obj [("a", .arr [.null, .null]), ("b)", .int 2)]) := by
  have hkey : Literal ['a'] (.str "a") := .token (.plain (by decide) rfl .nil)
  have hstep : Grammar.Step ['.', 'a'] (.select (.name "a")) := .key ⟨'a', [], rfl, rfl⟩ hkey rfl
  have hname : Grammar.Token endsName ['l', 'e', 'n'] ['l', 'e', 'n'] :=
    .plain (by decide) rfl (.plain (by decide) rfl (.plain (by decide) rfl .nil))
  have hlen : Calls ['#', 'l', 'e', 'n', '(', ')'] [.mk "len" []] :=
    .one (.mk hname (by decide) (.none (List.forall_mem_nil _)))
  have htext : Statements ['.', 'a', '#', 'l', 'e', 'n', '(', ')']
      [[.select (.name "a"), .call [.mk "len" []]]] :=
    .segment (.commands (.calls (.snoc .nil hstep) hlen))
  have hparse := parse_of_statements ".a#len()" htext
  have hd : (Json.obj [("a", .arr [.null, .null])]).Distinct := by decide
  have hmarked : Grammar.Token (· == ')') "b~)".toList "b)".toList :=
    .plain (by decide) rfl (.escaped ')' .nil)
  have hreads : ∀ st ∈ [[Command.select (.name "a"), .call [.mk "len" []]]],
      Registry.standard.endsInMutation st = false := List.forall_mem_singleton.mpr rfl
  have hknown : ∀ st ∈ [[Command.select (.name "a"), .call [.mk "len" []]]],
      Registry.standard.Knows st := by
    refine List.forall_mem_singleton.mpr fun calls hcalls c hc => ?_
    obtain rfl : calls = [.mk "len" []] := by simpa using hcalls
    rw [List.mem_singleton.mp hc]
    rfl
  obtain ⟨hlist, hassign, -⟩ := runText_nested Registry.behaved_standard hd hparse hreads hknown
  rw [runText_of_parse hparse] at hlist hassign
  exact ⟨hlist, hassign _ "b)" "b~)" rfl hmarked⟩

end Query

end JsonQuery
