/-
  JsonQuery.Proofs.Query.Shape
  ────────────────────────────
  The shape of the queries that texts write.

  A query holds operands, and the queries among them hold operands again (`Query.Holds`).
  Trees built by hand may be any.  In the queries of the grammar a command that has to be
  the last one is the last one, a list stands alone, chains hold calls, which have names,
  and literals are what literals can be, at every depth (`Query.wellFormed_of_parse`).
-/
import JsonQuery.Proofs.Json.Finite
import JsonQuery.Proofs.Query.Parsing

namespace JsonQuery

/-! ## §1. What a query holds. -/

/-- The operands that a command is written with, and what they are there. -/
inductive Command.Holds : Command → ModifierSite → Operand → Prop
  | assigned (target : Key) (value : Operand) : Holds (.assign target value) .assignmentValue value
  | argument {calls : List Call} {c : Call} {o : Operand} : c ∈ calls → o ∈ c.args →
      Holds (.call calls) .functionArgument o
  | element {items : List Operand} {o : Operand} : o ∈ items → Holds (.list items) .listElement o

/-- The operands that a query is written with, at any depth. -/
inductive Query.Holds : Query → ModifierSite → Operand → Prop
  | here {q : Query} {st : Statement} {c : Command} {site : ModifierSite} {o : Operand} :
      st ∈ q.statements → c ∈ st → c.Holds site o → Holds q site o
  | inside {q sub : Query} {site site' : ModifierSite} {o : Operand} :
      Holds q site (.query sub) → Holds sub site' o → Holds q site' o

/-- The statements of a query and of the queries it holds. -/
inductive Query.Runs (q : Query) : Statement → Prop
  | top {st : Statement} : st ∈ q.statements → q.Runs st
  | nested {site : ModifierSite} {sub : Query} {st : Statement} : q.Holds site (.query sub) →
      st ∈ sub.statements → q.Runs st

theorem Query.Runs.holds {q : Query} {st : Statement} (h : q.Runs st) {c : Command} (hc : c ∈ st)
    {site : ModifierSite} {o : Operand} (ho : c.Holds site o) : q.Holds site o := by
  cases h with
  | top hst => exact .here hst hc ho
  | nested hsub hst => exact .inside hsub (.here hst hc ho)

/-- Only commands that have to be the last one are written with operands. -/
theorem Command.Holds.isTerminal {c : Command} {site : ModifierSite} {o : Operand}
    (h : c.Holds site o) : c.isTerminal = true := by
  cases h <;> rfl

/-! ## §2. Shapes. -/

mutual

/-- Nothing follows a command that has to be the last one, no chain is empty, and the operands are
in shape. -/
inductive Statement.Shaped : Statement → Prop
  | mk {st : Statement} : (∀ c ∈ st.dropLast, c.isTerminal = false) →
      (∀ calls, Command.call calls ∈ st → calls ≠ []) →
      (∀ c ∈ st, ∀ site o, c.Holds site o → Operand.Shaped o) → Statement.Shaped st

/-- The objects of a literal have distinct keys, the statements of a query are in shape. -/
inductive Operand.Shaped : Operand → Prop
  | literal {v : Json} : v.Distinct → Operand.Shaped (.literal v)
  | query {q : Query} : (∀ st ∈ q.statements, Statement.Shaped st) → Operand.Shaped (.query q)

end

/-- The statements of a query are in shape. -/
def Query.Shaped (q : Query) : Prop := ∀ st ∈ q.statements, Statement.Shaped st

/-- What a query in shape holds is in shape at every depth. -/
theorem Query.Shaped.holds {q : Query} (hq : q.Shaped) {site : ModifierSite} {o : Operand}
    (h : q.Holds site o) : o.Shaped := by
  -- the induction is on how deep the operand lies
  induction h with
  | here hst hc ho =>
    cases hq _ hst with
    | mk _ _ hoperands => exact hoperands _ hc _ _ ho
  | inside _ _ ih ih' =>
    -- the query that holds it is in shape, and then so is what that one holds
    cases ih hq with
    | query hsub => exact ih' hsub

theorem Query.Shaped.runs {q : Query} (hq : q.Shaped) {st : Statement} (h : q.Runs st) :
    Statement.Shaped st := by
  cases h with
  | top hst => exact hq st hst
  | nested hsub hst =>
    cases hq.holds hsub with
    | query hsub => exact hsub st hst

/-! ## §3. Well-formed queries. -/

/-- The keys that a command is written with. -/
def Command.keys : Command → List Key
  | .select key | .assign key _ => [key]
  | _ => []

/-- What a literal can be: a string, an integer, a finite float, or a container of printable
values. -/
def Json.IsLiteral : Json → Prop
  | .null | .bool _ => False
  | .int _ | .str _ => True
  | .float x => x.isFinite = true
  | .arr items => (Json.arr items).Printable
  | .obj entries => (Json.obj entries).Printable

mutual

/-- Nothing follows a command that has to be the last one, a list stands alone, a chain holds calls
and the calls have names; the keys are of one class, and so are the literals at any depth. -/
inductive Statement.WellFormed (key : Key → Prop) (literal : Json → Prop) : Statement → Prop
  | mk {st : Statement} : (∀ c ∈ st.dropLast, c.isTerminal = false) →
      (∀ items, Command.list items ∈ st → st = [.list items]) →
      (∀ calls, Command.call calls ∈ st → calls ≠ [] ∧ ∀ c ∈ calls, c.name ≠ "") →
      (∀ c ∈ st, ∀ k ∈ c.keys, key k) →
      (∀ c ∈ st, ∀ site o, c.Holds site o → Operand.WellFormed key literal o) →
      Statement.WellFormed key literal st

/-- A literal of the class, or a well-formed query. -/
inductive Operand.WellFormed (key : Key → Prop) (literal : Json → Prop) : Operand → Prop
  | literal {v : Json} : literal v → Operand.WellFormed key literal (.literal v)
  | query {q : Query} : Query.WellFormed key literal q → Operand.WellFormed key literal (.query q)

/-- A single statement, or two and more of them. -/
inductive Query.WellFormed (key : Key → Prop) (literal : Json → Prop) : Query → Prop
  | single {st : Statement} : Statement.WellFormed key literal st →
      Query.WellFormed key literal (.single st)
  | piped {ss : List Statement} : 2 ≤ ss.length →
      (∀ st ∈ ss, Statement.WellFormed key literal st) → Query.WellFormed key literal (.piped ss)

end

section

variable {key : Key → Prop} {literal : Json → Prop}

theorem Query.WellFormed.statement {q : Query} (h : q.WellFormed key literal) {st : Statement}
    (hst : st ∈ q.statements) : Statement.WellFormed key literal st := by
  cases h with
  | single h => exact List.mem_singleton.mp hst ▸ h
  | piped _ h => exact h st hst

/-- What a well-formed query holds is well-formed at every depth. -/
theorem Query.WellFormed.holds {q : Query} (hq : q.WellFormed key literal) {site : ModifierSite}
    {o : Operand} (h : q.Holds site o) : Operand.WellFormed key literal o := by
  induction h with
  | here hst hc ho =>
    cases hq.statement hst with
    | mk _ _ _ _ hoperands => exact hoperands _ hc _ _ ho
  | inside _ _ ih ih' =>
    cases ih hq with
    | query hsub => exact ih' hsub

/-- Well-formed statements are those of a well-formed query. -/
theorem Query.wellFormed_ofStatements {ss : List Statement} (hne : ss ≠ [])
    (h : ∀ st ∈ ss, Statement.WellFormed key literal st) :
    (ofStatements ss).WellFormed key literal := by
  match ss, hne with
  | [st], _ => exact .single (h st List.mem_cons_self)
  | _ :: _ :: _, _ => exact .piped (by simp) h

/-- Steps, and a last command with well-formed operands. -/
theorem Statement.wellFormed_snoc (st : Statement) {last : Command}
    (hst : ∀ c ∈ st, c.isTerminal = false) (hlist : ∀ items, last = .list items → st = [])
    (hcalls : ∀ calls, last = .call calls → calls ≠ [] ∧ ∀ c ∈ calls, c.name ≠ "")
    (hkeys : ∀ c ∈ st ++ [last], ∀ k ∈ c.keys, key k)
    (ho : ∀ site o, last.Holds site o → Operand.WellFormed key literal o) :
    Statement.WellFormed key literal (st ++ [last]) := by
  -- a command that has to be the last one is not among the steps
  have hlast : ∀ c ∈ st ++ [last], c.isTerminal = true → c = last := by
    intro c hc hterminal
    rcases List.mem_append.mp hc with hc | hc
    · rw [hst c hc] at hterminal
      cases hterminal
    · exact List.mem_singleton.mp hc
  refine .mk ?_ ?_ ?_ hkeys ?_
  · rw [List.dropLast_concat]
    exact hst
  · intro items hc
    have heq := (hlast _ hc rfl).symm
    rw [hlist items heq, heq]
    rfl
  · intro calls hc
    exact hcalls calls (hlast _ hc rfl).symm
  · intro c hc site o h
    exact ho site o (hlast c hc h.isTerminal ▸ h)

/-- Steps are well-formed with any operands, as they have none. -/
theorem Statement.wellFormed_of_steps {st : Statement} (hst : ∀ c ∈ st, c.isTerminal = false)
    (hkeys : ∀ c ∈ st, ∀ k ∈ c.keys, key k) : Statement.WellFormed key literal st := by
  refine .mk (fun c hc => hst c (List.dropLast_subset st hc)) ?_ ?_ hkeys ?_
  · intro items hc
    cases hst _ hc
  · intro calls hc
    cases hst _ hc
  · intro c hc site o h
    have hterminal := h.isTerminal
    rw [hst c hc] at hterminal
    cases hterminal

mutual

theorem Statement.WellFormed.shaped {st : Statement} (hliteral : ∀ v, literal v → v.Distinct) :
    Statement.WellFormed key literal st → Statement.Shaped st
  | .mk hlast _ hcalls _ ho =>
    .mk hlast (fun calls hc => (hcalls calls hc).1)
      fun c hc site o h => (ho c hc site o h).shaped hliteral

theorem Operand.WellFormed.shaped {o : Operand} (hliteral : ∀ v, literal v → v.Distinct) :
    Operand.WellFormed key literal o → o.Shaped
  | .literal hv => .literal (hliteral _ hv)
  | .query hq => .query (hq.shaped hliteral)

theorem Query.WellFormed.shaped {q : Query} (hliteral : ∀ v, literal v → v.Distinct) :
    q.WellFormed key literal → q.Shaped
  | .single h => List.forall_mem_singleton.mpr (h.shaped hliteral)
  | .piped _ h => fun st hst => (h st hst).shaped hliteral

end

end

/-! ## §4. Literals. -/

theorem Json.IsLiteral.printable {v : Json} (h : v.IsLiteral) : v.Printable := by
  cases v with
  | null => exact h.elim
  | bool b => exact h.elim
  | int n => exact .int n
  | float x => exact .float h
  | str s => exact .str s
  | arr items => exact h
  | obj entries => exact h

namespace Grammar

theorem isLiteral_float {token : List Char} {x : Float} (h : Number.readFinite token = some x) :
    (Json.float x).IsLiteral :=
  (Option.filter_eq_some_iff.mp h).2

theorem isLiteral_coerce (token : List Char) : (Query.coerce token).IsLiteral := by
  unfold Query.coerce
  split
  · trivial
  · split
    · rename_i hread
      exact isLiteral_float hread
    · trivial

theorem isLiteral_of_literalValue {type : LiteralType} {body : List Char} {v : Json}
    (h : Query.literalValue type body = .ok v) : v.IsLiteral := by
  unfold Query.literalValue at h
  split at h
  · injection h with h
    exact h ▸ trivial
  · split at h
    · injection h with h
      exact h ▸ trivial
    · cases h
  · split at h
    · rename_i hread
      injection h with h
      exact h ▸ isLiteral_float hread
    · cases h
  · split at h
    · rename_i hread
      injection h with h
      subst h
      exact Json.printable_of_read? hread
    · rename_i hread
      injection h with h
      subst h
      exact Json.printable_of_read? hread
    · cases h
    · cases h

theorem Marked.isLiteral {t : List Char} {v : Json} : Marked t v → v.IsLiteral
  | .mk _ _ hv => isLiteral_of_literalValue hv

theorem Literal.isLiteral {t : List Char} {v : Json} : Literal t v → v.IsLiteral
  | .marked h => h.isLiteral
  | .token _ => isLiteral_coerce _

/-! ## §5. Phrases. -/

theorem Steps.not_terminal {t : List Char} {st : Statement} (h : Steps t st) :
    ∀ c ∈ st, c.isTerminal = false := by
  induction h with
  | nil => simp
  | snoc _ hu ih =>
    intro c hc
    rcases List.mem_append.mp hc with hc | hc
    · exact ih c hc
    · rw [List.mem_singleton.mp hc]
      cases hu <;> rfl

theorem Calls.ne_nil {t : List Char} {cs : List Call} (h : Calls t cs) : cs ≠ [] := by
  cases h <;> simp

/-- What the grammar asks of statements: any keys, and literals that are literals. -/
abbrev Formed : Statement → Prop := Statement.WellFormed (fun _ => True) Json.IsLiteral

/-- What the grammar asks of operands. -/
abbrev FormedOperand : Operand → Prop := Operand.WellFormed (fun _ => True) Json.IsLiteral

mutual

theorem Statements.formed {t : List Char} {ss : List Statement} : Statements t ss →
    ∀ st ∈ ss, Formed st
  | .segment h => h.formed
  | .pipe h hu => List.forall_mem_append.mpr ⟨h.formed, hu.formed⟩

theorem Segment.formed {t : List Char} {ss : List Statement} : Segment t ss →
    ∀ st ∈ ss, Formed st
  | .commands h => List.forall_mem_singleton.mpr h.formed
  | .groups h hu => by
    -- the statement behind the groups may have been dropped
    refine List.forall_mem_append.mpr ⟨h.formed, ?_⟩
    split
    · simp
    · exact List.forall_mem_singleton.mpr hu.formed

theorem Groups.formed {t : List Char} {ss : List Statement} : Groups t ss →
    ∀ st ∈ ss, Formed st
  | .one h => h.formed
  | .more h hs => List.forall_mem_append.mpr ⟨h.formed, hs.formed⟩

theorem Group.formed {t : List Char} {ss : List Statement} : Group t ss →
    ∀ st ∈ ss, Formed st
  | .mk h => h.formed

theorem Commands.formed {t : List Char} {st : Statement} : Commands t st → Formed st
  | .steps h => Statement.wellFormed_of_steps h.not_terminal (by simp)
  | .assign h _ hw => by
    have ho := hw.formed
    refine Statement.wellFormed_snoc _ h.not_terminal (by simp) (by simp) (by simp) ?_
    rintro _ _ ⟨⟩
    exact ho
  | .calls h hu => by
    have hargs := hu.formed
    refine Statement.wellFormed_snoc _ h.not_terminal (by simp) ?_ (by simp) ?_
    · rintro _ ⟨⟩
      exact ⟨hu.ne_nil, fun c hc => (hargs c hc).1⟩
    · rintro _ _ (_ | ⟨hc, ho⟩)
      exact (hargs _ hc).2 _ ho
  | .list h => by
    have hitems := h.formed
    rw [← List.nil_append [_]]
    refine Statement.wellFormed_snoc _ (by simp) (by simp) (by simp) (by simp) ?_
    rintro _ _ (_ | _ | ho)
    exact hitems _ ho

theorem Calls.formed {t : List Char} {cs : List Call} : Calls t cs →
    ∀ c ∈ cs, c.name ≠ "" ∧ ∀ o ∈ c.args, FormedOperand o
  | .one h => List.forall_mem_singleton.mpr h.formed
  | .more h hs => List.forall_mem_cons.mpr ⟨h.formed, hs.formed⟩

theorem Called.formed {t : List Char} {c : Call} : Called t c →
    c.name ≠ "" ∧ ∀ o ∈ c.args, FormedOperand o
  | .mk _ hne h => ⟨by simpa [Call.name] using hne, h.formed⟩

theorem Items.formed {t : List Char} {os : List Operand} : Items t os →
    ∀ o ∈ os, FormedOperand o
  | .none _ => by simp
  | .last _ h _ _ => List.forall_mem_singleton.mpr h.formed
  | .more _ h _ hs => List.forall_mem_cons.mpr ⟨h.formed, hs.formed⟩

theorem Item.formed {t : List Char} {o : Operand} : Item t o → FormedOperand o
  | .group h => .query (Query.wellFormed_ofStatements h.ne_nil h.formed)
  | .marked h => .literal h.isLiteral
  | .token _ _ => .literal (isLiteral_coerce _)

theorem Assigned.formed {t : List Char} {o : Operand} : Assigned t o → FormedOperand o
  | .group h => .query (Query.wellFormed_ofStatements h.ne_nil h.formed)
  | .literal h => .literal h.isLiteral

end

end Grammar

namespace Query

/-- A query that a text writes is well-formed. -/
theorem wellFormed_of_parse {text : String} {q : Query} (h : parse text = .ok q) :
    q.WellFormed (fun _ => True) Json.IsLiteral := by
  obtain ⟨ss, hss, rfl⟩ := Grammar.parse_eq_ok_iff.mp h
  exact wellFormed_ofStatements hss.ne_nil hss.formed

/-- A query that a text writes is in shape. -/
theorem shaped_of_parse {text : String} {q : Query} (h : parse text = .ok q) : q.Shaped :=
  (wellFormed_of_parse h).shaped fun _ h => h.printable.distinct

end Query

end JsonQuery
