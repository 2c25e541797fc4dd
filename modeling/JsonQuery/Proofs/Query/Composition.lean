/-
  JsonQuery.Proofs.Query.Composition
  ──────────────────────────────────
  Pipes and groups compose queries.

  A text behind a pipe, and a text in brackets, adds its statements to those before it.
  So there are several ways to write two queries one after the other, and all of them are
  read as the statements of the first followed by those of the second.  Running these is
  running the first query and then the second one on its result.
-/
import JsonQuery.Proofs.Query.Parsing

namespace JsonQuery

open Query

namespace Grammar

variable {t u : List Char} {ss ts : List Statement}

/-! ## §1. Texts put together. -/

/-- A text, a pipe and a text. -/
theorem Statements.append {t u : List Char} {ss ts : List Statement} :
    Statements t ss → Statements u ts → Statements (t ++ '|' :: u) (ss ++ ts)
  | .segment ht, hu => .pipe ht hu
  | .pipe ht hv, hu => by
    rw [List.append_assoc, List.cons_append, List.append_assoc]
    exact .pipe ht (hv.append hu)

/-- A text in brackets is a query of its own. -/
theorem Statements.bracketed (h : Statements t ss) : Statements ('(' :: (t ++ [')'])) ss := by
  -- nothing stands behind the group, and that nothing is dropped
  have hsegment := Segment.groups (.one (.mk h)) (.steps .nil)
  rw [List.append_nil, List.isEmpty_nil, if_pos rfl, List.append_nil] at hsegment
  exact .segment hsegment

theorem Commands.ne_nil_of_ne_nil {st : Statement} (h : Commands t st) (ht : t ≠ []) :
    st ≠ [] := by
  rintro rfl
  generalize hst : ([] : Statement) = st at h
  cases h with
  | steps h =>
    subst hst
    exact ht h.of_nil
  | assign _ _ _ => simp at hst
  | calls _ _ => simp at hst
  | list _ => simp at hst

/-- A group before a segment that is there. -/
theorem Segment.behind_group (h : Group t ss) (hu : Segment u ts) (hne : u ≠ []) :
    Segment (t ++ u) (ss ++ ts) := by
  cases hu with
  | @commands _ st hu =>
    -- behind a group an empty statement would be dropped
    have hst : st.isEmpty = false := by simpa using hu.ne_nil_of_ne_nil hne
    have hsegment := Segment.groups (.one h) hu
    rwa [hst] at hsegment
  | groups hv hu =>
    rw [← List.append_assoc, ← List.append_assoc]
    exact .groups (.more h hv) hu

/-- A group directly before a text, which must neither be empty nor begin with a pipe. -/
theorem Statements.behind_group (h : Group t ss) (hu : Statements u ts) (hne : u ≠ [])
    (hpipe : u.head? ≠ some '|') : Statements (t ++ u) (ss ++ ts) := by
  cases hu with
  | segment hu => exact .segment (hu.behind_group h hne)
  | @pipe v w _ _ hv hw =>
    -- only the first segment moves into the group's
    have hv' : v ≠ [] := by
      rintro rfl
      exact hpipe rfl
    rw [← List.append_assoc, ← List.append_assoc]
    exact .pipe (hv.behind_group h hv') hw

end Grammar

/-! ## §2. Queries put together. -/

namespace Query

/-- One query after another. -/
def andThen (p q : Query) : Query := ofStatements (p.statements ++ q.statements)

open Grammar

theorem run_ofStatements (r : Registry) {ss : List Statement} (hne : ss ≠ []) (d : Json) :
    (ofStatements ss).run r d = ss.foldlM (fun d s => Statement.run r s d) d := by
  unfold run
  rw [statements_ofStatements hne]

theorem run_andThen (r : Registry) (p q : Query) (hp : p.statements ≠ []) (d : Json) :
    (p.andThen q).run r d = p.run r d >>= q.run r := by
  unfold andThen
  rw [run_ofStatements r (List.append_ne_nil_of_left_ne_nil hp _), List.foldlM_append]
  rfl

theorem andThen_assoc (p q w : Query) (hp : p.statements ≠ []) (hq : q.statements ≠ []) :
    (p.andThen q).andThen w = p.andThen (q.andThen w) := by
  unfold andThen
  rw [statements_ofStatements (List.append_ne_nil_of_left_ne_nil hp _),
    statements_ofStatements (List.append_ne_nil_of_left_ne_nil hq _), List.append_assoc]

/-! ## §3. Five ways to write one query after another. -/

/-- Two texts that parse, joined by a pipe, with or without brackets around either or both, or by
brackets alone, parse to the statements of the first followed by those of the second. Running them
is running the one and then the other, and joining a third text is associative. -/
theorem parse_compose (p q : String) (P Q : Query) (hp : parse p = .ok P) (hq : parse q = .ok Q) :
    parse (p ++ "|" ++ q) = .ok (P.andThen Q)
      ∧ parse ("(" ++ p ++ ")|" ++ q) = .ok (P.andThen Q)
      ∧ parse (p ++ "|(" ++ q ++ ")") = .ok (P.andThen Q)
      ∧ parse ("(" ++ p ++ "|" ++ q ++ ")") = .ok (P.andThen Q)
      ∧ (q ≠ "" → q.toList.head? ≠ some '|' →
          parse ("(" ++ p ++ ")" ++ q) = .ok (P.andThen Q))
      ∧ (P.andThen Q).statements = P.statements ++ Q.statements
      ∧ (∀ r d, (P.andThen Q).run r d = P.run r d >>= fun v => Q.run r v)
      ∧ ∀ w W, parse w = .ok W →
          parse ("(" ++ p ++ "|" ++ q ++ ")|" ++ w) = .ok ((P.andThen Q).andThen W)
            ∧ parse (p ++ "|(" ++ q ++ "|" ++ w ++ ")") = .ok ((P.andThen Q).andThen W) := by
  obtain ⟨hP, hPne⟩ := statements_of_parse hp
  obtain ⟨hQ, hQne⟩ := statements_of_parse hq
  have hne : P.statements ++ Q.statements ≠ [] := List.append_ne_nil_of_left_ne_nil hPne _
  refine ⟨?_, ?_, ?_, ?_, ?_, ?_, ?_, ?_⟩
  · exact parse_of_statements _ (by simpa using hP.append hQ)
  · exact parse_of_statements _ (by simpa using hP.bracketed.append hQ)
  · exact parse_of_statements _ (by simpa using hP.append hQ.bracketed)
  · exact parse_of_statements _ (by simpa using (hP.append hQ).bracketed)
  · intro hq hpipe
    have hne : q.toList ≠ [] := by simpa using hq
    exact parse_of_statements _ (by simpa using hQ.behind_group (.mk hP) hne hpipe)
  · exact statements_ofStatements hne
  · exact fun r d => run_andThen r P Q hPne d
  · intro w W hw
    obtain ⟨hW, hWne⟩ := statements_of_parse hw
    constructor
    · unfold andThen
      rw [statements_ofStatements hne]
      exact parse_of_statements _ (by simpa using (hP.append hQ).bracketed.append hW)
    · rw [andThen_assoc P Q W hPne hQne]
      unfold andThen
      rw [statements_ofStatements (List.append_ne_nil_of_left_ne_nil hQne _)]
      exact parse_of_statements _ (by simpa using hP.append (hQ.append hW).bracketed)

/-- A write in brackets and a read behind it. -/
theorem parse_compose_write_read :
    parse "(.[0]=1).[0]"
      = .ok (.piped [[.assign (.index 0) (.literal (.int 1))], [.select (.index 0)]]) := by
  have hzero : Literal ['0'] (.int 0) := .token (.plain (by decide) rfl .nil)
  have hone : Literal ['1'] (.int 1) := .token (.plain (by decide) rfl .nil)
  have hstep : Grammar.Step ['.', '[', '0', ']'] (.select (.index 0)) :=
    .index ⟨'0', [], rfl, rfl⟩ hzero
  have hwrite : Statements ['.', '[', '0', ']', '=', '1']
      [[.assign (.index 0) (.literal (.int 1))]] :=
    .segment (.commands (.assign .nil hstep (.literal hone)))
  have hread : Statements ['.', '[', '0', ']'] [[.select (.index 0)]] :=
    .segment (.commands (.steps (.snoc .nil hstep)))
  exact (parse_compose ".[0]=1" ".[0]" _ _ (parse_of_statements _ hwrite)
    (parse_of_statements _ hread)).2.2.2.2.1 (by decide) (by decide)

end Query

end JsonQuery
