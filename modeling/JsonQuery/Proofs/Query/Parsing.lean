/-
  JsonQuery.Proofs.Query.Parsing
  ──────────────────────────────
  Parsing accepts exactly the texts of the grammar.

  The reader is sound and complete for the grammar.  As it yields one result only, no text
  has two readings.
-/
import JsonQuery.Proofs.Query.Complete

namespace JsonQuery

open Grammar

namespace Grammar

/-! ## §1. Whole texts. -/

theorem ofChars_eq_ok_iff {text : List Char} {q : Query} :
    Query.ofChars text = .ok q ↔ ∃ ss, Statements text ss ∧ q = Query.ofStatements ss := by
  unfold Query.ofChars
  constructor
  · intro h
    obtain ⟨r, hread, rfl⟩ := map_eq_ok_iff.mp h
    obtain ⟨t, rest, rfl, -, ht, hrest⟩ := (sound text).statements false r hread
    -- outside of groups only the end of the text ends a query
    have hnil : rest = [] := by
      cases rest with
      | nil => rfl
      | cons c rest => simp [endsStatements] at hrest
    rw [hnil, List.append_nil]
    exact ⟨r.value, ht, rfl⟩
  · rintro ⟨ss, h, rfl⟩
    have hread := readStatements_complete h false [] (follows_nil _)
    rw [List.append_nil] at hread
    rw [hread]
    rfl

/-- A text stands for one sequence of statements. -/
theorem Statements.unique {t : List Char} {ss ts : List Statement} (h : Statements t ss)
    (h' : Statements t ts) : ss = ts := by
  have hread := readStatements_complete h false [] (follows_nil _)
  rw [readStatements_complete h' false [] (follows_nil _)] at hread
  injection hread with hread
  injection hread with hread
  exact hread.symm

theorem parse_eq_ok_iff {text : String} {q : Query} :
    Query.parse text = .ok q ↔ Reads text q := by
  unfold Query.parse Reads
  rw [← ofChars_eq_ok_iff]
  cases Query.ofChars text.toList with
  | error e =>
    constructor
    · intro h
      cases h
    · intro h
      cases h
  | ok r =>
    constructor
    · intro h
      injection h with h
      rw [h]
    · intro h
      injection h with h
      rw [h]
      rfl

/-! ## §2. There is a statement in every text. -/

mutual

theorem Statements.ne_nil {t : List Char} {ss : List Statement} : Statements t ss → ss ≠ []
  | .segment h => h.ne_nil
  | .pipe h _ => List.append_ne_nil_of_left_ne_nil h.ne_nil _

theorem Segment.ne_nil {t : List Char} {ss : List Statement} : Segment t ss → ss ≠ []
  | .commands _ => List.cons_ne_nil _ _
  | .groups h _ => List.append_ne_nil_of_left_ne_nil h.ne_nil _

theorem Groups.ne_nil {t : List Char} {ss : List Statement} : Groups t ss → ss ≠ []
  | .one h => h.ne_nil
  | .more h _ => List.append_ne_nil_of_left_ne_nil h.ne_nil _

theorem Group.ne_nil {t : List Char} {ss : List Statement} : Group t ss → ss ≠ []
  | .mk h => h.ne_nil

end

end Grammar

/-! ## §3. Parsing. -/

namespace Query

theorem statements_of_parse {text : String} {q : Query} (h : parse text = .ok q) :
    Statements text.toList q.statements ∧ q.statements ≠ [] := by
  obtain ⟨ss, hss, rfl⟩ := parse_eq_ok_iff.mp h
  rw [statements_ofStatements hss.ne_nil]
  exact ⟨hss, hss.ne_nil⟩

theorem parse_of_statements (text : String) {ss : List Statement}
    (h : Statements text.toList ss) : parse text = .ok (ofStatements ss) :=
  parse_eq_ok_iff.mpr ⟨ss, h, rfl⟩

/-- Parsing yields a query exactly if the text reads as it, and no text reads as two. -/
theorem parse_iff_reads (text : String) :
    (∀ q, parse text = .ok q ↔ Reads text q)
      ∧ ∀ q q', Reads text q → Reads text q' → q = q' := by
  refine ⟨fun q => parse_eq_ok_iff, ?_⟩
  rintro q q' ⟨ss, h, rfl⟩ ⟨ts, h', rfl⟩
  rw [h.unique h']

end Query

end JsonQuery
