/-
  JsonQuery.Proofs.Eval.Printable
  ───────────────────────────────
  Documents stay printable, however many queries are run on them.

  JSON text and literals are read as printable values, the standard functions take
  printable values to printable ones, and navigation and writing only move values about.
  So a document that has been loaded is printable, and so is every result that texts lead
  to from it: no object has a key twice, and no float is written as `null`.
-/
import JsonQuery.Proofs.Eval.Nesting
import JsonQuery.Proofs.Json.RoundTrip
import JsonQuery.Shell.Program

namespace JsonQuery

open Number

/-! ## §1. Texts of floats. -/

/-- The text of a positive number has a point or the mark of an exponent. -/
theorem Number.Scientific.exists_mark (s : Scientific) (layout : FloatLayout) :
    '.' ∈ (s.text layout).toList ∨ 'e' ∈ (s.text layout).toList := by
  unfold Scientific.text
  split
  · refine .inl ?_
    unfold Scientific.plain
    simp only
    split
    · simp
    · split <;> simp
  · refine .inr ?_
    unfold Scientific.withExponent
    simp

/-- The two values that are no numbers of the line are not finite. -/
theorem isNaN_isInf_of_isFinite {x : Float} (h : x.isFinite = true) :
    x.isNaN = false ∧ x.isInf = false := by
  have h : x.toModel.unpack.isFinite = true := h
  show x.toModel.unpack.isNaN = false ∧ x.toModel.unpack.isInf = false
  cases hx : x.toModel.unpack with
  | zero s => exact ⟨rfl, rfl⟩
  | finite s m e hm => exact ⟨rfl, rfl⟩
  | infinity s =>
    rw [hx] at h
    cases h
  | notANumber =>
    rw [hx] at h
    cases h

/-- A finite float is not written as `null`. -/
theorem floatChars_ne_null {x : Float} (h : x.isFinite = true) : floatChars x ≠ "null".toList := by
  have hmark : '.' ∈ (jsonFloat.text x).toList ∨ 'e' ∈ (jsonFloat.text x).toList := by
    obtain ⟨hnan, hinf⟩ := isNaN_isInf_of_isFinite h
    unfold FloatLayout.text
    simp only [hnan, hinf, Bool.false_eq_true, if_false]
    split
    · simp
    · have htext := (shortest jsonFloat.tie (Binary.ofFloat x)).exists_mark jsonFloat
      rw [String.toList_append]
      exact htext.imp (List.mem_append_right _) (List.mem_append_right _)
  unfold floatChars
  rw [if_pos h]
  intro hnull
  rw [hnull] at hmark
  revert hmark
  decide

/-! ## §2. Queries. -/

/-- A query that a text writes leads from printable documents to printable ones. -/
theorem Query.printable_of_runText {text : String} {document v : Json}
    (hd : document.Printable) (h : runText .standard text document = .ok v) : v.Printable := by
  unfold runText at h
  cases hparse : parse text with
  | error e =>
    rw [hparse] at h
    cases h
  | ok q =>
    rw [hparse] at h
    have hrun : q.run .standard document = .ok v := h
    have hliteral : ∀ site w, q.Holds site (.literal w) → w.Printable := by
      intro site w hw
      cases (wellFormed_of_parse hparse).holds hw with
      | literal hw => exact hw.printable
    have hbounded := Query.bounded_true Registry.behaved_standard_finite hliteral refused
    rw [Query.run_eq_plain Registry.behaved_standard_finite hliteral hd] at hrun
    exact (Plain.within_query hbounded hd).of_ok hrun

/-- The documents that texts lead to, each run on the result of the one before. -/
inductive Reaches (r : Registry) (document : Json) : Json → Prop
  | refl : Reaches r document document
  | run {v w : Json} {text : String} : Reaches r document v → runText r text v = .ok w →
      Reaches r document w

/-- Whatever texts are run one after another on a document that has been loaded, with the standard
functions: in every document and every result all objects have pairwise distinct keys and all floats
are finite, so that none is written as `null`. -/
theorem printable_of_reaches {source : String} {document v : Json}
    (hload : loadDocument source = .ok document) (h : Reaches .standard document v) :
    v.Printable ∧ v.Lawful fun x => floatChars x ≠ "null".toList := by
  have hprintable : v.Printable := by
    induction h with
    | refl =>
      unfold loadDocument at hload
      split at hload
      · rename_i hread
        injection hload with hload
        exact hload ▸ Json.printable_of_read? hread
      · cases hload
    | run _ hrun ih => exact Query.printable_of_runText ih hrun
  exact ⟨hprintable, hprintable.mono fun _ => floatChars_ne_null⟩

/-- A float that is put in the place of an integer. -/
theorem printable_of_reaches_half :
    loadDocument "[1]" = .ok (.arr [.int 1])
      ∧ runText .standard ".[0]=f(0.5)" (.arr [.int 1]) = .ok (.arr [.float 0.5])
      ∧ (Json.arr [.float 0.5]).Printable
      ∧ (Json.arr [.float 0.5]).Lawful fun x => floatChars x ≠ "null".toList := by
  have hload : loadDocument "[1]" = .ok (.arr [.int 1]) := by
    have hlawful : (Json.arr [.int 1]).Lawful fun _ => False := .arr (by simp [Json.Lawful.int])
    have hread : Json.read? "[1]" = some (.arr [.int 1]) :=
      Json.read?_write hlawful (by decide) .compact
    unfold loadDocument
    rw [hread]
  have hzero : Grammar.Literal ['0'] (.int 0) := .token (.plain (by decide) rfl .nil)
  have hstep : Grammar.Step ['.', '[', '0', ']'] (.select (.index 0)) :=
    .index ⟨'0', [], rfl, rfl⟩ hzero
  have htoken : Grammar.Token (· == ')') ['0', '.', '5'] ['0', '.', '5'] :=
    .plain (by decide) rfl (.plain (by decide) rfl (.plain (by decide) rfl .nil))
  have hhalf : Grammar.Marked ['f', '(', '0', '.', '5', ')'] (.float 0.5) := .mk rfl htoken rfl
  have htext : Grammar.Statements ".[0]=f(0.5)".toList
      [[.assign (.index 0) (.literal (.float 0.5))]] :=
    .segment (.commands (.assign .nil hstep (.literal (.marked hhalf))))
  have hrun : runText .standard ".[0]=f(0.5)" (.arr [.int 1]) = .ok (.arr [.float 0.5]) := by
    rw [Query.runText_of_parse (Query.parse_of_statements _ htext)]
    rfl
  exact ⟨hload, hrun, printable_of_reaches hload (.run .refl hrun)⟩

end JsonQuery
