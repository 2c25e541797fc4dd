/-
  JsonQuery.Proofs.Document.Apart
  ───────────────────────────────
  Paths that part ways.

  Two paths are apart if neither is a beginning of the other: they share some steps and
  then lead to different children.  What is written at one of them is not seen at the
  other, so that writes at paths that are apart may be exchanged (`set?_comm`).
-/
import JsonQuery.Proofs.Document.Write
import JsonQuery.Proofs.Except

namespace JsonQuery

/-! ## §1. Paths. -/

/-- Neither path is a beginning of the other. -/
def Path.Apart (p q : Path) : Prop := ¬ p <+: q ∧ ¬ q <+: p

namespace Path.Apart

variable {p q : Path}

theorem symm (h : Apart p q) : Apart q p := ⟨h.2, h.1⟩

theorem not_nil_left : ¬ Apart [] q := fun h => h.1 List.nil_prefix

theorem not_nil_right : ¬ Apart p [] := fun h => h.2 List.nil_prefix

/-- Paths part at their first steps or behind them. -/
theorem cons_iff {s t : Step} : Apart (s :: p) (t :: q) ↔ s ≠ t ∨ Apart p q := by
  by_cases h : s = t
  · simp [Apart, h]
  · simp [Apart, h, Ne.symm h]

theorem append_left_iff (p : Path) {r s : Path} : Apart (p ++ r) (p ++ s) ↔ Apart r s := by
  induction p with
  | nil => rfl
  | cons step p ih => simpa [cons_iff] using ih

/-- Paths that are apart stay so however they go on. -/
theorem append (h : Apart p q) (r s : Path) : Apart (p ++ r) (q ++ s) := by
  induction p generalizing q with
  | nil => exact absurd h not_nil_left
  | cons a p ih =>
    cases q with
    | nil => exact absurd h not_nil_right
    | cons b q =>
      rcases cons_iff.mp h with hne | h
      · exact cons_iff.mpr (.inl hne)
      · exact cons_iff.mpr (.inr (ih h))

/-- A path that parts from another one extended by a step parts from it before that step or goes
to another child there. -/
theorem of_append_singleton {s : Step} (h : Apart (p ++ [s]) q) :
    Apart p q ∨ ∃ t r, t ≠ s ∧ q = p ++ t :: r := by
  induction p generalizing q with
  | nil =>
    cases q with
    | nil => exact absurd h not_nil_right
    | cons t r =>
      rcases cons_iff.mp h with hne | h
      · exact .inr ⟨t, r, hne.symm, rfl⟩
      · exact absurd h not_nil_left
  | cons a p ih =>
    cases q with
    | nil => exact absurd h not_nil_right
    | cons b q =>
      -- a step that both have in common is taken off both
      by_cases hab : a = b
      · subst hab
        have hrest : Apart (p ++ [s]) q := (cons_iff.mp h).resolve_left fun hne => hne rfl
        rcases ih hrest with hpq | ⟨t, r, ht, rfl⟩
        · exact .inl (cons_iff.mpr (.inr hpq))
        · exact .inr ⟨t, r, ht, rfl⟩
      · exact .inl (cons_iff.mpr (.inl hab))

end Path.Apart

/-! ## §2. One step. -/

/-- Entries under different keys may be written in either order, unless both are new. -/
theorem Entries.put_comm {entries : Entries} {k l : String} {old : Json} (h : k ≠ l)
    (hk : entries.get? k = some old) (a b : Json) :
    (entries.put k a).put l b = (entries.put l b).put k a := by
  induction entries with
  | nil => cases hk
  | cons e rest ih =>
    obtain ⟨key, value⟩ := e
    by_cases hkey : key = k
    · subst hkey
      simp [put, h]
    · have hrest : Entries.get? rest k = some old := by simpa [get?, hkey] using hk
      by_cases hl : key = l
      · subst hl
        simp [put, hkey]
      · simp [put, hkey, hl, ih hrest]

namespace Json

variable {v w old : Json} {p q : Path}

theorem setChild_comm {s t : Step} (h : s ≠ t) (hs : v.child? s = some old) (a b : Json) :
    (v.setChild s a).setChild t b = (v.setChild t b).setChild s a := by
  unfold child? at hs
  split at hs
  · rename_i entries name
    cases t with
    | field key =>
      have hne : name ≠ key := fun hk => h (by rw [hk])
      simp [setChild, Entries.put_comm hne hs]
    | item j => rfl
  · rename_i items i
    cases t with
    | field key => rfl
    | item j =>
      have hne : i ≠ j := fun hj => h (by rw [hj])
      simp [setChild, List.set_comm _ _ hne]
  · cases hs

/-! ## §3. Writing at paths. -/

theorem set?_cons_eq_some_iff {step : Step} {new : Json} :
    v.set? (step :: p) new = some w ↔
      ∃ c d, v.child? step = some c ∧ c.set? p new = some d ∧ w = v.setChild step d := by
  simp only [set?, Option.bind_eq_bind, Option.bind_eq_some_iff, Option.pure_def,
    Option.some.injEq]
  constructor
  · rintro ⟨c, hc, d, hd, rfl⟩
    exact ⟨c, d, hc, hd, rfl⟩
  · rintro ⟨c, d, hc, hd, rfl⟩
    exact ⟨c, hc, d, hd, rfl⟩

/-- What is written at a path is not seen at paths that are apart from it. -/
theorem get?_of_set?_of_apart {new : Json} (h : v.set? p new = some w) (hpq : Path.Apart p q) :
    w.get? q = v.get? q := by
  induction p generalizing v w q with
  | nil => exact absurd hpq Path.Apart.not_nil_left
  | cons s p ih =>
    obtain ⟨c, d, hc, hd, rfl⟩ := set?_cons_eq_some_iff.mp h
    cases q with
    | nil => exact absurd hpq Path.Apart.not_nil_right
    | cons t q =>
      by_cases hst : t = s
      · subst hst
        have hpq : Path.Apart p q := (Path.Apart.cons_iff.mp hpq).resolve_left fun h => h rfl
        simp only [get?, child?_setChild hc, hc, Option.bind_some]
        exact ih hd hpq
      · simp only [get?, child?_setChild_of_ne hst]

/-- Writes at paths that are apart may be exchanged. -/
theorem set?_comm {a : Json} (h : v.set? p a = some w) (hpq : Path.Apart p q) (b : Json) :
    w.set? q b = (v.set? q b).bind fun u => u.set? p a := by
  induction p generalizing v w q with
  | nil => exact absurd hpq Path.Apart.not_nil_left
  | cons s p ih =>
    obtain ⟨c, d, hc, hd, rfl⟩ := set?_cons_eq_some_iff.mp h
    cases q with
    | nil => exact absurd hpq Path.Apart.not_nil_right
    | cons t q =>
      by_cases hst : t = s
      · -- both writes go to the same child
        subst hst
        have hpq : Path.Apart p q := (Path.Apart.cons_iff.mp hpq).resolve_left fun h => h rfl
        simp only [set?, child?_setChild hc, hc, Option.bind_eq_bind, Option.bind_some, ih hd hpq,
          setChild_setChild, Option.bind_assoc, Option.pure_def]
      · -- they go to different children, of which each is there before the other is written
        have hs : ∀ e, (v.setChild t e).child? s = some c := fun e =>
          (child?_setChild_of_ne (Ne.symm hst) v e).trans hc
        simp only [set?, child?_setChild_of_ne hst, hs, hd, setChild_comm (Ne.symm hst) hc,
          Option.bind_eq_bind, Option.bind_some, Option.bind_assoc, Option.pure_def]

end Json

/-! ## §4. Drafts. -/

namespace Draft

variable {d d' : Draft} {p : Path} {new : Json}

theorem replace_eq_ok_iff :
    d.replace p new = .ok d' ↔ d.document.set? p new = some d'.document := by
  unfold replace
  cases h : d.document.set? p new with
  | none => simp
  | some v =>
    constructor
    · rintro ⟨⟩
      rfl
    · rintro ⟨⟩
      rfl

theorem replace_of_missing (h : d.get? p = none) : d.replace p new = .error (.missingPath p) := by
  have hnone : d.document.set? p new = none := by
    rw [← Option.not_isSome_iff_eq_none, Json.isSome_set?, show d.document.get? p = none from h]
    exact Bool.false_ne_true
  unfold replace
  rw [hnone]

theorem get?_of_replace (h : d.replace p new = .ok d') (r : Path) :
    d'.get? (p ++ r) = new.get? r := by
  rw [get?, Json.get?_append, Json.get?_of_set? (replace_eq_ok_iff.mp h), Option.bind_some]

theorem get?_of_replace_of_apart (h : d.replace p new = .ok d') {q : Path}
    (hpq : Path.Apart p q) : d'.get? q = d.get? q :=
  Json.get?_of_set?_of_apart (replace_eq_ok_iff.mp h) hpq

/-- The other write does the same before and after a write at a path that is apart, whether it
succeeds or not. -/
theorem replace_comm (h : d.replace p new = .ok d') {q : Path} (hpq : Path.Apart p q)
    (other : Json) :
    d'.replace q other = d.replace q other >>= fun e => e.replace p new := by
  have hp := replace_eq_ok_iff.mp h
  have hswap := Json.set?_comm hp hpq other
  cases hq : d.document.set? q other with
  | none =>
    rw [hq, Option.bind_none] at hswap
    unfold replace
    rw [hswap, hq]
    rfl
  | some u =>
    rw [hq, Option.bind_some] at hswap
    -- the first path leads to a value as before, so that the write there succeeds
    obtain ⟨x, hx⟩ : ∃ x, u.set? p new = some x := by
      rw [← Option.isSome_iff_exists, Json.isSome_set?, Json.get?_of_set?_of_apart hq hpq.symm,
        ← Json.isSome_set? _ _ new, hp]
      rfl
    have hother : d.replace q other = .ok ⟨u⟩ := replace_eq_ok_iff.mpr hq
    rw [hother, ok_bind, replace_eq_ok_iff.mpr (hswap.trans hx : _ = some (Draft.mk x).document)]
    exact (replace_eq_ok_iff.mpr hx).symm

end Draft

end JsonQuery
