/-
  JsonQuery.Proofs.Document.Write
  ───────────────────────────────
  The laws of writing at a path.

  Writing twice at one path keeps the last value, writing what is there changes nothing,
  and writing below a path is writing at the path the value with another child.  What is
  not at or below the path stays as it is, the order of keys included.  A draft obeys the
  laws of writing at every path that leads somewhere in it.
-/
import JsonQuery.Document.Draft
import JsonQuery.Proofs.Json.Lawful

namespace JsonQuery

/-! ## §1. Entries. -/

namespace Entries

theorem put_put (entries : Entries) (key : String) (a b : Json) :
    (entries.put key a).put key b = entries.put key b := by
  induction entries with
  | nil => simp [put]
  | cons e rest ih => by_cases h : e.1 = key <;> simp [put, h, ih]

theorem put_get? {entries : Entries} {key : String} {value : Json}
    (h : entries.get? key = some value) : entries.put key value = entries := by
  induction entries with
  | nil => simp [get?] at h
  | cons e rest ih =>
    obtain ⟨k, v⟩ := e
    simp only [get?] at h
    split at h
    · rename_i hk
      injection h with h
      subst hk h
      simp [put]
    · rename_i hk
      simp [put, hk, ih h]

end Entries

/-! ## §2. One step. -/

namespace Json

theorem setChild_setChild (v : Json) (step : Step) (a b : Json) :
    (v.setChild step a).setChild step b = v.setChild step b := by
  cases v with
  | obj entries =>
    cases step with
    | field name => simp [setChild, Entries.put_put]
    | item i => rfl
  | arr items =>
    cases step with
    | field name => rfl
    | item i => simp [setChild]
  | _ => rfl

/-- Putting back the child that is there changes nothing. -/
theorem setChild_self {v child : Json} {step : Step} (h : v.child? step = some child) :
    v.setChild step child = v := by
  unfold child? at h
  split at h
  · simp [setChild, Entries.put_get? h]
  · obtain ⟨hi, hc⟩ := List.getElem?_eq_some_iff.mp h
    rw [← hc]
    simp [setChild]
  · cases h

/-- Writing at one step leaves the children at other steps as they are. -/
theorem child?_setChild_of_ne {step other : Step} (h : other ≠ step) (v new : Json) :
    (v.setChild step new).child? other = v.child? other := by
  cases v with
  | obj entries =>
    cases step with
    | field name =>
      cases other with
      | field key =>
        have hk : key ≠ name := fun hk => h (by rw [hk])
        simp [setChild, child?, Entries.get?_put_of_ne hk]
      | item i => rfl
    | item i => rfl
  | arr items =>
    cases step with
    | field name => rfl
    | item i =>
      cases other with
      | field key => rfl
      | item j =>
        have hj : i ≠ j := fun hj => h (by rw [hj])
        simp [setChild, child?, List.getElem?_set_ne hj]
  | _ => rfl

/-! ## §3. Paths. -/

@[simp] theorem get?_singleton (v : Json) (step : Step) : v.get? [step] = v.child? step := by
  cases h : v.child? step <;> simp [get?, h]

theorem set?_set? {v w : Json} {path : Path} {a : Json} (h : v.set? path a = some w) (b : Json) :
    w.set? path b = v.set? path b := by
  induction path generalizing v w with
  | nil => rfl
  | cons step path ih =>
    simp only [set?, Option.bind_eq_bind, Option.bind_eq_some_iff, Option.pure_def,
      Option.some.injEq] at h
    obtain ⟨c, hc, d, hd, rfl⟩ := h
    -- the first write left its own child at the step, and the second one starts there
    simp only [set?, child?_setChild hc, hc, Option.bind_eq_bind, Option.bind_some, ih hd,
      setChild_setChild]

theorem set?_self {v w : Json} {path : Path} (h : v.get? path = some w) :
    v.set? path w = some v := by
  induction path generalizing v with
  | nil =>
    injection h with h
    rw [h]
    rfl
  | cons step path ih =>
    simp only [get?, Option.bind_eq_some_iff] at h
    obtain ⟨c, hc, h⟩ := h
    simp [set?, hc, ih h, setChild_self hc]

/-- Writing one step below a path is writing at the path the value with another child. -/
theorem set?_append_singleton {v w c : Json} {path : Path} {step : Step}
    (h : v.get? path = some w) (hc : w.child? step = some c) (new : Json) :
    v.set? (path ++ [step]) new = v.set? path (w.setChild step new) := by
  induction path generalizing v with
  | nil =>
    injection h with h
    subst h
    simp [set?, hc]
  | cons first path ih =>
    simp only [get?, Option.bind_eq_some_iff] at h
    obtain ⟨u, hu, h⟩ := h
    simp [set?, hu, ih h]

end Json

/-! ## §4. Everything else. -/

/-- What a value is without its children. -/
inductive Outline where
  | scalar (v : Json)
  | array (length : Nat)
  | object (keys : List String)

namespace Json

/-- A scalar itself, the length of an array, the keys of an object in document order. -/
def outline : Json → Outline
  | .arr items => .array items.length
  | .obj entries => .object (Entries.keys entries)
  | v => .scalar v

/-- A container with another child in place of one has the same positions or keys. -/
theorem outline_setChild {v old : Json} {step : Step} (h : v.child? step = some old)
    (new : Json) : (v.setChild step new).outline = v.outline := by
  unfold child? at h
  split at h
  · rename_i entries name
    have hmem : name ∈ Entries.keys entries := List.mem_map_of_mem (Entries.mem_of_get? h)
    show Outline.object (Entries.keys (Entries.put entries name new)) = _
    rw [Entries.keys_put, if_pos hmem]
    rfl
  · rename_i items i
    show Outline.array (items.set i new).length = .array items.length
    rw [List.length_set]
  · cases h

/-- Writing at a path changes nothing but what is at or below it. -/
theorem outline_of_set? {v w new : Json} {path : Path} (h : v.set? path new = some w)
    {other : Path} (hother : ¬ path <+: other) :
    (w.get? other).map outline = (v.get? other).map outline := by
  induction path generalizing v w other with
  | nil => exact absurd (List.nil_prefix) hother
  | cons step path ih =>
    simp only [set?, Option.bind_eq_bind, Option.bind_eq_some_iff, Option.pure_def,
      Option.some.injEq] at h
    obtain ⟨c, hc, d, hd, rfl⟩ := h
    cases other with
    | nil => exact congrArg some (outline_setChild hc d)
    | cons first other =>
      -- the write goes on in one child, and leaves the others as they are
      by_cases hfirst : first = step
      · subst hfirst
        have hother : ¬ path <+: other := fun hp =>
          hother (List.cons_prefix_cons.mpr ⟨rfl, hp⟩)
        simp only [get?, child?_setChild hc, hc, Option.bind_some]
        exact ih hd hother
      · simp only [get?, child?_setChild_of_ne hfirst]

end Json

/-! ## §5. Drafts. -/

namespace Draft

variable {d : Draft} {path : Path} {w : Json}

/-- Where a path leads somewhere a value can be put, and is found there. -/
theorem exists_replace (h : d.get? path = some w) (new : Json) :
    ∃ d' : Draft, d.replace path new = .ok d' ∧ d'.get? path = some new := by
  -- a value can be put exactly where one is
  have hs : (d.document.set? path new).isSome := by
    rw [Json.isSome_set?, show d.document.get? path = some w from h]
    rfl
  obtain ⟨v, hv⟩ := Option.isSome_iff_exists.mp hs
  refine ⟨⟨v⟩, ?_, Json.get?_of_set? hv⟩
  unfold replace
  rw [hv]

theorem replace_self (h : d.get? path = some w) : d.replace path w = .ok d := by
  unfold replace
  rw [Json.set?_self h]

theorem replace_replace {d' : Draft} {a : Json} (h : d.replace path a = .ok d') (b : Json) :
    d'.replace path b = d.replace path b := by
  unfold replace at h
  split at h
  · rename_i v hv
    injection h with h
    subst h
    unfold replace
    rw [Json.set?_set? hv]
  · cases h

/-- The value one step below a path. -/
theorem get?_append_singleton (h : d.get? path = some w) (step : Step) :
    d.get? (path ++ [step]) = w.child? step := by
  unfold get? at h ⊢
  rw [Json.get?_append, h, Option.bind_some, Json.get?_singleton]

/-- Replacing one step below a path is replacing at the path. -/
theorem replace_append_singleton (h : d.get? path = some w) {step : Step} {c : Json}
    (hc : w.child? step = some c) (new : Json) :
    d.replace (path ++ [step]) new = d.replace path (w.setChild step new) := by
  obtain ⟨d', hd', -⟩ := exists_replace h (w.setChild step new)
  unfold replace at hd' ⊢
  rw [Json.set?_append_singleton h hc]
  split at hd'
  · rfl
  · cases hd'

theorem assign_eq (h : d.get? path = some w) (key : Key) (value : Json) :
    d.assign path key value = w.assign key value >>= d.replace path := by
  unfold assign
  rw [h]

end Draft

end JsonQuery
