/-
  JsonQuery.Proofs.Document.Independence
  ──────────────────────────────────────
  A draft is a tree of places that do not depend on one another.

  A write changes what is at and below its place.  Places apart from it keep their values,
  the containers that it lies in keep their length or their keys, and writes at places that
  are apart may be exchanged.  Under a key a container takes a value at the position that
  the key had, or as its last entry.  A write that fails changes nothing.

  Main result:
    * `Draft.writes_independent` — when the two writes of a draft succeed, and what they do.
-/
import JsonQuery.Proofs.Document.InPlace
import JsonQuery.Proofs.Document.Interval

namespace JsonQuery

/-! ## §1. Containers. -/

/-- Whether a value can be put under a key: in an object always, in an array under an index that
lies in it. -/
def Json.Takes (c : Json) (key : Key) : Prop :=
  (∃ entries, c = .obj entries)
    ∨ ∃ items n, c = .arr items ∧ key = .index n
      ∧ -(items.length : Int) ≤ n.toInt ∧ n.toInt < items.length

/-- A container before and after a value is put under a key: an item in its place, an entry in its
place, or one more entry behind all others. -/
inductive Json.Entered (key : Key) (new : Json) : Json → Json → Prop
  | item {n : Int64} {items : List Json} {i : Nat} : key = .index n →
      resolveIndex n items.length = some i →
      Entered key new (.arr items) (.arr (items.set i new))
  | entry {pre post : Entries} {old : Json} : key.text ∉ pre.keys →
      Entered key new (.obj (pre ++ (key.text, old) :: post))
        (.obj (pre ++ (key.text, new) :: post))
  | last {entries : Entries} : key.text ∉ entries.keys →
      Entered key new (.obj entries) (.obj (entries ++ [(key.text, new)]))

namespace Entries

/-- The first entry under a key that is there. -/
theorem exists_first_of_mem {entries : Entries} {key : String} (h : key ∈ entries.keys) :
    ∃ pre old post, key ∉ keys pre ∧ entries = pre ++ (key, old) :: post := by
  induction entries with
  | nil => cases h
  | cons e rest ih =>
    by_cases he : e.1 = key
    · exact ⟨[], e.2, rest, List.not_mem_nil, by rw [← he]; rfl⟩
    · have hrest : key ∈ keys rest := by
        simpa [keys, Ne.symm he] using h
      obtain ⟨pre, old, post, hpre, rfl⟩ := ih hrest
      refine ⟨e :: pre, old, post, ?_, rfl⟩
      simpa [keys, Ne.symm he] using hpre

end Entries

namespace Json

variable {c new : Json} {key : Key}

theorem exists_target_iff : (∃ step, c.target key = .ok step) ↔ c.Takes key := by
  constructor
  · rintro ⟨step, h⟩
    cases c with
    | arr items =>
      cases key with
      | index n =>
        refine .inr ⟨items, n, rfl, rfl, isSome_resolveIndex_iff.mp ?_⟩
        cases hi : resolveIndex n items.length with
        | none => simp [target, hi] at h
        | some i => exact ⟨i, rfl⟩
      | _ => cases h
    | obj entries => exact .inl ⟨entries, rfl⟩
    | _ => cases h
  · rintro (⟨entries, rfl⟩ | ⟨items, n, rfl, rfl, hn⟩)
    · exact ⟨.field key.text, rfl⟩
    · obtain ⟨i, hi⟩ := isSome_resolveIndex_iff.mpr hn
      exact ⟨.item i, by simp [target, hi]⟩

/-- A container with a value at the step that a key leads to is the one with the value under the
key. -/
theorem entered_setChild {step : Step} (h : c.target key = .ok step) :
    Entered key new c (c.setChild step new) := by
  cases c with
  | arr items =>
    cases key with
    | index n =>
      cases hi : resolveIndex n items.length with
      | none => simp [target, hi] at h
      | some i =>
        simp only [target, hi] at h
        injection h with h
        subst h
        exact .item rfl hi
    | _ => cases h
  | obj entries =>
    injection h with h
    subst h
    show Entered key new (.obj entries) (.obj (Entries.put entries key.text new))
    -- the value takes the place of the first entry of the key, or comes last
    by_cases hk : key.text ∈ Entries.keys entries
    · obtain ⟨pre, old, post, hpre, rfl⟩ := Entries.exists_first_of_mem hk
      rw [Entries.put_append_cons pre post hpre]
      exact .entry hpre
    · rw [Entries.put_of_not_mem hk]
      exact .last hk
  | _ => cases h

end Json

/-! ## §2. What a write does. -/

namespace Draft

/-- `d'` is `d` with a value at a path. -/
structure Replaced (d : Draft) (p : Path) (new : Json) (d' : Draft) : Prop where
  /-- At and below the path is what the value holds. -/
  inside : ∀ r, d'.get? (p ++ r) = new.get? r
  elsewhere : ∀ q, Path.Apart p q → d'.get? q = d.get? q
  /-- Values that are not at or below the path keep their kind, their length and their keys. -/
  outline : ∀ q, ¬ p <+: q → (d'.get? q).map Json.outline = (d.get? q).map Json.outline
  /-- A write elsewhere does the same before and after this one, whether it succeeds or not. -/
  swap : ∀ q other, Path.Apart p q →
    d'.replace q other = d.replace q other >>= fun e => e.replace p new

/-- `d'` is `d` with a value under a key of the container at a path. -/
structure Assigned (d : Draft) (p : Path) (key : Key) (new : Json) (d' : Draft) : Prop where
  container : ∃ c c', d.get? p = some c ∧ d'.get? p = some c' ∧ Json.Entered key new c c'
  /-- The key selects the value, and other children of the container are as they were. -/
  selected : ∃ step,
    (∀ place : Place, d'.get? p = some place.value →
      place.select key = .ok (place.child step new))
    ∧ ∀ q, Path.Apart (p ++ [step]) q → d'.get? q = d.get? q
  elsewhere : ∀ q, Path.Apart p q → d'.get? q = d.get? q
  outline : ∀ q, ¬ p <+: q → (d'.get? q).map Json.outline = (d.get? q).map Json.outline

variable {d d' : Draft} {p : Path} {key : Key} {new : Json}

theorem exists_replace_iff : (∃ d', d.replace p new = .ok d') ↔ ∃ old, d.get? p = some old := by
  constructor
  · rintro ⟨d', h⟩
    cases hp : d.get? p with
    | none =>
      rw [replace_of_missing hp] at h
      cases h
    | some old => exact ⟨old, rfl⟩
  · rintro ⟨old, h⟩
    obtain ⟨d', hd', -⟩ := exists_replace h new
    exact ⟨d', hd'⟩

theorem replaced_of_replace (h : d.replace p new = .ok d') : d.Replaced p new d' where
  inside := get?_of_replace h
  elsewhere _ hq := get?_of_replace_of_apart h hq
  outline _ hq := Json.outline_of_set? (replace_eq_ok_iff.mp h) hq
  swap _ other hq := replace_comm h hq other

theorem assign_eq_ok_iff :
    d.assign p key new = .ok d' ↔
      ∃ c step, d.get? p = some c ∧ c.target key = .ok step
        ∧ d.replace p (c.setChild step new) = .ok d' := by
  cases hp : d.get? p with
  | none =>
    rw [assign, hp]
    simp
  | some c =>
    rw [assign_eq hp, Json.assign_eq]
    cases ht : c.target key with
    | error e => simp [Except.map, ht]
    | ok step => simp [Except.map, ht]

theorem exists_assign_iff :
    (∃ d', d.assign p key new = .ok d') ↔ ∃ c, d.get? p = some c ∧ c.Takes key := by
  constructor
  · rintro ⟨d', h⟩
    obtain ⟨c, step, hc, ht, -⟩ := assign_eq_ok_iff.mp h
    exact ⟨c, hc, Json.exists_target_iff.mp ⟨step, ht⟩⟩
  · rintro ⟨c, hc, hk⟩
    obtain ⟨step, ht⟩ := Json.exists_target_iff.mpr hk
    obtain ⟨d', hd', -⟩ := exists_replace hc (c.setChild step new)
    exact ⟨d', assign_eq_ok_iff.mpr ⟨c, step, hc, ht, hd'⟩⟩

theorem assigned_of_assign (h : d.assign p key new = .ok d') : d.Assigned p key new d' := by
  obtain ⟨c, step, hc, ht, hd'⟩ := assign_eq_ok_iff.mp h
  obtain ⟨inside, elsewhere, outline, -⟩ := replaced_of_replace hd'
  have hc' : d'.get? p = some (c.setChild step new) := by
    rw [← List.append_nil p]
    exact inside []
  refine ⟨⟨c, _, hc, hc', Json.entered_setChild ht⟩, ⟨step, ?_, ?_⟩, elsewhere, outline⟩
  · intro place hplace
    rw [hc'] at hplace
    injection hplace with hplace
    rw [Place.select_eq, ← hplace, Json.slot_setChild ht]
    rfl
  · intro q hq
    rcases hq.of_append_singleton with hq | ⟨other, r, hother, rfl⟩
    · exact elsewhere q hq
    · -- another child of the container, or something in it
      rw [inside, Json.get?, Json.child?_setChild_of_ne hother]
      show _ = d.document.get? (p ++ other :: r)
      rw [Json.get?_append, show d.document.get? p = some c from hc]
      rfl

/-! ## §3. Independence. -/

/-- A value can be replaced where one is, and put under a key where a container takes the key. What
then is at the place is the new value, and all places apart from it are as they were. Carried out
in place, a write that fails leaves the document as it was. -/
theorem writes_independent (d : Draft) (p : Path) (key : Key) (new : Json) :
    ((∃ d', d.replace p new = .ok d') ↔ ∃ old, d.get? p = some old)
      ∧ (∀ d', d.replace p new = .ok d' → d.Replaced p new d')
      ∧ ((∃ d', d.assign p key new = .ok d') ↔ ∃ c, d.get? p = some c ∧ c.Takes key)
      ∧ (∀ d', d.assign p key new = .ok d' → d.Assigned p key new d')
      ∧ (Edit.replace p new d.document =
          match d.replace p new with
          | .ok d' => (.ok (), d'.document)
          | .error e => (.error e, d.document))
      ∧ Edit.assign p key new d.document =
          match d.assign p key new with
          | .ok d' => (.ok (), d'.document)
          | .error e => (.error e, d.document) :=
  ⟨exists_replace_iff, fun _ => replaced_of_replace, exists_assign_iff,
    fun _ => assigned_of_assign, Edit.replace_eq d p new, Edit.assign_eq d p key new⟩

end Draft

end JsonQuery
