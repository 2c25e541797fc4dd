/-
  JsonQuery.Proofs.Json.Lawful
  ────────────────────────────
  Values whose objects are maps.

  An object is held as a list of entries, so the type of values also has objects in which
  a key occurs twice.  No document has: a value is `Lawful` when every object in it, at
  any depth, has pairwise distinct keys.  The predicate also says what is allowed of the
  floats in it; where nothing is asked of them a lawful value is `Distinct`.

  Reading at a step and writing at a step both stay among lawful values.
-/
import JsonQuery.Document.Path

namespace JsonQuery

/-! ## §1. Entries. -/

namespace Entries

/-- An entry after writing a key is the written one or was there before. -/
theorem mem_put {entries : Entries} {key : String} {value : Json} {e : String × Json}
    (h : e ∈ entries.put key value) : e.2 = value ∨ e ∈ entries := by
  induction entries with
  | nil =>
    simp only [put, List.mem_singleton] at h
    exact .inl (by rw [h])
  | cons head rest ih =>
    simp only [put] at h
    split at h
    · rcases List.mem_cons.mp h with h | h
      · exact .inl (by rw [h])
      · exact .inr (List.mem_cons_of_mem _ h)
    · rcases List.mem_cons.mp h with h | h
      · exact .inr (h ▸ List.mem_cons_self)
      · exact (ih h).imp_right (List.mem_cons_of_mem _)

theorem nodup_keys_put {entries : Entries} (h : entries.keys.Nodup) (key : String)
    (value : Json) : (entries.put key value).keys.Nodup := by
  rw [keys_put]
  split
  · exact h
  · rename_i hk
    rw [List.nodup_append]
    refine ⟨h, by simp, ?_⟩
    intro a ha b hb
    rw [List.mem_singleton.mp hb]
    exact fun hab => hk (hab ▸ ha)

/-- A key that is not there yet becomes the last one. -/
theorem put_of_not_mem {entries : Entries} {key : String} (h : key ∉ entries.keys)
    (value : Json) : entries.put key value = entries ++ [(key, value)] := by
  induction entries with
  | nil => rfl
  | cons e entries ih =>
    obtain ⟨hne, hrest⟩ := not_or.mp (mt List.mem_cons.mpr h)
    have hne : e.1 ≠ key := fun heq => hne heq.symm
    rw [put, if_neg hne, ih hrest]
    rfl

/-- What is found under a key is one of the entries. -/
theorem mem_of_get? {entries : Entries} {key : String} {value : Json}
    (h : entries.get? key = some value) : (key, value) ∈ entries := by
  induction entries with
  | nil => simp [get?] at h
  | cons e rest ih =>
    simp only [get?] at h
    split at h
    · rename_i hk
      injection h with h
      subst hk h
      exact List.mem_cons_self
    · exact List.mem_cons_of_mem _ (ih h)

/-- Among entries with distinct keys every entry is found under its key. -/
theorem get?_of_mem {entries : Entries} (hd : entries.keys.Nodup) {e : String × Json}
    (he : e ∈ entries) : entries.get? e.1 = some e.2 := by
  induction entries with
  | nil => cases he
  | cons head rest ih =>
    simp only [keys, List.map_cons, List.nodup_cons] at hd
    rcases List.mem_cons.mp he with rfl | he
    · simp [get?]
    · have hne : head.1 ≠ e.1 := fun h => hd.1 (h ▸ List.mem_map_of_mem he)
      simp only [get?, if_neg hne]
      exact ih hd.2 he

end Entries

/-! ## §2. Lawful values. -/

namespace Json

/-- Every object in the value has pairwise distinct keys, and every float in it is allowed. -/
inductive Lawful (allowed : Float → Prop) : Json → Prop
  | null : Lawful allowed .null
  | bool (b : Bool) : Lawful allowed (.bool b)
  | int (n : Int64) : Lawful allowed (.int n)
  | float {x : Float} : allowed x → Lawful allowed (.float x)
  | str (s : String) : Lawful allowed (.str s)
  | arr {items : List Json} : (∀ v ∈ items, v.Lawful allowed) → Lawful allowed (.arr items)
  | obj {entries : Entries} : entries.keys.Nodup → (∀ e ∈ entries, e.2.Lawful allowed) →
      Lawful allowed (.obj entries)

/-- Every object in the value has pairwise distinct keys. -/
abbrev Distinct : Json → Prop := Lawful fun _ => True

/-- Every object in the value has pairwise distinct keys, and every float in it is finite, so that
it has a JSON text. -/
abbrev Printable : Json → Prop := Lawful fun x => x.isFinite = true

variable {allowed : Float → Prop}

theorem Lawful.mono {allowed' : Float → Prop} {v : Json} (hv : v.Lawful allowed)
    (h : ∀ x, allowed x → allowed' x) : v.Lawful allowed' := by
  induction hv with
  | null => exact .null
  | bool b => exact .bool b
  | int n => exact .int n
  | float hx => exact .float (h _ hx)
  | str s => exact .str s
  | arr _ ih => exact .arr ih
  | obj hkeys _ ih => exact .obj hkeys ih

theorem Lawful.distinct {v : Json} (hv : v.Lawful allowed) : v.Distinct :=
  hv.mono fun _ _ => trivial

theorem Lawful.items {items : List Json} (h : (Json.arr items).Lawful allowed) :
    ∀ v ∈ items, v.Lawful allowed := by
  cases h with
  | arr h => exact h

theorem Lawful.keys {entries : Entries} (h : (Json.obj entries).Lawful allowed) :
    entries.keys.Nodup := by
  cases h with
  | obj h _ => exact h

theorem Lawful.entries {entries : Entries} (h : (Json.obj entries).Lawful allowed) :
    ∀ e ∈ entries, e.2.Lawful allowed := by
  cases h with
  | obj _ h => exact h

/-- The children of a lawful value are lawful. -/
theorem Lawful.child? {v child : Json} {step : Step} (hv : v.Lawful allowed)
    (h : v.child? step = some child) : child.Lawful allowed := by
  unfold Json.child? at h
  split at h
  · exact hv.entries _ (Entries.mem_of_get? h)
  · exact hv.items _ (List.mem_of_getElem? h)
  · cases h

theorem Lawful.put {entries : Entries} (h : (Json.obj entries).Lawful allowed) (key : String)
    {value : Json} (hv : value.Lawful allowed) :
    (Json.obj (entries.put key value)).Lawful allowed := by
  refine .obj (Entries.nodup_keys_put h.keys key value) ?_
  intro e he
  rcases Entries.mem_put he with he | he
  · exact he ▸ hv
  · exact h.entries e he

theorem Lawful.set {items : List Json} (h : (Json.arr items).Lawful allowed) (i : Nat)
    {value : Json} (hv : value.Lawful allowed) : (Json.arr (items.set i value)).Lawful allowed := by
  refine .arr fun w hw => ?_
  rcases List.mem_or_eq_of_mem_set hw with hw | rfl
  · exact h.items w hw
  · exact hv

/-- A lawful value with a lawful child in place of another is lawful. -/
theorem Lawful.setChild {v new : Json} (hv : v.Lawful allowed) (step : Step)
    (hn : new.Lawful allowed) : (v.setChild step new).Lawful allowed := by
  unfold Json.setChild
  split
  · exact hv.put _ hn
  · exact hv.set _ hn
  · exact hv

/-! ## §3. Deciding it. -/

mutual

/-- Whether a value is lawful, by going through it. -/
def decideLawful (allowed : Float → Prop) [DecidablePred allowed] :
    (v : Json) → Decidable (v.Lawful allowed)
  | .null => .isTrue .null
  | .bool b => .isTrue (.bool b)
  | .int n => .isTrue (.int n)
  | .float x => decidable_of_iff (allowed x) ⟨.float, fun h => by cases h; assumption⟩
  | .str s => .isTrue (.str s)
  | .arr items =>
    have := decideItems allowed items
    decidable_of_iff (∀ v ∈ items, v.Lawful allowed) ⟨.arr, Lawful.items⟩
  | .obj entries =>
    have := decideEntries allowed entries
    decidable_of_iff ((Entries.keys entries).Nodup ∧ ∀ e ∈ entries, e.2.Lawful allowed)
      ⟨fun h => .obj h.1 h.2, fun h => ⟨h.keys, h.entries⟩⟩

def decideItems (allowed : Float → Prop) [DecidablePred allowed] :
    (items : List Json) → Decidable (∀ v ∈ items, v.Lawful allowed)
  | [] => .isTrue (List.forall_mem_nil _)
  | v :: rest =>
    have := decideLawful allowed v
    have := decideItems allowed rest
    decidable_of_iff (v.Lawful allowed ∧ ∀ v ∈ rest, v.Lawful allowed) List.forall_mem_cons.symm

def decideEntries (allowed : Float → Prop) [DecidablePred allowed] :
    (entries : List (String × Json)) → Decidable (∀ e ∈ entries, e.2.Lawful allowed)
  | [] => .isTrue (List.forall_mem_nil _)
  | (k, v) :: rest =>
    have := decideLawful allowed v
    have := decideEntries allowed rest
    decidable_of_iff (v.Lawful allowed ∧ ∀ e ∈ rest, e.2.Lawful allowed)
      (by rw [List.forall_mem_cons])

end

instance [DecidablePred allowed] : DecidablePred (Lawful allowed) := decideLawful allowed

end Json

end JsonQuery
