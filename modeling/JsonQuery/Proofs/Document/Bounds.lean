/-
  JsonQuery.Proofs.Document.Bounds
  ────────────────────────────────
  What reading and writing a lawful value may lead to.

  Lawful values lead to lawful values, and the failures of navigation are `Ordinary`: none
  of them says that a draft lacks a path or that a write is not allowed.
-/
import JsonQuery.Proofs.Document.Fill

namespace JsonQuery

/-- Neither the failure of a draft nor that of a write that is not allowed. -/
def RuntimeError.Ordinary : RuntimeError → Prop
  | .missingPath _ | .modifierNotAllowed _ => False
  | _ => True

namespace Json

variable {allowed : Float → Prop} {v : Json}

/-! ## §1. Containers with other children. -/

theorem Lawful.fill {ss : List Slot} (hs : ∀ s ∈ ss, s.2.Lawful allowed) (hv : v.Lawful allowed) :
    (v.fill ss).Lawful allowed := by
  induction ss generalizing v with
  | nil => exact hv
  | cons s ss ih =>
    obtain ⟨hs, hss⟩ := List.forall_mem_cons.mp hs
    exact ih hss (hv.setChild s.1 hs)

theorem map_fst_zip_sublist (ks : List String) (vs : List Json) :
    ((ks.zip vs).map Prod.fst).Sublist ks := by
  induction ks generalizing vs with
  | nil => simp
  | cons k ks ih =>
    cases vs with
    | nil => simp
    | cons v vs => exact (ih vs).cons_cons k

theorem Lawful.refill {values : List Json} (hv : v.Lawful allowed)
    (hvalues : ∀ w ∈ values, w.Lawful allowed) : (v.refill values).Lawful allowed := by
  cases v with
  | obj entries =>
    exact .obj ((map_fst_zip_sublist _ values).nodup hv.keys)
      fun e he => hvalues _ (List.of_mem_zip he).2
  | _ => exact .arr hvalues

/-! ## §2. Navigation. -/

theorem within_slot (hv : v.Lawful allowed) (key : Key) :
    Within (fun s => s.2.Lawful allowed) RuntimeError.Ordinary (v.slot key) := by
  cases h : v.slot key with
  | ok s => exact hv.slot h
  | error e =>
    unfold slot at h
    repeat' split at h
    all_goals cases h
    all_goals exact trivial

theorem within_slots (hv : v.Lawful allowed) (span : Span) :
    Within (fun ss => ∀ s ∈ ss, s.2.Lawful allowed) RuntimeError.Ordinary (v.slots span) := by
  cases h : v.slots span with
  | ok ss => exact fun s hs => hv.slots h hs
  | error e =>
    unfold slots at h
    repeat' split at h
    all_goals cases h
    all_goals exact trivial

theorem within_slice (hv : v.Lawful allowed) (span : Span) :
    Within (Lawful allowed) RuntimeError.Ordinary (span.slice v) := by
  unfold Span.slice
  split
  · rename_i items span
    refine .arr fun w hw => ?_
    obtain ⟨p, hp, rfl⟩ := List.mem_map.mp hw
    exact hv.items _ (List.mem_of_getElem? (Span.getElem?_of_mem_positions hp))
  · exact hv
  · exact trivial
  · exact trivial

theorem within_assign {new : Json} (hv : v.Lawful allowed) (key : Key)
    (hn : new.Lawful allowed) :
    Within (Lawful allowed) RuntimeError.Ordinary (v.assign key new) := by
  unfold Json.assign
  split
  · exact hv.put _ hn
  · split
    · split
      · exact hv.set _ hn
      · exact trivial
    · exact trivial
  · exact trivial

/-! ## §3. Children replaced by results. -/

section

variable {E : QueryError → Prop} {f : Json → Except QueryError Json}
  (hE : ∀ e : RuntimeError, e.Ordinary → E (.runtime e))
  (hf : ∀ child : Json, child.Lawful allowed → Within (Lawful allowed) E (f child))

include hE

theorem within_select (hv : v.Lawful allowed) (key : Key) :
    Within (Lawful allowed) E (v.select key) :=
  ((within_slot hv key).runtime hE).bind fun _ hs => hs

include hf

theorem within_collect (hv : v.Lawful allowed) (span : Span) :
    Within (Lawful allowed) E (v.collect span f) := by
  -- the results take the places of the slots in a container of the same keys
  rw [collect_eq]
  refine ((within_slots hv span).runtime hE).bind fun ss hss => ?_
  refine (Within.mapM fun s hs => hf s.2 (hss s hs)).bind fun results hresults => ?_
  exact hv.refill hresults

theorem within_updateAt (hv : v.Lawful allowed) (key : Key) :
    Within (Lawful allowed) E (v.updateAt key f) := by
  refine ((within_slot hv key).runtime hE).bind fun s hs => ?_
  exact (hf s.2 hs).bind fun new hnew => hv.setChild s.1 hnew

theorem within_updateAll (hv : v.Lawful allowed) (span : Span) :
    Within (Lawful allowed) E (v.updateAll span f) := by
  -- an update fills the slots one after another, and each time a lawful value is left
  rw [updateAll_eq hv]
  refine ((within_slots hv span).runtime hE).bind fun ss hss => ?_
  refine (Within.mapM fun s hs => (hf s.2 (hss s hs)).bind fun _ hnew => ?_).bind
    fun news hnews => hv.fill hnews
  exact hnew

end

end Json

end JsonQuery
