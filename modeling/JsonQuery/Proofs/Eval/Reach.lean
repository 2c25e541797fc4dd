/-
  JsonQuery.Proofs.Eval.Reach
  ───────────────────────────
  The places that navigation reaches, and their paths.

  The path of a place is where its value lies in the document (`Place.Reaches.lawful_get?`).
  Commands that only navigate lead to one place for each choice of children at their
  iterators (`Place.Leads`), and places of different choices lie apart: their paths part
  where the choices do (`Place.Leads.apart`).  So a write at one of them is not seen at the
  others.

  The evaluator goes to no other places: what it does behind navigation depends only on
  what is done at the places led to (`runCommands_append_congr`).
-/
import JsonQuery.Proofs.Document.Apart
import JsonQuery.Proofs.Eval.Reading

namespace JsonQuery

namespace Place

/-! ## §1. One step down. -/

variable {d : Json} {p q c : Place} {steps : Statement} {is js : List Nat}

/-- A child by its number. -/
theorem exists_slot_of_getElem? {span : Span} {cs : List Place} {i : Nat}
    (hcs : p.children span = .ok cs) (hc : cs[i]? = some c) :
    ∃ ss s, p.value.slots span = .ok ss ∧ ss[i]? = some s ∧ c = p.enter s := by
  obtain ⟨ss, hss, rfl⟩ := children_eq_ok_iff.mp hcs
  rw [List.getElem?_map] at hc
  obtain ⟨s, hs, rfl⟩ := Option.map_eq_some_iff.mp hc
  exact ⟨ss, s, hss, hs, rfl⟩

/-! ## §2. Reached places. -/

/-- The places that selecting and going through children reach from the root of a document. -/
inductive Reaches (d : Json) : Place → Prop
  | root : Reaches d (.root d)
  | select {p c : Place} {key : Key} : Reaches d p → p.select key = .ok c → Reaches d c
  | child {p c : Place} {span : Span} {cs : List Place} : Reaches d p →
      p.children span = .ok cs → c ∈ cs → Reaches d c

/-- A place of a document lies where its path says, and its ancestry ends at the document. -/
structure Faithful (d : Json) (p : Place) : Prop where
  distinct : p.value.Distinct
  get?_path : d.get? p.path = some p.value
  origin : p.origin = .root d

theorem Faithful.enter (h : Faithful d p) {s : Slot} (hs : p.value.child? s.1 = some s.2) :
    Faithful d (p.enter s) where
  distinct := h.distinct.child? hs
  get?_path := by
    rw [path_enter, Json.get?_append, h.get?_path, Option.bind_some, Json.get?_singleton]
    exact hs
  origin := h.origin

theorem Reaches.faithful (hd : d.Distinct) (h : Reaches d p) : Faithful d p := by
  induction h with
  | root => exact ⟨hd, rfl, rfl⟩
  | select _ hc ih =>
    obtain ⟨s, hs, rfl⟩ := select_eq_ok_iff.mp hc
    exact ih.enter (Json.child?_of_slot hs)
  | child _ hcs hc ih =>
    obtain ⟨ss, hss, rfl⟩ := children_eq_ok_iff.mp hcs
    obtain ⟨s, hs, rfl⟩ := List.mem_map.mp hc
    exact ih.enter (Json.child?_of_mem_slots ih.distinct hss hs)

/-- The place above a reached place is reached, too. -/
theorem Reaches.parent (h : Reaches d p) (hq : p.parent? = some q) : Reaches d q := by
  cases h with
  | root => cases hq
  | select hp hc =>
    obtain ⟨s, -, rfl⟩ := select_eq_ok_iff.mp hc
    injection hq with hq
    exact hq ▸ hp
  | child hp hcs hc =>
    obtain ⟨ss, -, rfl⟩ := children_eq_ok_iff.mp hcs
    obtain ⟨s, -, rfl⟩ := List.mem_map.mp hc
    injection hq with hq
    exact hq ▸ hp

/-- The path of a place is that of the place above it and the step from there. -/
theorem path_of_parent? (hq : p.parent? = some q) :
    ∃ step, p.inbound? = some step ∧ p.path = q.path ++ [step] := by
  cases p with
  | root document => cases hq
  | child parent step v =>
    injection hq with hq
    subst hq
    exact ⟨step, rfl, rfl⟩

/-! ## §3. Places led to. -/

/-- Navigating from a place along selectors and iterators leads to another one. The numbers tell
with which of its children each iterator goes on. -/
inductive Leads : Statement → Place → List Nat → Place → Prop
  | here (p : Place) : Leads [] p [] p
  | select {key : Key} {steps : Statement} {p c q : Place} {is : List Nat} :
      p.select key = .ok c → Leads steps c is q → Leads (.select key :: steps) p is q
  | iterate {span : Span} {steps : Statement} {p c q : Place} {cs : List Place} {i : Nat}
      {is : List Nat} : p.children span = .ok cs → cs[i]? = some c → Leads steps c is q →
      Leads (.iterate span :: steps) p (i :: is) q

namespace Leads

theorem reaches (h : Leads steps p is q) (hp : Reaches d p) : Reaches d q := by
  induction h with
  | here => exact hp
  | select hc _ ih => exact ih (hp.select hc)
  | iterate hcs hc _ ih => exact ih (hp.child hcs (List.mem_of_getElem? hc))

/-- Every command adds one step to the path. -/
theorem path_eq (h : Leads steps p is q) :
    ∃ r, q.path = p.path ++ r ∧ r.length = steps.length := by
  induction h with
  | here p => exact ⟨[], (List.append_nil _).symm, rfl⟩
  | select hc _ ih =>
    obtain ⟨s, -, rfl⟩ := select_eq_ok_iff.mp hc
    obtain ⟨r, hr, hlen⟩ := ih
    refine ⟨s.1 :: r, ?_, by rw [List.length_cons, List.length_cons, hlen]⟩
    rw [hr, path_enter, List.append_assoc, List.singleton_append]
  | iterate hcs hc _ ih =>
    obtain ⟨-, s, -, -, rfl⟩ := exists_slot_of_getElem? hcs hc
    obtain ⟨r, hr, hlen⟩ := ih
    refine ⟨s.1 :: r, ?_, by rw [List.length_cons, List.length_cons, hlen]⟩
    rw [hr, path_enter, List.append_assoc, List.singleton_append]

/-- Different choices lead to places whose paths part. -/
theorem apart (hp : p.value.Distinct) {q' : Place} (h : Leads steps p is q)
    (h' : Leads steps p js q') (hne : is ≠ js) : Path.Apart q.path q'.path := by
  induction h generalizing js q' with
  | here =>
    cases h'
    exact absurd rfl hne
  | select hc _ ih =>
    cases h' with
    | select hc' h' =>
      -- a selector leaves no choice
      rw [hc] at hc'
      injection hc' with hc'
      subst hc'
      obtain ⟨s, hs, rfl⟩ := select_eq_ok_iff.mp hc
      exact ih (hp.slot hs) h' hne
  | @iterate span steps p c q cs i is hcs hc h ih =>
    cases h' with
    | @iterate _ _ _ c' _ cs' j js hcs' hc' h' =>
      rw [hcs] at hcs'
      injection hcs' with hcs'
      subst hcs'
      by_cases hij : i = j
      · -- the same child, so that the choices differ further down
        subst hij
        rw [hc] at hc'
        injection hc' with hc'
        subst hc'
        obtain ⟨ss, s, hss, hs, rfl⟩ := exists_slot_of_getElem? hcs hc
        exact ih (hp.slots hss (List.mem_of_getElem? hs)) h' fun his => hne (by rw [his])
      · -- the paths part at the steps to the two children
        obtain ⟨r, hr, -⟩ := h.path_eq
        obtain ⟨r', hr', -⟩ := h'.path_eq
        obtain ⟨ss, s, hss, hs, rfl⟩ := exists_slot_of_getElem? hcs hc
        obtain ⟨ss', t, hss', ht, rfl⟩ := exists_slot_of_getElem? hcs hc'
        rw [hss] at hss'
        injection hss' with hss'
        subst hss'
        have hst : s.1 ≠ t.1 := by
          intro hst
          refine hij ((List.getElem?_inj ?_ (Json.nodup_slots hp hss)).mp ?_)
          · rw [List.length_map]
            exact (List.getElem?_eq_some_iff.mp hs).1
          · rw [List.getElem?_map, List.getElem?_map, hs, ht, Option.map_some, hst,
              Option.map_some]
        have hpart : Path.Apart (p.path ++ [s.1]) (p.path ++ [t.1]) :=
          (Path.Apart.append_left_iff p.path).mpr (Path.Apart.cons_iff.mpr (.inl hst))
        rw [hr, hr', path_enter, path_enter]
        exact hpart.append r r'

end Leads

end Place

/-! ## §4. Where the evaluator goes. -/

theorem Visit.collect_congr {visit visit' : Visit} {places : List Place}
    (h : ∀ p ∈ places, ∀ draft, visit p draft = visit' p draft) (draft : Option Draft) :
    visit.collect places draft = visit'.collect places draft := by
  induction places generalizing draft with
  | nil => rfl
  | cons p places ih =>
    obtain ⟨hp, hrest⟩ := List.forall_mem_cons.mp h
    rw [collect, collect, hp]
    simp only [ih hrest]

theorem Visit.sweep_congr {visit visit' : Visit} {places : List Place}
    (h : ∀ p ∈ places, ∀ draft, visit p draft = visit' p draft) (draft : Option Draft) :
    visit.sweep places draft = visit'.sweep places draft := by
  induction places generalizing draft with
  | nil => rfl
  | cons p places ih =>
    obtain ⟨hp, hrest⟩ := List.forall_mem_cons.mp h
    rw [sweep, sweep, hp]
    simp only [ih hrest]

/-- What is run behind other commands is run at the places that these lead to, and nowhere else. -/
theorem runCommands_append_congr (r : Registry) {mode : Mode} {steps tail tail' : Statement}
    (htail : tail ≠ []) (htail' : tail' ≠ []) {p : Place}
    (h : ∀ is q draft, Place.Leads steps p is q →
      runCommands r mode tail q draft = runCommands r mode tail' q draft)
    (draft : Option Draft) :
    runCommands r mode (steps ++ tail) p draft = runCommands r mode (steps ++ tail') p draft := by
  induction steps generalizing p draft with
  | nil => exact h [] p draft (.here p)
  | cons step steps ih =>
    obtain ⟨next, more, hmore⟩ : ∃ next more, steps ++ tail = next :: more :=
      List.exists_cons_of_ne_nil (List.append_ne_nil_of_right_ne_nil steps htail)
    obtain ⟨next', more', hmore'⟩ : ∃ next more, steps ++ tail' = next :: more :=
      List.exists_cons_of_ne_nil (List.append_ne_nil_of_right_ne_nil steps htail')
    rw [List.cons_append, List.cons_append, hmore, hmore']
    rw [hmore, hmore'] at ih
    cases step with
    | select key =>
      rw [runCommands_select, runCommands_select]
      refine bind_congr_of_ok fun s hs => ih (fun is q draft hq => ?_) draft
      exact h is q draft (.select (Place.select_eq_ok_iff.mpr ⟨s, runtime_eq_ok_iff.mp hs, rfl⟩) hq)
    | iterate span =>
      -- each child has its number among the children
      have hchild : ∀ ss, runtime (p.value.slots span) = .ok ss → ∀ c ∈ ss.map p.enter,
          ∀ draft, runCommands r mode (next :: more) c draft
            = runCommands r mode (next' :: more') c draft := by
        intro ss hss c hc draft
        obtain ⟨i, hi⟩ := List.getElem?_of_mem hc
        have hcs := Place.children_eq_ok_iff.mpr ⟨ss, runtime_eq_ok_iff.mp hss, rfl⟩
        exact ih (fun is q draft hq => h (i :: is) q draft (.iterate hcs hi hq)) draft
      cases mode with
      | read =>
        rw [runCommands_iterate_read, runCommands_iterate_read]
        refine bind_congr_of_ok fun ss hss => ?_
        rw [Visit.collect_congr (hchild ss hss)]
      | write =>
        rw [runCommands_iterate_write, runCommands_iterate_write]
        refine bind_congr_of_ok fun ss hss => ?_
        rw [Visit.sweep_congr (hchild ss hss)]
    | assign target value =>
      rw [runCommands_terminal _ rfl, runCommands_terminal _ rfl]
    | call calls =>
      rw [runCommands_terminal _ rfl, runCommands_terminal _ rfl]
    | list items =>
      rw [runCommands_terminal _ rfl, runCommands_terminal _ rfl]

/-! ## §5. Paths of places. -/

namespace Place

/-- Where no object has a key twice, every place that navigation reaches lies where its path says,
below the place that it was reached from. Commands that navigate lead to places at paths of equal
length, of which those of different choices part; and these are the places that the evaluator goes
to. -/
theorem paths_faithful {d : Json} (hd : d.Distinct) :
    (∀ p, Reaches d p →
      (Draft.mk d).get? p.path = some p.value ∧ p.origin = .root d
        ∧ (p.parent? = none → p = .root d)
        ∧ ∀ q, p.parent? = some q → Reaches d q
          ∧ ∃ step, p.inbound? = some step ∧ p.path = q.path ++ [step])
      ∧ (∀ steps is p, Leads steps (.root d) is p → Reaches d p
          ∧ ∀ js q, Leads steps (.root d) js q → p.path.length = q.path.length
            ∧ (is ≠ js → Path.Apart p.path q.path))
      ∧ ∀ r mode steps tail tail', tail ≠ [] → tail' ≠ [] →
          (∀ is p draft, Leads steps (.root d) is p →
            runCommands r mode tail p draft = runCommands r mode tail' p draft) →
          ∀ draft, runCommands r mode (steps ++ tail) (.root d) draft
            = runCommands r mode (steps ++ tail') (.root d) draft := by
  refine ⟨fun p hp => ?_, fun steps is p h => ⟨h.reaches .root, fun js q h' => ⟨?_, ?_⟩⟩, ?_⟩
  · have hfaithful := hp.faithful hd
    refine ⟨hfaithful.get?_path, hfaithful.origin, fun hroot => ?_, fun q hq => ?_⟩
    · cases p with
      | root document => exact hfaithful.origin
      | child parent step v => cases hroot
    · exact ⟨hp.parent hq, path_of_parent? hq⟩
  · obtain ⟨s, hs, hslen⟩ := h.path_eq
    obtain ⟨t, ht, htlen⟩ := h'.path_eq
    rw [hs, ht, List.length_append, List.length_append, hslen, htlen]
  · intro hne
    have hroot : (Place.root d).value.Distinct := hd
    exact h.apart hroot h' hne
  · intro r mode steps tail tail' htail htail' h draft
    exact runCommands_append_congr r htail htail' h draft

/-- `.a.[]` leads to both elements of `a`. -/
theorem paths_faithful_elements :
    let items := Json.arr [.int 1, .int 2]
    let d := Json.obj [("a", items)]
    let element (i : Nat) (v : Json) := ((Place.root d).child (.field "a") items).child (.item i) v
    d.Distinct
      ∧ Leads [.select (.name "a"), .iterate .all] (.root d) [0] (element 0 (.int 1))
      ∧ Leads [.select (.name "a"), .iterate .all] (.root d) [1] (element 1 (.int 2))
      ∧ d.get? (element 1 (.int 2)).path = some (.int 2)
      ∧ Path.Apart (element 0 (.int 1)).path (element 1 (.int 2)).path := by
  intro items d element
  have hd : d.Distinct := by decide
  have first : Leads [.select (.name "a"), .iterate .all] (.root d) [0] (element 0 (.int 1)) :=
    .select rfl (.iterate rfl rfl (.here _))
  have second : Leads [.select (.name "a"), .iterate .all] (.root d) [1] (element 1 (.int 2)) :=
    .select rfl (.iterate rfl rfl (.here _))
  obtain ⟨hreached, hleads, -⟩ := paths_faithful hd
  obtain ⟨-, hparts⟩ := hleads _ _ _ first
  obtain ⟨hsecond, -⟩ := hleads _ _ _ second
  exact ⟨hd, first, second, (hreached _ hsecond).1, (hparts _ _ second).2 (by decide)⟩

end Place

end JsonQuery
