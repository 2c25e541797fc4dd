/-
  JsonQuery.Proofs.Document.Focus
  ───────────────────────────────
  One step into a value: what it leads to, and the way back.

  A selector leads to one child, an iterator to several.  Either way a step takes a value
  apart into the children it leads to (`Focus.parts`) and leaves what is needed to put
  values in their place (`Focus.build`):

      read   — the values alone, in the shape of their container
      write  — the container with the values instead of its children

  The two laws of this module are those of a lens.  Putting back the children is the
  container itself (`Json.build_parts`), and a step into a container with other children
  leads to those (`Json.focus_build`).  They hold of objects with repeated keys, too.
-/
import JsonQuery.Proofs.Document.Bounds
import JsonQuery.Proofs.Document.Write

namespace JsonQuery

/-- The children that a step leads to, and what is built from values in their place. -/
structure Focus where
  parts : List Json
  build : Mode → List Json → Json

/-! ## §1. Where keys write. -/

namespace Json

/-- The step at which a value is written under a key. In an object it need not be there yet. -/
def target (v : Json) (key : Key) : Except RuntimeError Step :=
  match v with
  | .obj _ => .ok (.field key.text)
  | .arr items =>
    match key with
    | .index n =>
      match resolveIndex n items.length with
      | some i => .ok (.item i)
      | none => .error (.indexOutOfBounds n items.length)
    | key => .error (.invalidIndex key.text)
  | v => .error (.cannotAssign v.kind key.text)

variable {v : Json} {key : Key}

theorem assign_eq (v : Json) (key : Key) (new : Json) :
    v.assign key new = (v.target key).map fun step => v.setChild step new := by
  cases v with
  | arr items =>
    cases key with
    | index n =>
      cases h : resolveIndex n items.length with
      | none => simp [assign, target, h, Except.map]
      | some i => simp [assign, target, h, Except.map, setChild]
    | _ => rfl
  | _ => rfl

/-- A key writes where it reads. -/
theorem target_of_slot {s : Slot} (h : v.slot key = .ok s) : v.target key = .ok s.1 := by
  cases v with
  | arr items =>
    cases key with
    | index n =>
      cases hi : resolveIndex n items.length with
      | none => simp [slot, item?, hi] at h
      | some i =>
        have hlt := resolveIndex_lt hi
        simp only [slot, item?, hi, Option.bind_eq_bind, Option.bind_some,
          List.getElem?_eq_getElem hlt, Option.pure_def] at h
        injection h with h
        subst h
        simp only [target, hi]
    | _ => cases h
  | obj entries =>
    cases hchild : Entries.get? entries key.text with
    | none => simp [slot, hchild] at h
    | some child =>
      simp only [slot, hchild] at h
      injection h with h
      subst h
      rfl
  | _ => cases h

/-- What has been written under a key is read under it. -/
theorem slot_setChild {step : Step} (h : v.target key = .ok step) (new : Json) :
    (v.setChild step new).slot key = .ok (step, new) := by
  cases v with
  | arr items =>
    cases key with
    | index n =>
      cases hi : resolveIndex n items.length with
      | none => simp [target, hi] at h
      | some i =>
        simp only [target, hi] at h
        injection h with h
        subst h
        -- the array keeps its length, so the index means the same position
        have hnew : item? (items.set i new) n = some (i, new) := by
          simp [item?, hi, resolveIndex_lt hi]
        simp only [setChild, slot, hnew]
    | _ => cases h
  | obj entries =>
    injection h with h
    subst h
    simp only [setChild, slot, Entries.get?_put_self]
  | _ => cases h

end Json

/-! ## §2. Taking a value apart. -/

/-- What is built from one value for the child at a step. -/
def Step.build (v : Json) (step : Step) : Mode → List Json → Json
  | .read, news => news.headD .null
  | .write, news => v.setChild step (news.headD .null)

/-- What is built from values for the items of a span; around them the array stays as it is. -/
def Span.build (span : Span) (items : List Json) : Mode → List Json → Json
  | .read, news => .arr news
  | .write, news =>
    .arr (items.take (span.bounds items.length).1 ++ news
      ++ items.drop (span.bounds items.length).2)

/-- What a step leads to in a value. Only selectors and iterators are steps. -/
def Json.focus (v : Json) (step : Command) : Except QueryError Focus :=
  match step with
  | .select key => do
    let s ← runtime (v.slot key)
    return ⟨[s.2], s.1.build v⟩
  | .iterate span =>
    match v with
    | .arr items => .ok ⟨span.items items, span.build items⟩
    | .obj entries =>
      match span with
      | .all =>
        .ok ⟨entries.map Prod.snd, fun _ news => .obj ((entries.map Prod.fst).zip news)⟩
      | .range _ _ => .error (.runtime .rangeOnObject)
    | v => .error (.runtime (.notIterable v.kind))
  | other => .error (.internal (.unrunnable other.name))

/-! ## §3. The laws of a step. -/

/-- An array whose addressed items have been replaced by as many others. -/
theorem Span.focus_build (span : Span) (items : List Json) {news : List Json}
    (hl : news.length = (span.items items).length) :
    (span.build items .write news).focus (.iterate span) = .ok ⟨news, span.build items⟩ := by
  obtain ⟨hle, hlen⟩ := span.bounds_le items.length
  have hnews : news.length = (span.bounds items.length).2 - (span.bounds items.length).1 := by
    rw [hl, Span.items, List.length_drop, List.length_take, Nat.min_eq_left hlen]
  have hlow : (items.take (span.bounds items.length).1).length = (span.bounds items.length).1 := by
    rw [List.length_take]
    omega
  have hhigh : (items.take (span.bounds items.length).1 ++ news).length
      = (span.bounds items.length).2 := by
    rw [List.length_append, hlow]
    omega
  obtain ⟨whole, hwhole⟩ : ∃ whole, items.take (span.bounds items.length).1 ++ news
      ++ items.drop (span.bounds items.length).2 = whole := ⟨_, rfl⟩
  -- the bounds are those of an array of the same length
  have hlength : whole.length = items.length := by
    rw [← hwhole, List.length_append, hhigh, List.length_drop]
    omega
  have hitems : span.items whole = news := by
    rw [Span.items, hlength, ← hwhole, List.take_left' hhigh, List.drop_left' hlow]
  have hbuild : span.build whole = span.build items := by
    funext mode others
    cases mode with
    | read => rfl
    | write =>
      have htake : whole.take (span.bounds items.length).1
          = items.take (span.bounds items.length).1 := by
        rw [← hwhole, List.append_assoc, List.take_left' hlow]
      have hdrop : whole.drop (span.bounds items.length).2
          = items.drop (span.bounds items.length).2 := by
        rw [← hwhole, List.drop_left' hhigh]
      rw [Span.build, Span.build, hlength, htake, hdrop]
  show Except.ok (⟨span.items _, span.build _⟩ : Focus) = _
  rw [hwhole, hitems, hbuild]

namespace Json

variable {v : Json} {step : Command} {F : Focus}

theorem focus_select (v : Json) (key : Key) :
    v.focus (.select key) = do
      let s ← runtime (v.slot key)
      return ⟨[s.2], s.1.build v⟩ :=
  rfl

/-- Putting back the children that a step leads to changes nothing. -/
theorem build_parts (h : v.focus step = .ok F) : F.build .write F.parts = v := by
  cases step with
  | select key =>
    obtain ⟨s, hs, h⟩ := bind_eq_ok_iff.mp h
    injection h with h
    subst h
    exact setChild_self (child?_of_slot (runtime_eq_ok_iff.mp hs))
  | iterate span =>
    cases v with
    | arr items =>
      injection h with h
      subst h
      show Json.arr _ = _
      rw [span.append_items]
    | obj entries =>
      cases span with
      | all =>
        injection h with h
        subst h
        show Json.obj ((entries.map Prod.fst).zip (entries.map Prod.snd)) = _
        rw [List.zip_map', List.map_id'']
        exact fun _ => rfl
      | range start stop => cases h
    | _ => cases h
  | _ => cases h

/-- A step into a container with other children leads to those, and the way back is the same. -/
theorem focus_build (h : v.focus step = .ok F) {news : List Json}
    (hl : news.length = F.parts.length) :
    (F.build .write news).focus step = .ok { F with parts := news } := by
  cases step with
  | select key =>
    obtain ⟨s, hs, h⟩ := bind_eq_ok_iff.mp h
    injection h with h
    subst h
    obtain ⟨new, rfl⟩ := List.length_eq_one_iff.mp hl
    have hbuild : s.1.build (v.setChild s.1 new) = s.1.build v := by
      funext mode others
      cases mode with
      | read => rfl
      | write => exact setChild_setChild v s.1 new _
    show Json.focus (v.setChild s.1 new) (.select key) = _
    rw [focus_select, slot_setChild (target_of_slot (runtime_eq_ok_iff.mp hs)), runtime_ok,
      ok_bind, hbuild]
    rfl
  | iterate span =>
    cases v with
    | arr items =>
      injection h with h
      subst h
      exact span.focus_build items hl
    | obj entries =>
      cases span with
      | all =>
        injection h with h
        subst h
        -- the keys stay, and the values are the new ones
        have hlength : news.length = (entries.map Prod.fst).length := by
          rw [hl, List.length_map, List.length_map]
        show Except.ok (⟨((entries.map Prod.fst).zip news).map Prod.snd, fun _ others =>
          Json.obj ((((entries.map Prod.fst).zip news).map Prod.fst).zip others)⟩ : Focus) = _
        rw [List.map_snd_zip (Nat.le_of_eq hlength), List.map_fst_zip (Nat.le_of_eq hlength.symm)]
      | range start stop => cases h
    | _ => cases h
  | _ => cases h

/-- The children that a step leads to in a lawful value are lawful. -/
theorem Lawful.parts {allowed : Float → Prop} (hv : v.Lawful allowed) (h : v.focus step = .ok F) :
    ∀ c ∈ F.parts, c.Lawful allowed := by
  cases step with
  | select key =>
    obtain ⟨s, hs, h⟩ := bind_eq_ok_iff.mp h
    injection h with h
    subst h
    intro c hc
    rw [List.mem_singleton.mp hc]
    exact hv.slot (runtime_eq_ok_iff.mp hs)
  | iterate span =>
    cases v with
    | arr items =>
      injection h with h
      subst h
      exact fun c hc => hv.items c (List.mem_of_mem_take (List.mem_of_mem_drop hc))
    | obj entries =>
      cases span with
      | all =>
        injection h with h
        subst h
        intro c hc
        obtain ⟨e, he, rfl⟩ := List.mem_map.mp hc
        exact hv.entries e he
      | range start stop => cases h
    | _ => cases h
  | _ => cases h

/-- A lawful value with other lawful children is lawful. -/
theorem Lawful.build {allowed : Float → Prop} (hv : v.Lawful allowed) (h : v.focus step = .ok F)
    {news : List Json} (hl : news.length = F.parts.length) (hn : ∀ c ∈ news, c.Lawful allowed) :
    (F.build .write news).Lawful allowed := by
  cases step with
  | select key =>
    obtain ⟨s, hs, h⟩ := bind_eq_ok_iff.mp h
    injection h with h
    subst h
    obtain ⟨new, rfl⟩ := List.length_eq_one_iff.mp hl
    exact hv.setChild s.1 (hn new List.mem_cons_self)
  | iterate span =>
    cases v with
    | arr items =>
      injection h with h
      subst h
      -- an item is one before the span, a new child or one behind the span
      refine .arr fun c hc => ?_
      rcases List.mem_append.mp hc with hc | hc
      · rcases List.mem_append.mp hc with hc | hc
        · exact hv.items c (List.mem_of_mem_take hc)
        · exact hn c hc
      · exact hv.items c (List.mem_of_mem_drop hc)
    | obj entries =>
      cases span with
      | all =>
        injection h with h
        subst h
        exact hv.refill hn
      | range start stop => cases h
    | _ => cases h
  | _ => cases h

/-! ## §4. Reading and updating by steps. -/

variable {f : Json → Except QueryError Json}

theorem select_bind (v : Json) (key : Key) :
    v.select key >>= f = do
      let F ← v.focus (.select key)
      let news ← F.parts.mapM f
      return F.build .read news := by
  rw [select, focus_select]
  cases v.slot key with
  | error e => rfl
  | ok s =>
    simp only [runtime_ok, ok_bind, pure_eq_ok, List.mapM_cons, List.mapM_nil, bind_assoc]
    exact (bind_pure (f s.2)).symm

theorem updateAt_eq (v : Json) (key : Key) :
    v.updateAt key f = do
      let F ← v.focus (.select key)
      let news ← F.parts.mapM f
      return F.build .write news := by
  rw [updateAt, focus_select]
  cases v.slot key with
  | error e => rfl
  | ok s =>
    simp only [runtime_ok, ok_bind, pure_eq_ok, List.mapM_cons, List.mapM_nil, bind_assoc]
    rfl

theorem collect_eq_focus (v : Json) (span : Span) :
    v.collect span f = do
      let F ← v.focus (.iterate span)
      let news ← F.parts.mapM f
      return F.build .read news := by
  cases v with
  | obj entries =>
    cases span with
    | all =>
      simp only [collect, focus, ok_bind, mapM_updateSnd, List.mapM_map, bind_assoc, pure_bind]
      rfl
    | range start stop => rfl
  | _ => rfl

theorem updateAll_eq_focus (v : Json) (span : Span) :
    v.updateAll span f = do
      let F ← v.focus (.iterate span)
      let news ← F.parts.mapM f
      return F.build .write news := by
  cases v with
  | obj entries =>
    cases span with
    | all =>
      simp only [updateAll, focus, ok_bind, mapM_updateSnd, List.mapM_map, bind_assoc, pure_bind]
      rfl
    | range start stop => rfl
  | _ => rfl

/-- The part of a container that a span addresses is read without going into its children. -/
theorem slice_eq (v : Json) (span : Span) :
    runtime (span.slice v) = do
      let F ← v.focus (.iterate span)
      return F.build .read F.parts := by
  cases v with
  | arr items =>
    simp only [Span.slice, span.map_fst_positions]
    rfl
  | obj entries =>
    cases span with
    | all =>
      show Except.ok (Json.obj entries)
        = .ok (.obj ((entries.map Prod.fst).zip (entries.map Prod.snd)))
      rw [List.zip_map', List.map_id'']
      exact fun _ => rfl
    | range start stop => rfl
  | _ => rfl

end Json

end JsonQuery
