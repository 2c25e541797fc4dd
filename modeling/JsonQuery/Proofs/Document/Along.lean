/-
  JsonQuery.Proofs.Document.Along
  ───────────────────────────────
  Many steps into a value: the values that steps address, read or replaced.

  `Json.along` applies a function at every value that steps lead to.  Reading, it collects
  the results in the shape of the containers that the iterators went through; writing, it
  yields the whole value with the results in place.  In either mode it fails first where
  the steps, or the function, fail first.

  Main results:
    * `along_of_write` — after a write the same steps lead to what was written;
    * `along_read_eq` — reading is taking the addressed values and replacing them, which
      lie as deep as there are iterators (`Json.atDepth`).
-/
import JsonQuery.Proofs.Document.Focus

namespace JsonQuery

/-! ## §1. Going along steps. -/

/-- Under how many containers the values lie that are read along steps: one for each iterator. -/
def Statement.depth (steps : Statement) : Nat :=
  match steps with
  | [] => 0
  | .iterate _ :: rest => depth rest + 1
  | _ :: rest => depth rest

/-- Where no iterator is, what is read along steps is one value. -/
theorem Statement.depth_eq_zero {steps : Statement} (h : ∀ span, .iterate span ∉ steps) :
    depth steps = 0 := by
  induction steps with
  | nil => rfl
  | cons step steps ih =>
    have hrest : depth steps = 0 := ih fun span hspan => h span (List.mem_cons_of_mem step hspan)
    cases step with
    | iterate span => exact absurd List.mem_cons_self (h span)
    | _ => exact hrest

namespace Json

/-- What `f` yields at the values that steps lead to. -/
def along (mode : Mode) (f : Json → Except QueryError Json) (steps : List Command) (v : Json) :
    Except QueryError Json :=
  match steps with
  | [] => f v
  | step :: rest => do
    let F ← v.focus step
    let news ← F.parts.mapM (along mode f rest)
    return F.build mode news

/-- What `f` yields at the values that lie under so many containers, in place of them. -/
def atDepth (f : Json → Except QueryError Json) (depth : Nat) (v : Json) :
    Except QueryError Json :=
  match depth with
  | 0 => f v
  | depth + 1 => v.collect .all (atDepth f depth)

variable {f : Json → Except QueryError Json} {mode : Mode} {steps : List Command} {v w : Json}

theorem along_cons_eq_ok_iff {step : Command} :
    v.along mode f (step :: steps) = .ok w ↔
      ∃ F news, v.focus step = .ok F ∧ F.parts.mapM (along mode f steps) = .ok news
        ∧ w = F.build mode news := by
  show (v.focus step >>= _) = _ ↔ _
  constructor
  · intro h
    obtain ⟨F, hF, h⟩ := bind_eq_ok_iff.mp h
    obtain ⟨news, hnews, h⟩ := bind_eq_ok_iff.mp h
    injection h with h
    exact ⟨F, news, hF, hnews, h.symm⟩
  · rintro ⟨F, news, hF, hnews, rfl⟩
    rw [hF, ok_bind, hnews]
    rfl

theorem along_select_read (v : Json) (key : Key) :
    v.along .read f (.select key :: steps) = v.select key >>= along .read f steps :=
  (select_bind v key).symm

theorem along_iterate_read (v : Json) (span : Span) :
    v.along .read f (.iterate span :: steps) = v.collect span (along .read f steps) :=
  (collect_eq_focus v span).symm

theorem along_select_write (v : Json) (key : Key) :
    v.along .write f (.select key :: steps) = v.updateAt key (along .write f steps) :=
  (updateAt_eq v key).symm

theorem along_iterate_write (v : Json) (span : Span) :
    v.along .write f (.iterate span :: steps) = v.updateAll span (along .write f steps) :=
  (updateAll_eq_focus v span).symm

/-! ## §2. Two functions along the same steps. -/

/-- Steps lead to as much after a write as before it: what a function yields there is what
another one yields at the values that were replaced. -/
theorem along_of_write {g k : Json → Except QueryError Json} (h : v.along .write f steps = .ok w)
    (hg : ∀ c c', f c = .ok c' → g c' = k c) : w.along mode g steps = v.along mode k steps := by
  induction steps generalizing v w with
  | nil => exact hg v w h
  | cons step steps ih =>
    obtain ⟨F, news, hF, hnews, rfl⟩ := along_cons_eq_ok_iff.mp h
    show (_ >>= _) = (_ >>= _)
    rw [hF, focus_build hF (length_of_mapM hnews), ok_bind, ok_bind,
      mapM_of_mapM hnews fun _ _ _ hc => ih hc]

/-- Where one function goes along all steps, one that succeeds no less does so in any mode. -/
theorem exists_along {g : Json → Except QueryError Json} {mode' : Mode}
    (h : v.along mode f steps = .ok w) (hg : ∀ c c', f c = .ok c' → ∃ d, g c = .ok d) :
    ∃ x, v.along mode' g steps = .ok x := by
  induction steps generalizing v w with
  | nil => exact hg v w h
  | cons step steps ih =>
    obtain ⟨F, news, hF, hnews, -⟩ := along_cons_eq_ok_iff.mp h
    obtain ⟨news', hnews'⟩ := exists_mapM hnews fun _ _ _ hc => ih hc
    exact ⟨F.build mode' news', along_cons_eq_ok_iff.mpr ⟨F, news', hF, hnews', rfl⟩⟩

/-- Putting back what is there changes nothing. -/
theorem eq_of_along_write (h : v.along .write f steps = .ok w)
    (hf : ∀ c c', f c = .ok c' → c' = c) : w = v := by
  induction steps generalizing v w with
  | nil => exact hf v w h
  | cons step steps ih =>
    obtain ⟨F, news, hF, hnews, rfl⟩ := along_cons_eq_ok_iff.mp h
    rw [eq_of_mapM hnews fun _ _ _ hc => ih hc, build_parts hF]

/-- Where one function fails along steps, one that fails alike does so in any mode. Unless there
are several values, it does not matter whether it succeeds alike. -/
theorem along_eq_error {g : Json → Except QueryError Json} {mode' : Mode} {e : QueryError}
    (h : v.along mode f steps = .error e) (he : ∀ c, f c = .error e → g c = .error e)
    (hg : ∀ span, .iterate span ∈ steps → ∀ c c', f c = .ok c' → ∃ d, g c = .ok d) :
    v.along mode' g steps = .error e := by
  induction steps generalizing v with
  | nil => exact he v h
  | cons step steps ih =>
    have hrest : ∀ c, along mode f steps c = .error e → along mode' g steps c = .error e :=
      fun c hc => ih hc fun span hspan => hg span (List.mem_cons_of_mem step hspan)
    rcases bind_eq_error_iff.mp h with hF | ⟨F, hF, h⟩
    · exact bind_eq_error_iff.mpr (.inl hF)
    · rcases bind_eq_error_iff.mp h with hnews | ⟨news, -, h⟩
      · refine bind_eq_error_iff.mpr (.inr ⟨F, hF, bind_eq_error_iff.mpr (.inl ?_)⟩)
        cases step with
        | select key =>
          -- a selector leads to one value, before which nothing can fail
          obtain ⟨s, -, hs⟩ := bind_eq_ok_iff.mp hF
          injection hs with hs
          subst hs
          rw [List.mapM_cons] at hnews ⊢
          rcases bind_eq_error_iff.mp hnews with hs | ⟨new, -, h⟩
          · rw [hrest s.2 hs]
            rfl
          · cases h
        | iterate span =>
          refine mapM_eq_error hnews (fun c _ => hrest c) fun c _ c' hc => ?_
          exact exists_along hc (hg span List.mem_cons_self)
        | _ => cases hF
      · cases h

/-- Going along steps with one function after another is writing what the first one yields and
going along the steps again, where that succeeds. -/
theorem along_bind_eq_ok_iff {g : Json → Except QueryError Json} :
    v.along mode (fun c => f c >>= g) steps = .ok w ↔
      (v.along .write f steps >>= fun u => u.along mode g steps) = .ok w := by
  -- what was written can be gone to again, and holds there what the first function yielded
  have hagain : ∀ u, v.along .write f steps = .ok u →
      u.along mode g steps = v.along mode (fun c => f c >>= g) steps := by
    intro u hu
    refine along_of_write hu fun c c' hc => ?_
    rw [hc]
    rfl
  constructor
  · intro h
    obtain ⟨u, hu⟩ : ∃ u, v.along .write f steps = .ok u := by
      refine exists_along h fun c c' hc => ?_
      obtain ⟨d, hd, -⟩ := bind_eq_ok_iff.mp hc
      exact ⟨d, hd⟩
    rw [hu, ok_bind, hagain u hu, h]
  · intro h
    obtain ⟨u, hu, h⟩ := bind_eq_ok_iff.mp h
    rw [← hagain u hu, h]

/-- Where selectors lead to one value only, the two fail alike, too. -/
theorem along_bind {g : Json → Except QueryError Json}
    (hsteps : ∀ span, .iterate span ∉ steps) :
    v.along mode (fun c => f c >>= g) steps
      = v.along .write f steps >>= fun u => u.along mode g steps := by
  cases hu : v.along .write f steps with
  | error e =>
    refine along_eq_error hu (fun c hc => ?_) fun span hspan => absurd hspan (hsteps span)
    rw [hc]
    rfl
  | ok u =>
    rw [ok_bind]
    refine (along_of_write hu fun c c' hc => ?_).symm
    rw [hc]
    rfl

/-! ## §3. Lawful values. -/

variable {allowed : Float → Prop}

/-- Only what functions yield at lawful values matters in a lawful value. -/
theorem along_congr {g : Json → Except QueryError Json} (hv : v.Lawful allowed)
    (h : ∀ c : Json, c.Lawful allowed → f c = g c) :
    v.along mode f steps = v.along mode g steps := by
  induction steps generalizing v with
  | nil => exact h v hv
  | cons step steps ih =>
    show (_ >>= _) = (_ >>= _)
    refine bind_congr_of_ok fun F hF => ?_
    rw [mapM_congr fun c hc => ih (hv.parts hF c hc)]

/-- Writing lawful values into a lawful value leaves a lawful value. -/
theorem Lawful.along (hv : v.Lawful allowed) (h : v.along .write f steps = .ok w)
    (hf : ∀ c c' : Json, c.Lawful allowed → f c = .ok c' → c'.Lawful allowed) :
    w.Lawful allowed := by
  induction steps generalizing v w with
  | nil => exact hf v w hv h
  | cons step steps ih =>
    obtain ⟨F, news, hF, hnews, rfl⟩ := along_cons_eq_ok_iff.mp h
    refine hv.build hF (length_of_mapM hnews) ?_
    exact forall_mem_of_mapM hnews fun c hc c' hc' => ih (hv.parts hF c hc) hc'

/-! ## §4. The addressed values. -/

/-- The results of an iterator are all that its collection holds. -/
theorem collect_build {span : Span} {F : Focus} (h : v.focus (.iterate span) = .ok F)
    {news : List Json} (hl : news.length = F.parts.length) :
    (F.build .read news).collect .all f = do
      let results ← news.mapM f
      return F.build .read results := by
  cases v with
  | arr items =>
    injection h with h
    subst h
    -- the results are a list of their own, and all of it is addressed
    have hitems : Span.items .all news = news := by
      simp [Span.items, Span.bounds]
    show (Span.items .all news).mapM f >>= _ = _
    rw [hitems]
    rfl
  | obj entries =>
    cases span with
    | all =>
      injection h with h
      subst h
      -- there is a result for each key, so that keys and results come apart again
      have hlength : news.length = (entries.map Prod.fst).length := by
        rw [hl, List.length_map, List.length_map]
      have hkeys : ((entries.map Prod.fst).zip news).map Prod.fst = entries.map Prod.fst :=
        List.map_fst_zip (Nat.le_of_eq hlength.symm)
      have hvalues : ((entries.map Prod.fst).zip news).mapM (fun e => f e.2) = news.mapM f :=
        calc ((entries.map Prod.fst).zip news).mapM (fun e => f e.2)
            = (((entries.map Prod.fst).zip news).map Prod.snd).mapM f := List.mapM_map.symm
          _ = news.mapM f := by rw [List.map_snd_zip (Nat.le_of_eq hlength)]
      show ((entries.map Prod.fst).zip news).mapM (updateSnd f) >>= _ = _
      rw [mapM_updateSnd, hkeys, hvalues, bind_assoc]
      rfl
    | range start stop => cases h
  | _ => cases h

/-- Reading is taking the values that steps lead to and putting what a function yields in their
place. -/
theorem along_read_eq (h : v.along .read .ok steps = .ok w) :
    v.along .read f steps = w.atDepth f (Statement.depth steps) := by
  induction steps generalizing v w with
  | nil =>
    injection h with h
    rw [h]
    rfl
  | cons step steps ih =>
    cases step with
    | select key =>
      rw [along_select_read] at h
      obtain ⟨c, hc, h⟩ := bind_eq_ok_iff.mp h
      rw [along_select_read, hc, ok_bind]
      exact ih h
    | iterate span =>
      -- the results are gone through once more, with the steps below the iterator
      obtain ⟨F, news, hF, hnews, rfl⟩ := along_cons_eq_ok_iff.mp h
      show (_ >>= _) = collect _ .all (atDepth f (Statement.depth steps))
      rw [hF, ok_bind, collect_build hF (length_of_mapM hnews),
        mapM_of_mapM hnews fun _ _ _ hc => (ih hc).symm]
    | _ => cases h

end Json

end JsonQuery
