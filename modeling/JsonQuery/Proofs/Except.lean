/-
  JsonQuery.Proofs.Except
  ───────────────────────
  Computations that may fail: what a sequence of steps yields, and how it fails.

  The first failure ends a sequence, so a sequence succeeds exactly when its first step
  does and the rest does on its result.
-/
import JsonQuery.Eval

namespace JsonQuery

variable {ε α β γ : Type}

/-! ## §1. Computing sequences. -/

@[simp] theorem ok_bind (a : α) (f : α → Except ε β) : (Except.ok a >>= f) = f a := rfl

@[simp] theorem error_bind (e : ε) (f : α → Except ε β) :
    ((Except.error e : Except ε α) >>= f) = .error e := rfl

@[simp] theorem pure_eq_ok (a : α) : (pure a : Except ε α) = .ok a := rfl

@[simp] theorem throw_eq_error (e : ε) : (throw e : Except ε α) = .error e := rfl

/-- Only the results of a step matter to what follows it. -/
theorem bind_congr_of_ok {x : Except ε α} {f g : α → Except ε β}
    (h : ∀ a, x = .ok a → f a = g a) : (x >>= f) = (x >>= g) := by
  cases x with
  | error e => rfl
  | ok a => exact h a rfl

theorem map_bind (x : Except ε α) (f : α → Except ε β) (g : β → γ) :
    (x >>= f).map g = x >>= fun a => (f a).map g := by
  cases x <;> rfl

/-- Two loops agree if their steps agree as long as an invariant holds, which the steps keep. -/
theorem foldlM_congr {V : β → Prop} {f g : β → α → Except ε β} :
    ∀ {l : List α} {b : β},
      (∀ b, ∀ a ∈ l, V b → f b a = g b a ∧ ∀ c, g b a = .ok c → V c) → V b →
      l.foldlM f b = l.foldlM g b
  | [], _, _, _ => rfl
  | a :: l, b, h, hb => by
    obtain ⟨heq, hkeep⟩ := h b a List.mem_cons_self hb
    rw [List.foldlM_cons, List.foldlM_cons, heq]
    -- the invariant holds again of what the first step yields
    exact bind_congr_of_ok fun c hc =>
      foldlM_congr (fun c d hd => h c d (List.mem_cons_of_mem _ hd)) (hkeep c hc)

/-! ## §2. Reading results and failures back. -/

theorem bind_eq_ok_iff {x : Except ε α} {f : α → Except ε β} {b : β} :
    (x >>= f) = .ok b ↔ ∃ a, x = .ok a ∧ f a = .ok b := by
  cases x with
  | error e => simp
  | ok a => simp

theorem bind_eq_error_iff {x : Except ε α} {f : α → Except ε β} {e : ε} :
    (x >>= f) = .error e ↔ x = .error e ∨ ∃ a, x = .ok a ∧ f a = .error e := by
  cases x with
  | error e => simp
  | ok a => simp

theorem map_eq_ok_iff {x : Except ε α} {f : α → β} {b : β} :
    x.map f = .ok b ↔ ∃ a, x = .ok a ∧ f a = b := by
  cases x <;> simp [Except.map]

theorem map_eq_error_iff {x : Except ε α} {f : α → β} {e : ε} :
    x.map f = .error e ↔ x = .error e := by
  cases x <;> simp [Except.map]

/-! ## §3. Failures on the document. -/

@[simp] theorem runtime_ok (a : α) : runtime (.ok a) = .ok a := rfl

@[simp] theorem runtime_error (e : RuntimeError) :
    runtime (.error e : Except RuntimeError α) = .error (.runtime e) := rfl

theorem runtime_eq_error_iff {x : Except RuntimeError α} {e : QueryError} :
    runtime x = .error e ↔ ∃ e', x = .error e' ∧ .runtime e' = e := by
  cases x <;> simp

theorem runtime_eq_ok_iff {x : Except RuntimeError α} {a : α} :
    runtime x = .ok a ↔ x = .ok a := by
  cases x <;> simp

/-! ## §4. Bounds on results and failures. -/

/-- A computation yields results of one class, or fails with failures of another. -/
def Within (V : α → Prop) (E : ε → Prop) : Except ε α → Prop
  | .ok a => V a
  | .error e => E e

@[simp] theorem within_ok {V : α → Prop} {E : ε → Prop} {a : α} :
    Within V E (.ok a) ↔ V a := Iff.rfl

theorem Within.of_ok {V : α → Prop} {E : ε → Prop} {x : Except ε α} {a : α} (h : Within V E x)
    (hx : x = .ok a) : V a := by
  rw [hx] at h
  exact h

theorem Within.of_error {V : α → Prop} {E : ε → Prop} {x : Except ε α} {e : ε}
    (h : Within V E x) (hx : x = .error e) : E e := by
  rw [hx] at h
  exact h

theorem Within.mono {V : α → Prop} {E F : ε → Prop} {x : Except ε α} (hx : Within V E x)
    (hF : ∀ e, E e → F e) : Within V F x := by
  cases x with
  | error e => exact hF e hx
  | ok a => exact hx

theorem Within.bind {V : α → Prop} {W : β → Prop} {E : ε → Prop} {x : Except ε α}
    {f : α → Except ε β} (hx : Within V E x) (hf : ∀ a, V a → Within W E (f a)) :
    Within W E (x >>= f) := by
  cases x with
  | error e => exact hx
  | ok a => exact hf a hx

theorem Within.mapM {V : β → Prop} {E : ε → Prop} {f : α → Except ε β} :
    ∀ {l : List α}, (∀ a ∈ l, Within V E (f a)) → Within (fun bs => ∀ b ∈ bs, V b) E (l.mapM f)
  | [], _ => by simp
  | a :: l, h => by
    rw [List.mapM_cons]
    -- the head yields a result of the class, and the tail a list of them
    refine (h a List.mem_cons_self).bind fun b hb => ?_
    refine (Within.mapM fun c hc => h c (List.mem_cons_of_mem _ hc)).bind fun bs hbs => ?_
    exact List.forall_mem_cons.mpr ⟨hb, hbs⟩

theorem Within.foldlM {V : β → Prop} {E : ε → Prop} {f : β → α → Except ε β} :
    ∀ {l : List α} {b : β}, (∀ b, ∀ a ∈ l, V b → Within V E (f b a)) → V b →
      Within V E (l.foldlM f b)
  | [], _, _, hb => hb
  | a :: l, b, h, hb => by
    rw [List.foldlM_cons]
    exact (h b a List.mem_cons_self hb).bind fun c hc =>
      Within.foldlM (fun c d hd => h c d (List.mem_cons_of_mem _ hd)) hc

theorem Within.runtime {V : α → Prop} {F : RuntimeError → Prop} {E : QueryError → Prop}
    {x : Except RuntimeError α} (hx : Within V F x) (hE : ∀ e, F e → E (.runtime e)) :
    Within V E (runtime x) := by
  cases x with
  | error e => exact hE e hx
  | ok a => exact hx

/-! ## §5. Sequences whose steps are exchanged. -/

section

variable {f : α → Except ε β} {l : List α} {bs : List β}

theorem mapM_cons_eq_ok_iff {a : α} :
    (a :: l).mapM f = .ok bs ↔ ∃ b rest, f a = .ok b ∧ l.mapM f = .ok rest ∧ bs = b :: rest := by
  rw [List.mapM_cons]
  constructor
  · intro h
    obtain ⟨b, hb, h⟩ := bind_eq_ok_iff.mp h
    obtain ⟨rest, hrest, h⟩ := bind_eq_ok_iff.mp h
    injection h with h
    exact ⟨b, rest, hb, hrest, h.symm⟩
  · rintro ⟨b, rest, hb, hrest, rfl⟩
    rw [hb, hrest]
    rfl

theorem mapM_ok (l : List α) : l.mapM (Except.ok : α → Except ε α) = .ok l := by
  have h : l.mapM (fun a => (pure (id a) : Except ε α)) = pure (l.map id) := List.mapM_pure
  rwa [List.map_id] at h

theorem length_of_mapM (h : l.mapM f = .ok bs) : bs.length = l.length := by
  induction l generalizing bs with
  | nil =>
    cases h
    rfl
  | cons a l ih =>
    obtain ⟨b, rest, -, hrest, rfl⟩ := mapM_cons_eq_ok_iff.mp h
    rw [List.length_cons, List.length_cons, ih hrest]

theorem forall_mem_of_mapM {V : β → Prop} (h : l.mapM f = .ok bs)
    (hV : ∀ a ∈ l, ∀ b, f a = .ok b → V b) : ∀ b ∈ bs, V b := by
  have hwithin : ∀ a ∈ l, Within V (fun _ => True) (f a) := by
    intro a ha
    cases hb : f a with
    | error e => trivial
    | ok b => exact hV a ha b hb
  exact (Within.mapM hwithin).of_ok h

/-- A sequence has the result of each of its steps. -/
theorem exists_mem_of_mapM (h : l.mapM f = .ok bs) {a : α} (ha : a ∈ l) :
    ∃ b, f a = .ok b ∧ b ∈ bs := by
  induction l generalizing bs with
  | nil => cases ha
  | cons c l ih =>
    obtain ⟨b, rest, hb, hrest, rfl⟩ := mapM_cons_eq_ok_iff.mp h
    rcases List.mem_cons.mp ha with rfl | ha
    · exact ⟨b, hb, List.mem_cons_self⟩
    · obtain ⟨d, hd, hmem⟩ := ih hrest ha
      exact ⟨d, hd, List.mem_cons_of_mem _ hmem⟩

theorem mapM_congr {g : α → Except ε β} (h : ∀ a ∈ l, f a = g a) : l.mapM f = l.mapM g := by
  induction l with
  | nil => rfl
  | cons a l ih =>
    obtain ⟨ha, hl⟩ := List.forall_mem_cons.mp h
    rw [List.mapM_cons, List.mapM_cons, ha, ih hl]

/-- A sequence over the results of another one, taken back to what those came from. -/
theorem mapM_of_mapM {g : β → Except ε γ} {k : α → Except ε γ} (h : l.mapM f = .ok bs)
    (hk : ∀ a ∈ l, ∀ b, f a = .ok b → g b = k a) : bs.mapM g = l.mapM k := by
  induction l generalizing bs with
  | nil =>
    cases h
    rfl
  | cons a l ih =>
    obtain ⟨b, rest, hb, hrest, rfl⟩ := mapM_cons_eq_ok_iff.mp h
    obtain ⟨ha, hl⟩ := List.forall_mem_cons.mp hk
    rw [List.mapM_cons, List.mapM_cons, ha b hb, ih hrest hl]

/-- A sequence succeeds where another one does whose steps do not succeed more often. -/
theorem exists_mapM {k : α → Except ε γ} (h : l.mapM f = .ok bs)
    (hk : ∀ a ∈ l, ∀ b, f a = .ok b → ∃ c, k a = .ok c) : ∃ cs, l.mapM k = .ok cs := by
  induction l generalizing bs with
  | nil => exact ⟨[], rfl⟩
  | cons a l ih =>
    obtain ⟨b, rest, hb, hrest, -⟩ := mapM_cons_eq_ok_iff.mp h
    obtain ⟨ha, hl⟩ := List.forall_mem_cons.mp hk
    obtain ⟨c, hc⟩ := ha b hb
    obtain ⟨cs, hcs⟩ := ih hrest hl
    exact ⟨c :: cs, mapM_cons_eq_ok_iff.mpr ⟨c, cs, hc, hcs, rfl⟩⟩

/-- A sequence whose steps yield what they are given yields it as a whole. -/
theorem eq_of_mapM {f : α → Except ε α} {bs : List α} (h : l.mapM f = .ok bs)
    (hf : ∀ a ∈ l, ∀ b, f a = .ok b → b = a) : bs = l := by
  induction l generalizing bs with
  | nil =>
    cases h
    rfl
  | cons a l ih =>
    obtain ⟨b, rest, hb, hrest, rfl⟩ := mapM_cons_eq_ok_iff.mp h
    obtain ⟨ha, hl⟩ := List.forall_mem_cons.mp hf
    rw [ha b hb, ih hrest hl]

/-- A sequence fails as another one does if its steps fail and succeed as the other's. -/
theorem mapM_eq_error {k : α → Except ε γ} {e : ε} (h : l.mapM f = .error e)
    (he : ∀ a ∈ l, f a = .error e → k a = .error e)
    (hk : ∀ a ∈ l, ∀ b, f a = .ok b → ∃ c, k a = .ok c) : l.mapM k = .error e := by
  induction l with
  | nil => cases h
  | cons a l ih =>
    obtain ⟨hea, hel⟩ := List.forall_mem_cons.mp he
    obtain ⟨hka, hkl⟩ := List.forall_mem_cons.mp hk
    rw [List.mapM_cons] at h ⊢
    rcases bind_eq_error_iff.mp h with ha | ⟨b, hb, h⟩
    · rw [hea ha]
      rfl
    · -- the head succeeds in both, so the failure is one of the tail
      obtain ⟨c, hc⟩ := hka b hb
      rcases bind_eq_error_iff.mp h with hl | ⟨rest, -, h⟩
      · rw [hc, ok_bind, ih hl hel hkl]
        rfl
      · cases h

end

end JsonQuery
