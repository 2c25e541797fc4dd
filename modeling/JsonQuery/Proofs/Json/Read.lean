/-
  JsonQuery.Proofs.Json.Read
  ──────────────────────────
  What JSON text reads as is lawful.

  The machine that reads JSON text holds complete values in its open containers.  It
  builds an object by writing keys only, so a key that comes again makes no entry of its
  own.  Every token therefore keeps lawful what the machine holds.
-/
import JsonQuery.Json.Reader
import JsonQuery.Proofs.Json.Lawful

namespace JsonQuery

variable {allowed : Float → Prop}

/-! ## §1. The invariant. -/

/-- The value that a token carries is lawful. -/
def Token.Lawful (allowed : Float → Prop) : Token → Prop
  | .scalar v => v.Lawful allowed
  | _ => True

/-- What an open container holds so far is lawful. -/
def Frame.Lawful (allowed : Float → Prop) : Frame → Prop
  | .array items => ∀ v ∈ items, v.Lawful allowed
  | .object entries _ => (Json.obj entries).Lawful allowed

/-- What the machine holds is lawful. -/
def Reader.Lawful (allowed : Float → Prop) : Reader → Prop
  | .value _ outer => ∀ f ∈ outer, f.Lawful allowed
  | .key _ entries outer => (Json.obj entries).Lawful allowed ∧ ∀ f ∈ outer, f.Lawful allowed
  | .colon entries _ outer => (Json.obj entries).Lawful allowed ∧ ∀ f ∈ outer, f.Lawful allowed
  | .complete v outer => v.Lawful allowed ∧ ∀ f ∈ outer, f.Lawful allowed

/-! ## §2. One token. -/

theorem Json.lawful_reverse {items : List Json} (h : ∀ v ∈ items, v.Lawful allowed) :
    (Json.arr items.reverse).Lawful allowed :=
  .arr fun v hv => h v (List.mem_reverse.mp hv)

theorem Json.lawful_empty : (Json.obj []).Lawful allowed :=
  .obj List.nodup_nil fun _ he => by cases he

theorem Reader.Lawful.step {r r' : Reader} {t : Token} (hr : r.Lawful allowed)
    (ht : t.Lawful allowed) (h : r.step t = some r') : r'.Lawful allowed := by
  unfold Reader.step at h
  split at h
  · -- an array is opened
    split at h
    · injection h with h
      subst h
      exact List.forall_mem_cons.mpr ⟨by simp [Frame.Lawful], hr⟩
    · cases h
  · -- an object is opened
    split at h
    · injection h with h
      subst h
      exact ⟨Json.lawful_empty, hr⟩
    · cases h
  · -- a scalar is a complete value
    injection h with h
    subst h
    exact ⟨.str _, hr⟩
  · injection h with h
    subst h
    exact ⟨ht, hr⟩
  · -- an array is closed where an item may stand
    injection h with h
    subst h
    obtain ⟨hitems, houter⟩ := List.forall_mem_cons.mp hr
    exact ⟨Json.lawful_reverse hitems, houter⟩
  · injection h with h
    subst h
    exact hr
  · injection h with h
    subst h
    exact hr
  · injection h with h
    subst h
    exact List.forall_mem_cons.mpr ⟨hr.1, hr.2⟩
  · -- an item is complete, and another one has to come
    injection h with h
    subst h
    obtain ⟨hitems, houter⟩ := List.forall_mem_cons.mp hr.2
    exact List.forall_mem_cons.mpr ⟨List.forall_mem_cons.mpr ⟨hr.1, hitems⟩, houter⟩
  · injection h with h
    subst h
    obtain ⟨hitems, houter⟩ := List.forall_mem_cons.mp hr.2
    exact ⟨Json.lawful_reverse (List.forall_mem_cons.mpr ⟨hr.1, hitems⟩), houter⟩
  · -- the value of a key is complete
    injection h with h
    subst h
    obtain ⟨hentries, houter⟩ := List.forall_mem_cons.mp hr.2
    exact ⟨hentries.put _ hr.1, houter⟩
  · injection h with h
    subst h
    obtain ⟨hentries, houter⟩ := List.forall_mem_cons.mp hr.2
    exact ⟨hentries.put _ hr.1, houter⟩
  · cases h

/-! ## §3. Whole texts. -/

/-- If the scalars of JSON text are lawful, so is everything that is read. -/
theorem Reader.Lawful.run
    (hfirst : ∀ c rest t n, Token.first c rest = some (t, n) → t.Lawful allowed)
    {r r' : Reader} {text : List Char} (hr : r.Lawful allowed) (h : r.run text = some r') :
    r'.Lawful allowed := by
  fun_induction Reader.run r text with
  | case1 r =>
    injection h with h
    exact h ▸ hr
  | case2 r c rest hspace ih => exact ih hr h
  | case3 r c rest hspace hnone => cases h
  | case4 r c rest hspace t n ht hstep => cases h
  | case5 r c rest hspace t n ht next hstep ih =>
    exact ih (hr.step (hfirst c rest t n ht) hstep) h

theorem Json.lawful_of_read?
    (hfirst : ∀ c rest t n, Token.first c rest = some (t, n) → t.Lawful allowed)
    {text : String} {v : Json} (h : Json.read? text = some v) : v.Lawful allowed := by
  unfold Json.read? at h
  obtain ⟨r, hrun, hresult⟩ := Option.bind_eq_some_iff.mp h
  -- nothing is open and nothing is held before the first token
  have hstart : Reader.start.Lawful allowed := fun f hf => by cases hf
  have hr := hstart.run hfirst hrun
  unfold Reader.result? at hresult
  split at hresult
  · injection hresult with hresult
    exact hresult ▸ hr.1
  · cases hresult

/-! ## §4. Scalars. -/

/-- The value of a number token is no container. -/
theorem Numeral.lawful_of_value {n : Numeral} {v : Json} (h : n.value = some v)
    (hfloat : ∀ x, floatOfParts n = some x → allowed x) : v.Lawful allowed := by
  have hparts : (floatOfParts n).map Json.float = some v → v.Lawful allowed := by
    intro hmap
    obtain ⟨x, hx, rfl⟩ := Option.map_eq_some_iff.mp hmap
    exact .float (hfloat x hx)
  unfold Numeral.value at h
  simp only at h
  split at h
  · split at h
    · injection h with h
      exact h ▸ .int _
    · exact hparts h
  · exact hparts h

theorem Token.lawful_readWord {word : String} {v : Json} (hv : v.Lawful allowed)
    {text : List Char} {t : Token} {n : Nat} (h : readWord word v text = some (t, n)) :
    t.Lawful allowed := by
  unfold readWord at h
  split at h
  · injection h with h
    injection h with h
    exact h ▸ hv
  · cases h

/-- The scalars of JSON text are lawful if its number tokens stand for allowed floats. -/
theorem Token.lawful_of_first (hfloat : ∀ n x, floatOfParts n = some x → allowed x) (c : Char)
    (rest : List Char) (t : Token) (n : Nat) (h : first c rest = some (t, n)) :
    t.Lawful allowed := by
  unfold first at h
  split at h
  -- strings
  case h_7 =>
    obtain ⟨⟨s, m⟩, -, hs⟩ := Option.map_eq_some_iff.mp h
    injection hs with hs
    exact hs ▸ trivial
  case h_8 => exact lawful_readWord .null h
  case h_9 => exact lawful_readWord (.bool true) h
  case h_10 => exact lawful_readWord (.bool false) h
  -- numbers
  case h_11 =>
    simp only [Option.bind_eq_bind, Option.bind_eq_some_iff, Option.some.injEq] at h
    obtain ⟨⟨numeral, m⟩, -, v, hv, h⟩ := h
    injection h with h
    exact h ▸ Numeral.lawful_of_value hv (hfloat numeral)
  -- the punctuation carries no value
  all_goals
    injection h with h
    injection h with h
    exact h ▸ trivial

end JsonQuery
