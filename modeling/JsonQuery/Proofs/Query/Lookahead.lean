/-
  JsonQuery.Proofs.Query.Lookahead
  ────────────────────────────────
  How far ahead the readers look.

  Two texts agree up to a place if they hold the same characters there and before, the end
  of the text counting as one (`Agree`).  A reader is local (`Local`) if its reading is the
  same on every text that agrees up to the character behind it, and its fault the same on
  every text that agrees up to the place of the fault.  Only a literal of the wrong type
  is reported at a place before its end; nothing is said of those faults but where they
  are.

  A local reader may have looked one character past what it read.  The laws are put
  together by the shape of the readers: what is read next begins where the reading ends,
  so the character looked at is the first one of what follows.
-/
import JsonQuery.Proofs.Query.Lexical

namespace JsonQuery.Grammar

open Query Text

variable {α β : Type}

/-! ## §1. Texts that agree. -/

/-- The texts hold the same characters up to a place, or end together before it. -/
def Agree (n : Nat) (t u : List Char) : Prop := ∀ i ≤ n, t[i]? = u[i]?

namespace Agree

variable {n m : Nat} {t u : List Char}

theorem refl (n : Nat) (t : List Char) : Agree n t t := fun _ _ => rfl

theorem mono (h : Agree n t u) (hm : m ≤ n) : Agree m t u := fun i hi => h i (by omega)

theorem drop (h : Agree (n + m) t u) : Agree n (t.drop m) (u.drop m) := by
  intro i hi
  rw [List.getElem?_drop, List.getElem?_drop]
  exact h (m + i) (by omega)

theorem head? (h : Agree n t u) : u.head? = t.head? := by
  rw [List.head?_eq_getElem?, List.head?_eq_getElem?]
  exact (h 0 (by omega)).symm

theorem of_nil (h : Agree n [] u) : u = [] :=
  List.head?_eq_none_iff.mp h.head?

theorem of_cons {c : Char} (h : Agree n (c :: t) u) : ∃ t', u = c :: t' :=
  List.head?_eq_some_iff.mp h.head?

theorem isEmpty (h : Agree n t u) : u.isEmpty = t.isEmpty := by
  cases t with
  | nil => rw [h.of_nil]
  | cons c t =>
    obtain ⟨t', rfl⟩ := h.of_cons
    rfl

/-- What follows a place up to which the texts agree begins with the same character. -/
theorem behind (h : Agree n t u) (hm : m ≤ n) : Agree 0 (t.drop m) (u.drop m) :=
  (h.mono (by omega : 0 + m ≤ n)).drop

theorem blankCount (h : Agree (blankCount t) t u) : Text.blankCount u = Text.blankCount t := by
  induction t generalizing u with
  | nil => rw [h.of_nil]
  | cons c t ih =>
    obtain ⟨u, rfl⟩ := h.of_cons
    unfold Text.blankCount at h ⊢
    rw [List.takeWhile_cons] at h ⊢
    rw [List.takeWhile_cons]
    by_cases hc : isBlank c = true
    · -- a blank, and those behind it
      rw [if_pos hc] at h
      rw [if_pos hc, if_pos hc, List.length_cons, List.length_cons]
      exact congrArg (· + 1) (ih h.drop)
    · rw [if_neg hc, if_neg hc]

end Agree

/-! ## §2. Local readers. -/

/-- What a reader makes of a text it makes of all texts that agree with it up to where the reading
ends, or the fault is, which is not before a given place. -/
structure Local (m : Nat) (read : List Char → Except Fault (Reading α)) (text : List Char) :
    Prop where
  reading : ∀ r, read text = .ok r →
    m ≤ r.length ∧ ∀ u, Agree r.length text u → read u = .ok r
  fault : ∀ f, read text = .error f → ∃ n, f.rest = text.drop n
    ∧ (f.reason.kind ≠ .type →
        m ≤ n ∧ ∀ u, Agree n text u → read u = .error ⟨f.reason, u.drop n⟩)

namespace Local

variable {m n d : Nat} {text : List Char} {read read' : List Char → Except Fault (Reading α)}

theorem mono (h : Local m read text) (hn : n ≤ m) : Local n read text := by
  constructor
  · intro r hr
    obtain ⟨hm, hu⟩ := h.reading r hr
    exact ⟨by omega, hu⟩
  · intro f hf
    obtain ⟨k, hrest, hlocal⟩ := h.fault f hf
    refine ⟨k, hrest, fun hkind => ?_⟩
    obtain ⟨hm, hu⟩ := hlocal hkind
    exact ⟨by omega, hu⟩

/-- A reader may be exchanged for another one that does the same on the texts that agree. -/
theorem congr (read' : List Char → Except Fault (Reading α))
    (h : ∀ u, Agree m text u → read u = read' u) (h' : Local m read' text) :
    Local m read text := by
  have htext : read text = read' text := h text (.refl m text)
  constructor
  · intro r hr
    obtain ⟨hm, hu⟩ := h'.reading r (htext ▸ hr)
    exact ⟨hm, fun u hag => (h u (hag.mono hm)).trans (hu u hag)⟩
  · intro f hf
    obtain ⟨k, hrest, hlocal⟩ := h'.fault f (htext ▸ hf)
    refine ⟨k, hrest, fun hkind => ?_⟩
    obtain ⟨hm, hu⟩ := hlocal hkind
    exact ⟨hm, fun u hag => (h u (hag.mono hm)).trans (hu u hag)⟩

theorem ok {r : Reading α} (h : m ≤ r.length) : Local m (fun _ => .ok r) text := by
  constructor
  · intro r' hr
    injection hr with hr
    subst hr
    exact ⟨h, fun _ _ => rfl⟩
  · intro f hf
    cases hf

theorem error {reason : Reason} (h : reason.kind ≠ .type → m ≤ n) :
    Local m (fun t => (.error ⟨reason, t.drop n⟩ : Except Fault (Reading α))) text := by
  constructor
  · intro r hr
    cases hr
  · intro f hf
    injection hf with hf
    subst hf
    exact ⟨n, rfl, fun hkind => ⟨h hkind, fun _ _ => rfl⟩⟩

/-- One reader behind another: the second goes on at least where the first one ends. -/
theorem bind {k : Reading α → List Char → Except Fault (Reading β)}
    (hread : Local n read (text.drop d)) (hm : m ≤ n + d)
    (hk : ∀ a, read (text.drop d) = .ok a → Local (a.length + d) (k a) text) :
    Local m (fun t => read (t.drop d) >>= fun a => k a t) text := by
  constructor
  · -- a reading: the first part ends before the second, and both before the text may change
    intro r hr
    obtain ⟨a, ha, hr⟩ := bind_eq_ok_iff.mp hr
    obtain ⟨hn, hlocal⟩ := hread.reading a ha
    obtain ⟨hlen, hu⟩ := (hk a ha).reading r hr
    refine ⟨by omega, fun u hag => ?_⟩
    have hfirst : read (u.drop d) = .ok a := hlocal _ (hag.mono hlen).drop
    show (read (u.drop d) >>= fun a => k a u) = .ok r
    rw [hfirst, ok_bind, hu u hag]
  · -- a fault of the first reader, or of the second behind a reading of the first
    intro f hf
    rcases bind_eq_error_iff.mp hf with hf | ⟨a, ha, hf⟩
    · obtain ⟨i, hrest, hlocal⟩ := hread.fault f hf
      refine ⟨i + d, by rw [hrest, List.drop_drop, Nat.add_comm], fun hkind => ?_⟩
      obtain ⟨hn, hu⟩ := hlocal hkind
      refine ⟨by omega, fun u hag => ?_⟩
      show (read (u.drop d) >>= fun a => k a u) = _
      rw [hu _ hag.drop, error_bind, List.drop_drop, Nat.add_comm]
    · obtain ⟨hn, hfirst⟩ := hread.reading a ha
      obtain ⟨i, hrest, hlocal⟩ := (hk a ha).fault f hf
      refine ⟨i, hrest, fun hkind => ?_⟩
      obtain ⟨hlen, hu⟩ := hlocal hkind
      refine ⟨by omega, fun u hag => ?_⟩
      have hfirst : read (u.drop d) = .ok a := hfirst _ (hag.mono hlen).drop
      show (read (u.drop d) >>= fun a => k a u) = _
      rw [hfirst, ok_bind, hu u hag]

/-- What was read, seen as something else. -/
theorem map {g : Reading α → Reading β} (hread : Local n read (text.drop d)) (hm : m ≤ n + d)
    (hg : ∀ a, a.length + d ≤ (g a).length) :
    Local m (fun t => (read (t.drop d)).map g) text := by
  refine congr (fun t => read (t.drop d) >>= fun a => .ok (g a)) ?_ ?_
  · intro u _
    cases read (u.drop d) <;> rfl
  · exact hread.bind hm fun a _ => ok (hg a)

/-- A required character that stands at the place from which the reader goes on. -/
theorem require {c : Char} {patterns : List String} (h : Local d read text) :
    Local d (fun t => require c patterns (t.drop d) >>= fun _ => read t) text := by
  cases hd : text.drop d with
  | nil =>
    -- the texts that agree end here too
    refine congr (fun t => .error ⟨.missing patterns, t.drop d⟩) ?_
      (error fun _ => Nat.le_refl d)
    intro u hag
    have hbehind := hag.behind (Nat.le_refl d)
    rw [hd] at hbehind
    show (Query.require c patterns (u.drop d) >>= fun _ => read u) = .error ⟨_, u.drop d⟩
    rw [hbehind.of_nil]
    rfl
  | cons e rest =>
    have hhead : ∀ u, Agree d text u → ∃ rest', u.drop d = e :: rest' := by
      intro u hag
      have hbehind := hag.behind (Nat.le_refl d)
      rw [hd] at hbehind
      exact hbehind.of_cons
    by_cases hc : e = c
    · refine congr _ (fun u hag => ?_) h
      obtain ⟨rest', hu⟩ := hhead u hag
      rw [hu, hc, require_cons, ok_bind]
    · refine congr (fun t => .error ⟨.instead e.toString patterns, t.drop d⟩) ?_
        (error fun _ => Nat.le_refl d)
      intro u hag
      obtain ⟨rest', hu⟩ := hhead u hag
      have hfails : Query.require c patterns (e :: rest')
          = .error ⟨.instead e.toString patterns, e :: rest'⟩ := if_neg hc
      rw [hu, hfails, error_bind]

/-- A choice that the character at a place decides, from which both readers go on. -/
theorem ite {c : Char} (ht : (text.drop d).head? = some c → Local d read text)
    (he : (text.drop d).head? ≠ some c → Local d read' text) :
    Local d (fun t => if (t.drop d).head? = some c then read t else read' t) text := by
  by_cases hc : (text.drop d).head? = some c
  · refine congr _ (fun u hag => ?_) (ht hc)
    rw [(hag.behind (Nat.le_refl d)).head?, if_pos hc]
  · refine congr _ (fun u hag => ?_) (he hc)
    rw [(hag.behind (Nat.le_refl d)).head?, if_neg hc]

end Local

/-! ## §3. Tokens and literals. -/

theorem ne_escape {c : Char} {rest : List Char} (h1 : c = '~' → rest = [] → False)
    (h2 : ∀ d tail, c = '~' → rest = d :: tail → False) : c ≠ '~' := by
  rintro rfl
  cases rest with
  | nil => exact h1 rfl rfl
  | cons d tail => exact h2 d tail rfl rfl

/-- Only the escape character is no character of its own. -/
theorem readToken_cons {stops : Char → Bool} {c : Char} (hc : c ≠ '~') (rest : List Char) :
    readToken stops (c :: rest) = if stops c then .ok ⟨[], 0⟩ else
      readToken stops rest >>= fun more => .ok ⟨c :: more.value, more.length + 1⟩ := by
  rw [readToken.eq_4 _ _ _ (by simp [hc]) (by simp [hc])]
  rfl

theorem readToken_local (stops : Char → Bool) (text : List Char) :
    Local 0 (readToken stops) text
      ∧ ∀ c rest, text = c :: rest → stops c = false → Local 1 (readToken stops) text := by
  fun_induction readToken stops text with
  | case1 =>
    refine ⟨.congr (fun _ => .ok ⟨[], 0⟩) ?_ (.ok (Nat.le_refl 0)), ?_⟩
    · intro u hag
      rw [hag.of_nil, readToken]
    · intro c rest htext
      cases htext
  | case2 =>
    -- an escape that is not finished is seen at the end of the text only
    have h : Local 1 (readToken stops) ['~'] := by
      refine .congr (fun t => .error ⟨.endOfEscape, t.drop 1⟩) ?_
        (.error fun _ => Nat.le_refl 1)
      intro u hag
      obtain ⟨u, rfl⟩ := hag.of_cons
      rw [(hag.behind (Nat.le_refl 1)).of_nil (u := u), readToken]
      rfl
    exact ⟨h.mono (by omega), fun _ _ _ _ => h⟩
  | case3 c rest ih =>
    have h : Local 1 (readToken stops) ('~' :: c :: rest) := by
      refine .congr (fun t => readToken stops (t.drop 2) >>= fun more =>
        .ok ⟨c :: more.value, more.length + 2⟩) ?_ ?_
      · intro u hag
        obtain ⟨u, rfl⟩ := hag.of_cons
        obtain ⟨u, rfl⟩ := (hag.behind (Nat.le_refl 1)).of_cons
        rw [readToken]
        rfl
      · exact ih.1.bind (by omega) fun more _ => .ok (Nat.le_refl _)
    exact ⟨h.mono (by omega), fun _ _ _ _ => h⟩
  | case4 c rest h1 h2 hstop =>
    -- the token stops in front of the character
    have hc : c ≠ '~' := ne_escape h1 h2
    refine ⟨.congr (fun _ => .ok ⟨[], 0⟩) ?_ (.ok (Nat.le_refl 0)), ?_⟩
    · intro u hag
      obtain ⟨u, rfl⟩ := hag.of_cons
      rw [readToken_cons hc, if_pos hstop]
    · intro d tail htext hd
      injection htext with hc _
      rw [← hc, hstop] at hd
      cases hd
  | case5 c rest h1 h2 hstop ih =>
    have hc : c ≠ '~' := ne_escape h1 h2
    have h : Local 1 (readToken stops) (c :: rest) := by
      refine .congr (fun t => readToken stops (t.drop 1) >>= fun more =>
        .ok ⟨c :: more.value, more.length + 1⟩) ?_ ?_
      · intro u hag
        obtain ⟨u, rfl⟩ := hag.of_cons
        rw [readToken_cons hc, if_neg hstop]
        rfl
      · exact ih.1.bind (by omega) fun more _ => .ok (Nat.le_refl _)
    exact ⟨h.mono (by omega), fun _ _ _ _ => h⟩

theorem readToken_value_nil {stops : Char → Bool} {r : Reading (List Char)}
    {text : List Char} (h : readToken stops text = .ok r) (hnil : r.value = []) : r.length = 0 := by
  obtain ⟨t, rest, -, hlen, ht, -⟩ := readToken_sound h
  rw [hnil] at ht
  cases ht
  exact hlen.symm

theorem kind_of_literalValue {type : LiteralType} {body : List Char} {reason : Reason}
    (h : literalValue type body = .error reason) : reason.kind = .type := by
  unfold literalValue at h
  split at h
  · cases h
  · split at h
    · cases h
    · injection h with h
      subst h
      rfl
  · split at h
    · cases h
    · injection h with h
      subst h
      rfl
  · split at h
    · cases h
    · cases h
    · injection h with h
      subst h
      rfl
    · injection h with h
      subst h
      rfl

/-- What the body of a marked literal stands for, behind its bracket. -/
def closeMarked (type : LiteralType) (body : Reading (List Char)) (text : List Char) :
    Except Fault (Reading Json) :=
  match literalValue type body.value with
  | .ok v => .ok ⟨v, body.length + 1⟩
  | .error reason => .error ⟨reason, text⟩

/-- The body, then its bracket, then the value. -/
theorem readMarked_of_ne_nil (type : LiteralType) {text : List Char} (hne : text ≠ []) :
    readMarked type text = readToken (· == ')') text >>= fun body =>
      require ')' [")"] (text.drop body.length) >>= fun _ => closeMarked type body text := by
  unfold readMarked
  rw [if_neg (by simpa using hne)]
  refine bind_congr_of_ok fun body hbody => ?_
  -- the body ends with the text, or before a bracket
  obtain ⟨t, rest, htext, hlen, -, hrest⟩ := readToken_sound hbody
  have hdrop : text.drop body.length = rest := by
    rw [htext, ← hlen, List.drop_left]
  rw [hdrop]
  cases rest with
  | nil => rfl
  | cons d rest =>
    have hd : d = ')' := by simpa using hrest
    rw [if_neg (by simp), hd, require_cons]
    rfl

theorem readMarked_local (type : LiteralType) (text : List Char) :
    Local 0 (readMarked type) text := by
  cases text with
  | nil =>
    refine .congr (fun t => .error ⟨.endOfQuery, t.drop 0⟩) ?_
      (.error fun _ => Nat.le_refl 0)
    intro u hag
    rw [hag.of_nil]
    rfl
  | cons c rest =>
    refine .congr (fun t => readToken (· == ')') (t.drop 0) >>= fun body =>
      require ')' [")"] (t.drop body.length) >>= fun _ => closeMarked type body (t.drop 0)) ?_ ?_
    · intro u hag
      obtain ⟨u, rfl⟩ := hag.of_cons
      exact readMarked_of_ne_nil type (List.cons_ne_nil _ _)
    · refine (readToken_local _ _).1.bind (by omega) fun body _ => .require ?_
      unfold closeMarked
      cases hv : literalValue type body.value with
      | ok v => exact .ok (by simp)
      | error reason => exact .error fun hkind => absurd (kind_of_literalValue hv) hkind

theorem marked?_of_agree {t u : List Char} (h : Agree 1 t u) : marked? u = marked? t := by
  cases t with
  | nil => rw [h.of_nil]
  | cons c t =>
    obtain ⟨u, rfl⟩ := h.of_cons
    have hbehind := h.behind (Nat.le_refl 1)
    cases t with
    | nil =>
      have hu : u = [] := hbehind.of_nil
      rw [hu]
    | cons d t =>
      obtain ⟨u, rfl⟩ : ∃ u', u = d :: u' := hbehind.of_cons
      unfold marked?
      split <;> simp_all

/-- No literal is marked with a special character. -/
theorem marked?_atSpecial {t : List Char} (h : atSpecial t = true) : marked? t = none := by
  cases hm : marked? t with
  | none => rfl
  | some type =>
    obtain ⟨mark, rest, rfl, hmark⟩ := marked?_eq_some hm
    rw [literalType?_special h] at hmark
    cases hmark

theorem present_of_not_atSpecial {t : List Char} (h : atSpecial t = false) : Present t := by
  cases t with
  | nil => cases h
  | cons c rest => exact ⟨c, rest, rfl, h⟩

theorem atSpecial_of_agree {n : Nat} {t u : List Char} (h : Agree n t u) :
    atSpecial u = atSpecial t := by
  unfold atSpecial
  rw [h.head?]

/-- The mark of a literal is two characters long, so a reader may have looked at the second one if
it has read the first. -/
def LocalLiteral (read : List Char → Except Fault (Reading α)) (text : List Char) : Prop :=
  Local 0 read text ∧ (atSpecial text = false → Local 1 read text)

theorem LocalLiteral.of_marked {text : List Char}
    (read : Option LiteralType → List Char → Except Fault (Reading α))
    (hsome : atSpecial text = false → ∀ type, Local 1 (read (some type)) text)
    (hnone : LocalLiteral (read none) text) :
    LocalLiteral (fun t => read (marked? t) t) text := by
  cases hs : atSpecial text with
  | true =>
    refine ⟨.congr (read none) (fun u hag => ?_) hnone.1, fun h => ?_⟩
    · rw [← atSpecial_of_agree hag] at hs
      rw [marked?_atSpecial hs]
    · rw [hs] at h
      cases h
  | false =>
    have h : Local 1 (fun t => read (marked? t) t) text := by
      refine .congr (read (marked? text)) (fun u hag => ?_) ?_
      · rw [marked?_of_agree hag]
      · cases marked? text with
        | some type => exact hsome hs type
        | none => exact hnone.2 hs
    exact ⟨h.mono (by omega), fun _ => h⟩

/-- An untyped token, whatever is made of it. -/
theorem readToken_localLiteral (g : List Char → α) (text : List Char) :
    LocalLiteral (fun t => (readToken isSpecial t).map fun token => ⟨g token.value, token.length⟩)
      text := by
  obtain ⟨h, h'⟩ := readToken_local isSpecial text
  refine ⟨h.map (d := 0) (by omega) fun _ => Nat.le_refl _, fun hs => ?_⟩
  obtain ⟨c, rest, htext, hc⟩ := present_of_not_atSpecial hs
  exact (h' c rest htext hc).map (d := 0) (by omega) fun _ => Nat.le_refl _

/-- A literal whose mark was looked for. -/
def readLiteralAs (type? : Option LiteralType) (text : List Char) : Except Fault (Reading Json) :=
  match type? with
  | some type => (readMarked type (text.drop 2)).map (·.behind 2)
  | none => (readToken isSpecial text).map fun token => ⟨coerce token.value, token.length⟩

theorem readLiteral_local (text : List Char) : LocalLiteral readLiteral text := by
  refine LocalLiteral.of_marked readLiteralAs (fun _ type => ?_)
    (readToken_localLiteral coerce text)
  refine (readMarked_local type _).map (by omega) fun a => ?_
  simp only [Reading.behind]
  omega

/-! ## §4. Steps. -/

/-- The key that a literal is, if it is one. -/
def keyOf (literal : Reading Json) (text : List Char) : Except Fault (Reading Key) :=
  match key? literal.value with
  | some key => .ok ⟨key, literal.length⟩
  | none => .error ⟨.keyType literal.value.kind, text⟩

theorem readKey_local (text : List Char) : Local 0 readKey text := by
  cases hs : atSpecial text with
  | true =>
    refine .congr (fun t => .error ⟨.missingKey text.isEmpty, t.drop 0⟩) ?_
      (.error fun _ => Nat.le_refl 0)
    intro u hag
    unfold readKey
    rw [atSpecial_of_agree hag, hs, if_pos rfl, hag.isEmpty]
    rfl
  | false =>
    refine .congr (fun t => readLiteral (t.drop 0) >>= fun literal => keyOf literal (t.drop 0))
      ?_ ?_
    · intro u hag
      unfold readKey
      rw [atSpecial_of_agree hag, hs]
      rfl
    · refine (readLiteral_local text).1.bind (by omega) fun literal _ => ?_
      unfold keyOf
      cases key? literal.value with
      | some key => exact .ok (Nat.le_refl _)
      | none => exact .error fun hkind => absurd rfl hkind

/-- A bound is absent only if it has no characters. -/
theorem readBound_none {text : List Char} {r : Reading (Option Int64)}
    (h : readBound text = .ok r) (hnone : r.value = none) : r.length = 0 := by
  obtain ⟨t, rest, -, hlen, ht, -⟩ := readBound_sound h
  rw [hnone] at ht
  cases ht
  exact hlen.symm

/-- The bound that a literal is, if it is one. -/
def boundOf (literal : Reading Json) (text : List Char) :
    Except Fault (Reading (Option Int64)) :=
  match literal.value with
  | .int n => .ok ⟨some n, literal.length⟩
  | v => .error ⟨.boundType v.kind, text⟩

theorem readBound_local (text : List Char) : LocalLiteral readBound text := by
  cases hs : atSpecial text with
  | true =>
    refine ⟨.congr (fun _ => .ok ⟨none, 0⟩) ?_ (.ok (Nat.le_refl 0)), by simp [hs]⟩
    intro u hag
    unfold readBound
    rw [atSpecial_of_agree hag, hs]
    rfl
  | false =>
    have h : Local 1 readBound text := by
      refine .congr (fun t => readLiteral (t.drop 0) >>= fun literal =>
        boundOf literal (t.drop 0)) ?_ ?_
      · intro u hag
        unfold readBound
        rw [atSpecial_of_agree hag, hs]
        rfl
      · refine ((readLiteral_local text).2 hs).bind (by omega) fun literal _ => ?_
        unfold boundOf
        cases literal.value with
        | int n => exact .ok (Nat.le_refl _)
        | _ => exact .error fun hkind => absurd rfl hkind
    exact ⟨h.mono (by omega), fun _ => h⟩

/-- A subscript other than the one of everything. -/
def readBounds (text : List Char) : Except Fault (Reading Command) := do
  let start ← readBound text
  if (text.drop start.length).head? = some ':' then
    let stop ← readBound (text.drop (start.length + 1))
    require ']' ["]"] (text.drop (stop.length + (start.length + 1)))
    return ⟨.iterate (.range start.value stop.value), start.length + stop.length + 2⟩
  require ']' ["]"] (text.drop start.length)
  match start.value with
  | some n => return ⟨.select (.index n), start.length + 1⟩
  | none => throw ⟨.missingIndex, text⟩

theorem readSubscript_eq {text : List Char} (hne : text ≠ [])
    (hstar : ['*', ']'].isPrefixOf text = false) : readSubscript text = readBounds text := by
  unfold readSubscript readBounds
  rw [if_neg (by simpa using hne), hstar]
  refine bind_congr_of_ok fun start _ => ?_
  show (if (text.drop start.length).head? = some ':' then _ else _) = _
  by_cases hcolon : (text.drop start.length).head? = some ':'
  · rw [if_pos hcolon, if_pos hcolon, List.drop_drop]
    refine bind_congr_of_ok fun stop _ => ?_
    rw [List.drop_drop, Nat.add_left_comm]
  · exact (if_neg hcolon).trans (if_neg hcolon).symm

theorem readBounds_local {m : Nat} {text : List Char} (h : Local m readBound text) :
    Local m readBounds text := by
  refine .congr (fun t => readBound (t.drop 0) >>= fun start =>
    if (t.drop start.length).head? = some ':' then
      readBound (t.drop (start.length + 1)) >>= fun stop =>
      require ']' ["]"] (t.drop (stop.length + (start.length + 1))) >>= fun _ =>
      .ok ⟨.iterate (.range start.value stop.value), start.length + stop.length + 2⟩
    else
      require ']' ["]"] (t.drop start.length) >>= fun _ =>
      match start.value with
      | some n => .ok ⟨.select (.index n), start.length + 1⟩
      | none => .error ⟨.missingIndex, t.drop 0⟩) (fun u _ => rfl) ?_
  refine h.bind (by omega) fun start hstart => .ite (fun _ => ?_) fun _ => .require ?_
  · -- a range
    refine (readBound_local _).1.bind (by omega) fun stop _ => .require (.ok ?_)
    show stop.length + (start.length + 1) ≤ start.length + stop.length + 2
    omega
  · -- the bound is missing only at the place it was to begin at
    cases hv : start.value with
    | some n => exact .ok (by simp)
    | none =>
      have hlen := readBound_none hstart hv
      exact .error fun _ => by omega

theorem star_of_agree {t u : List Char} (h : Agree 1 t u) :
    ['*', ']'].isPrefixOf u = ['*', ']'].isPrefixOf t := by
  cases t with
  | nil => rw [h.of_nil]
  | cons c t =>
    obtain ⟨u, rfl⟩ := h.of_cons
    have hbehind : Agree 0 t u := h.behind (Nat.le_refl 1)
    cases t with
    | nil => rw [hbehind.of_nil]
    | cons d t =>
      obtain ⟨u, rfl⟩ := hbehind.of_cons
      simp [List.isPrefixOf]

theorem star_atSpecial {t : List Char} (h : atSpecial t = true) :
    ['*', ']'].isPrefixOf t = false := by
  cases t with
  | nil => rfl
  | cons c t =>
    have hne : '*' ≠ c := by
      rintro rfl
      cases h
    simp [List.isPrefixOf, hne]

theorem readSubscript_local (text : List Char) : Local 0 readSubscript text := by
  by_cases hne : text = []
  · subst hne
    refine .congr (fun t => .error ⟨.endOfQuery, t.drop 0⟩) ?_
      (.error fun _ => Nat.le_refl 0)
    intro u hag
    rw [hag.of_nil]
    rfl
  have hne' : ∀ n u, Agree n text u → u ≠ [] := by
    rintro n u hag rfl
    have hempty := hag.isEmpty
    exact hne (List.isEmpty_iff.mp hempty.symm)
  obtain ⟨hbound, hbound'⟩ := readBound_local text
  cases hs : atSpecial text with
  | true =>
    refine .congr _ (fun u hag => ?_) (readBounds_local hbound)
    rw [← atSpecial_of_agree hag] at hs
    exact readSubscript_eq (hne' 0 u hag) (star_atSpecial hs)
  | false =>
    -- the first character is there, so that the second may be looked at
    refine Local.mono (m := 1) ?_ (by omega)
    cases hstar : ['*', ']'].isPrefixOf text with
    | true =>
      refine .congr (fun _ => .ok ⟨.iterate .all, 2⟩) ?_ (.ok (by simp))
      intro u hag
      unfold readSubscript
      rw [if_neg (by simpa using hne' 1 u hag), star_of_agree hag, hstar]
      rfl
    | false =>
      refine .congr _ (fun u hag => ?_) (readBounds_local (hbound' hs))
      rw [← star_of_agree hag] at hstar
      exact readSubscript_eq (hne' 1 u hag) hstar

theorem readStep_local (text : List Char) : Local 0 readStep text := by
  by_cases hc : text.head? = some '['
  · refine .congr (fun t => (readSubscript (t.drop 1)).map (·.behind 1)) ?_ ?_
    · intro u hag
      unfold readStep
      rw [hag.head?, if_pos hc]
    · refine (readSubscript_local _).map (by omega) fun a => ?_
      simp only [Reading.behind]
      omega
  · refine .congr (fun t => (readKey (t.drop 0)).map fun key =>
      ⟨.select key.value, key.length⟩) ?_ ?_
    · intro u hag
      unfold readStep
      rw [hag.head?, if_neg hc]
      rfl
    · exact (readKey_local text).map (by omega) fun _ => Nat.le_refl _

end JsonQuery.Grammar
