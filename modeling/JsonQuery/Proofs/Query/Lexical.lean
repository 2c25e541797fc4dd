/-
  JsonQuery.Proofs.Query.Lexical
  ──────────────────────────────
  The readers of tokens, literals and steps read the grammar's phrases.

  For each reader there are two laws.  What it reads is a phrase that the text begins
  with (`_sound`); and a phrase is read to its end whatever it stands before, as long as a
  character follows that no token goes on with (`_complete`).
-/
import JsonQuery.Proofs.Except
import JsonQuery.Proofs.Query.Grammar

namespace JsonQuery.Grammar

open Number Query Text

/-! ## §1. What may follow a phrase. -/

/-- A text that is empty or begins with a character of a class. -/
def Follows (p : Char → Bool) (rest : List Char) : Prop := ∀ c ∈ rest.head?, p c = true

@[simp] theorem follows_nil (p : Char → Bool) : Follows p [] := by
  intro c hc
  cases hc

@[simp] theorem follows_cons {p : Char → Bool} {c : Char} {rest : List Char} :
    Follows p (c :: rest) ↔ p c = true := by
  simp [Follows]

theorem Follows.mono {p q : Char → Bool} (h : ∀ c, p c = true → q c = true) {rest : List Char}
    (hr : Follows p rest) : Follows q rest :=
  fun c hc => h c (hr c hc)

theorem Follows.head?_ne {p : Char → Bool} {rest : List Char} (h : Follows p rest) {c : Char}
    (hc : p c = false) : rest.head? ≠ some c := by
  intro hhead
  rw [h c hhead] at hc
  cases hc

/-- Whether a literal ends before the character. A bracket would make it the mark of a type. -/
def endsLiteral (c : Char) : Bool := isSpecial c && c != '('

theorem isSpecial_of_endsLiteral (c : Char) (h : endsLiteral c = true) : isSpecial c = true :=
  (Bool.and_eq_true_iff.mp h).1

/-! ## §2. Tokens. -/

theorem readToken_sound {stops : Char → Bool} {text : List Char} {r : Reading (List Char)}
    (h : readToken stops text = .ok r) :
    ∃ t rest, text = t ++ rest ∧ t.length = r.length ∧ Token stops t r.value
      ∧ Follows stops rest := by
  fun_induction readToken stops text generalizing r with
  | case1 =>
    injection h with h
    subst h
    exact ⟨[], [], rfl, rfl, .nil, follows_nil _⟩
  | case2 => cases h
  | case3 c rest ih =>
    obtain ⟨more, hmore, h⟩ := bind_eq_ok_iff.mp h
    injection h with h
    subst h
    obtain ⟨t, rest', rfl, hlen, ht, hrest⟩ := ih hmore
    exact ⟨'~' :: c :: t, rest', rfl, by simp [hlen], ht.escaped c, hrest⟩
  | case4 c rest h1 h2 hstop =>
    injection h with h
    subst h
    exact ⟨[], c :: rest, rfl, rfl, .nil, follows_cons.mpr hstop⟩
  | case5 c rest h1 h2 hstop ih =>
    obtain ⟨more, hmore, h⟩ := bind_eq_ok_iff.mp h
    injection h with h
    subst h
    obtain ⟨t, rest', rfl, hlen, ht, hrest⟩ := ih hmore
    -- a `~` that is not the last character has been read as an escape
    have hc : c ≠ '~' := by
      rintro rfl
      cases hr : t ++ rest' with
      | nil => exact h1 rfl hr
      | cons d tail => exact h2 d tail rfl hr
    exact ⟨c :: t, rest', rfl, by simp [hlen], ht.plain hc (by simpa using hstop), hrest⟩

theorem readToken_stop {stops : Char → Bool} (hs : stops '~' = false) {rest : List Char}
    (hr : Follows stops rest) : readToken stops rest = .ok ⟨[], 0⟩ := by
  cases rest with
  | nil => rfl
  | cons c rest =>
    have hc : stops c = true := follows_cons.mp hr
    have hne : c ≠ '~' := by
      rintro rfl
      rw [hs] at hc
      cases hc
    rw [readToken.eq_4 _ _ _ (by simp [hne]) (by simp [hne]), if_pos hc]

theorem readToken_complete {stops : Char → Bool} (hs : stops '~' = false) {t v : List Char}
    (ht : Token stops t v) {rest : List Char} (hr : Follows stops rest) :
    readToken stops (t ++ rest) = .ok ⟨v, t.length⟩ := by
  induction ht with
  | nil => exact readToken_stop hs hr
  | escaped c _ ih =>
    rw [List.cons_append, List.cons_append, readToken, ih]
    rfl
  | plain hc hstop _ ih =>
    rw [List.cons_append, readToken.eq_4 _ _ _ (by simp [hc]) (by simp [hc]), ih, hstop]
    rfl

/-! ## §3. Literals. -/

theorem readMarked_sound {type : LiteralType} {text : List Char} {r : Reading Json}
    (h : readMarked type text = .ok r) :
    ∃ t rest body, text = t ++ ')' :: rest ∧ t.length + 1 = r.length
      ∧ Token (· == ')') t body ∧ literalValue type body = .ok r.value := by
  unfold readMarked at h
  simp only [throw_eq_error, pure_eq_ok, error_bind] at h
  split at h
  · cases h
  obtain ⟨body, hbody, h⟩ := bind_eq_ok_iff.mp h
  obtain ⟨t, rest, rfl, hlen, ht, hrest⟩ := readToken_sound hbody
  split at h
  · cases h
  rename_i hdrop
  rw [← hlen, List.drop_left] at hdrop
  cases rest with
  | nil => exact absurd rfl hdrop
  | cons c rest =>
    -- the body ends where the bracket does
    have hc : c = ')' := by simpa using hrest
    subst hc
    split at h
    · rename_i v hv
      injection h with h
      subst h
      exact ⟨t, rest, body.value, rfl, by rw [hlen], ht, hv⟩
    · cases h

theorem readMarked_complete {type : LiteralType} {t body : List Char} {v : Json}
    (ht : Token (· == ')') t body) (hv : literalValue type body = .ok v) (rest : List Char) :
    readMarked type (t ++ ')' :: rest) = .ok ⟨v, t.length + 1⟩ := by
  have hbody := readToken_complete (by decide) ht (follows_cons.mpr (by decide) :
    Follows (· == ')') (')' :: rest))
  unfold readMarked
  rw [if_neg (by simp), hbody]
  simp only [ok_bind, List.drop_left]
  rw [if_neg (by simp), hv]
  rfl

/-- A text that begins with a mark, and the text behind the mark. -/
theorem marked?_eq_some {text : List Char} {type : LiteralType} (h : marked? text = some type) :
    ∃ mark rest, text = mark :: '(' :: rest ∧ literalType? mark = some type := by
  unfold marked? at h
  split at h
  · rename_i mark rest
    exact ⟨mark, rest, rfl, h⟩
  · cases h

/-- No special character marks a type. -/
theorem literalType?_special {c : Char} (h : isSpecial c = true) : literalType? c = none := by
  simp only [isSpecial, specials, List.contains_eq_mem, List.mem_cons, List.not_mem_nil, or_false,
    decide_eq_true_eq] at h
  rcases h with rfl | rfl | rfl | rfl | rfl | rfl | rfl | rfl | rfl | rfl <;> rfl

/-- A token is no marked literal, unless a bracket follows its only character. -/
theorem marked?_token {t v : List Char} (ht : Token isSpecial t v) {rest : List Char}
    (hr : Follows isSpecial rest) (hb : rest.head? ≠ some '(') : marked? (t ++ rest) = none := by
  cases hm : marked? (t ++ rest) with
  | none => rfl
  | some type =>
    obtain ⟨mark, tail, htext, hmark⟩ := marked?_eq_some hm
    cases ht with
    | nil =>
      -- the mark would be the character that ends the token, and no special one is a mark
      have hs : isSpecial mark = true := hr mark (by
        rw [List.nil_append] at htext
        rw [htext]
        rfl)
      rw [literalType?_special hs] at hmark
      cases hmark
    | escaped c _ =>
      injection htext with hc _
      subst hc
      cases hmark
    | plain _ _ ht =>
      injection htext with _ htext
      cases ht with
      | nil =>
        -- the mark is the whole token, and a bracket follows it
        have htext : rest = '(' :: tail := htext
        rw [htext] at hb
        exact absurd rfl hb
      | escaped c _ => cases htext
      | plain _ hs _ =>
        injection htext with hc _
        subst hc
        cases hs

theorem readLiteral_sound_marked {text : List Char} {r : Reading Json}
    (hm : (marked? text).isSome = true) (h : readLiteral text = .ok r) :
    ∃ t rest, text = t ++ rest ∧ t.length = r.length ∧ Marked t r.value := by
  obtain ⟨type, hm⟩ := Option.isSome_iff_exists.mp hm
  unfold readLiteral at h
  rw [hm] at h
  obtain ⟨mark, tail, rfl, hmark⟩ := marked?_eq_some hm
  obtain ⟨m, hr, rfl⟩ := map_eq_ok_iff.mp h
  obtain ⟨t, rest, body, htail, hlen, ht, hv⟩ := readMarked_sound hr
  have htail : tail = t ++ ')' :: rest := htail
  subst htail
  refine ⟨mark :: '(' :: (t ++ [')']), rest, by simp, ?_, .mk hmark ht hv⟩
  simp only [List.length_cons, List.length_append, List.length_nil, Reading.behind]
  omega

theorem readLiteral_sound {text : List Char} {r : Reading Json} (h : readLiteral text = .ok r) :
    ∃ t rest, text = t ++ rest ∧ t.length = r.length ∧ Literal t r.value
      ∧ (t = [] → Follows isSpecial rest) := by
  cases hm : marked? text with
  | some type =>
    obtain ⟨t, rest, htext, hlen, ht⟩ :=
      readLiteral_sound_marked (Option.isSome_iff_exists.mpr ⟨type, hm⟩) h
    refine ⟨t, rest, htext, hlen, .marked ht, ?_⟩
    rintro rfl
    cases ht
  | none =>
    unfold readLiteral at h
    rw [hm] at h
    obtain ⟨m, hr, rfl⟩ := map_eq_ok_iff.mp h
    obtain ⟨t, rest, rfl, hlen, ht, hrest⟩ := readToken_sound hr
    exact ⟨t, rest, rfl, hlen, .token ht, fun _ => hrest⟩

theorem readLiteral_marked {t : List Char} {v : Json} (h : Marked t v) (rest : List Char) :
    readLiteral (t ++ rest) = .ok ⟨v, t.length⟩ := by
  obtain ⟨hmark, ht, hv⟩ := h
  rename_i mark type t body
  have hm : marked? (mark :: '(' :: (t ++ [')']) ++ rest) = some type := hmark
  have hdrop : (mark :: '(' :: (t ++ [')']) ++ rest).drop 2 = t ++ ')' :: rest := by simp
  unfold readLiteral
  rw [hm]
  simp only [hdrop, readMarked_complete ht hv rest, Except.map, Reading.behind, List.length_cons,
    List.length_append, List.length_nil]
  congr 2
  omega

theorem readLiteral_complete {t : List Char} {v : Json} (h : Literal t v) {rest : List Char}
    (hr : Follows endsLiteral rest) : readLiteral (t ++ rest) = .ok ⟨v, t.length⟩ := by
  have hs : Follows isSpecial rest := hr.mono isSpecial_of_endsLiteral
  cases h with
  | marked h => exact readLiteral_marked h rest
  | token ht =>
    unfold readLiteral
    rw [marked?_token ht hs (hr.head?_ne rfl)]
    simp only [readToken_complete (by decide) ht hs, Except.map]

/-! ## §4. Keys and bounds. -/

theorem atSpecial_of_follows {rest : List Char} (h : Follows isSpecial rest) :
    atSpecial rest = true := by
  cases rest with
  | nil => rfl
  | cons c rest => exact follows_cons.mp h

theorem Present.atSpecial {t : List Char} (h : Present t) (rest : List Char) :
    atSpecial (t ++ rest) = false := by
  obtain ⟨c, tail, rfl, hc⟩ := h
  exact hc

/-- What a literal is read from is there, unless a special character stands in its place. -/
theorem readLiteral_present {text : List Char} {r : Reading Json} (hs : atSpecial text = false)
    (h : readLiteral text = .ok r) :
    ∃ t rest, text = t ++ rest ∧ t.length = r.length ∧ Literal t r.value ∧ Present t := by
  obtain ⟨t, rest, rfl, hlen, ht, hnil⟩ := readLiteral_sound h
  refine ⟨t, rest, rfl, hlen, ht, ?_⟩
  cases t with
  | nil =>
    rw [List.nil_append, atSpecial_of_follows (hnil rfl)] at hs
    cases hs
  | cons c t => exact ⟨c, t, rfl, hs⟩

theorem readKey_sound {text : List Char} {r : Reading Key} (h : readKey text = .ok r) :
    ∃ t rest, text = t ++ rest ∧ t.length = r.length ∧ Step ('.' :: t) (.select r.value) := by
  unfold readKey at h
  simp only [throw_eq_error, pure_eq_ok, error_bind] at h
  split at h
  · cases h
  rename_i hs
  obtain ⟨literal, hl, h⟩ := bind_eq_ok_iff.mp h
  obtain ⟨t, rest, rfl, hlen, ht, hp⟩ := readLiteral_present (by simpa using hs) hl
  split at h
  · rename_i key hkey
    injection h with h
    subst h
    exact ⟨t, rest, rfl, hlen, .key hp ht hkey⟩
  · cases h

theorem readKey_complete {t : List Char} {v : Json} {key : Key} (hp : Present t)
    (ht : Literal t v) (hkey : key? v = some key) {rest : List Char}
    (hr : Follows endsLiteral rest) : readKey (t ++ rest) = .ok ⟨key, t.length⟩ := by
  unfold readKey
  simp only [throw_eq_error, pure_eq_ok, error_bind]
  rw [hp.atSpecial, readLiteral_complete ht hr]
  simp only [Bool.false_eq_true, if_false, ok_bind, hkey]

theorem readBound_sound {text : List Char} {r : Reading (Option Int64)}
    (h : readBound text = .ok r) :
    ∃ t rest, text = t ++ rest ∧ t.length = r.length ∧ Bound t r.value
      ∧ (∀ n, r.value = some n → Present t ∧ Literal t (.int n)) := by
  unfold readBound at h
  simp only [throw_eq_error, pure_eq_ok] at h
  split at h
  · injection h with h
    subst h
    exact ⟨[], text, rfl, rfl, .absent, by simp⟩
  rename_i hs
  obtain ⟨literal, hl, h⟩ := bind_eq_ok_iff.mp h
  obtain ⟨t, rest, rfl, hlen, ht, hp⟩ := readLiteral_present (by simpa using hs) hl
  split at h
  · rename_i n hn
    injection h with h
    subst h
    rw [hn] at ht
    refine ⟨t, rest, rfl, hlen, .present hp ht, ?_⟩
    -- a bound that is there is the literal just read
    intro m hm
    injection hm with hm
    subst hm
    exact ⟨hp, ht⟩
  · cases h

theorem readBound_complete {t : List Char} {a : Option Int64} (h : Bound t a) {rest : List Char}
    (hr : Follows endsLiteral rest) : readBound (t ++ rest) = .ok ⟨a, t.length⟩ := by
  unfold readBound
  simp only [throw_eq_error, pure_eq_ok]
  cases h with
  | absent =>
    have hs : atSpecial rest = true := atSpecial_of_follows (hr.mono isSpecial_of_endsLiteral)
    rw [List.nil_append, if_pos hs]
    rfl
  | present hp ht =>
    rw [hp.atSpecial, readLiteral_complete ht hr]
    rfl

/-! ## §5. Steps. -/

theorem require_eq_ok_iff {c : Char} {patterns : List String} {text : List Char} :
    require c patterns text = .ok () ↔ ∃ rest, text = c :: rest := by
  cases text with
  | nil => simp [require]
  | cons d rest =>
    unfold require
    split <;> simp_all

theorem require_cons (c : Char) (patterns : List String) (rest : List Char) :
    require c patterns (c :: rest) = .ok () :=
  require_eq_ok_iff.mpr ⟨rest, rfl⟩

/-- A star is no integer. -/
theorem coerce_star (n : Int64) : coerce ['*'] ≠ .int n := by
  have h : readInt64 ['*'] = none := by decide
  unfold coerce
  rw [h]
  split
  · rename_i hn
    cases hn
  · split <;> simp

/-- A bound does not read as the subscript of everything. -/
theorem star_not_prefix {t : List Char} {n : Int64} (h : Literal t (.int n)) (hp : Present t)
    (rest : List Char) : ['*', ']'].isPrefixOf (t ++ rest) = false := by
  obtain ⟨c, t, rfl, hc⟩ := hp
  -- the value is made a variable, for the cases of the literal
  generalize hv : Json.int n = v at h
  cases h with
  | marked h =>
    cases h with
    | mk hmark => simp [List.isPrefixOf]
  | token ht =>
    cases ht with
    | escaped d _ => simp [List.isPrefixOf]
    | plain _ _ ht =>
      cases ht with
      | nil =>
        -- the lone star is a token too, but one that reads as a string
        have hne : c ≠ '*' := by
          rintro rfl
          exact coerce_star n hv.symm
        simp [List.isPrefixOf, Ne.symm hne]
      | escaped d _ => simp [List.isPrefixOf]
      | @plain d _ _ _ hd _ =>
        have hne : d ≠ ']' := by
          rintro rfl
          cases hd
        simp [List.isPrefixOf, Ne.symm hne]

theorem readSubscript_sound {text : List Char} {r : Reading Command}
    (h : readSubscript text = .ok r) :
    ∃ t rest, text = t ++ rest ∧ t.length = r.length ∧ Step ('.' :: '[' :: t) r.value := by
  unfold readSubscript at h
  simp only [throw_eq_error, pure_eq_ok, error_bind] at h
  split at h
  · cases h
  split at h
  · rename_i hstar
    injection h with h
    subst h
    obtain ⟨rest, rfl⟩ := List.isPrefixOf_iff_prefix.mp hstar
    exact ⟨['*', ']'], rest, rfl, rfl, .all⟩
  obtain ⟨start, hstart, h⟩ := bind_eq_ok_iff.mp h
  obtain ⟨t, rest, rfl, hlen, ht, hint⟩ := readBound_sound hstart
  rw [← hlen, List.drop_left] at h
  split at h
  · -- a range, whose second bound begins behind the colon
    rename_i hcolon
    obtain ⟨stop, hstop, h⟩ := bind_eq_ok_iff.mp h
    obtain ⟨⟨⟩, hclose, h⟩ := bind_eq_ok_iff.mp h
    injection h with h
    subst h
    obtain ⟨tail, rfl⟩ := List.head?_eq_some_iff.mp hcolon
    obtain ⟨u, tail', htail, hlen', hu, -⟩ := readBound_sound hstop
    have htail : tail = u ++ tail' := htail
    subst htail
    obtain ⟨rest, hrest⟩ := require_eq_ok_iff.mp hclose
    have hrest : tail' = ']' :: rest := by
      rw [← hlen'] at hrest
      simpa using hrest
    subst hrest
    refine ⟨t ++ ':' :: (u ++ [']']), rest, by simp, ?_, .range ht hu⟩
    simp only [List.length_append, List.length_cons, List.length_nil]
    omega
  · obtain ⟨⟨⟩, hclose, h⟩ := bind_eq_ok_iff.mp h
    obtain ⟨rest', rfl⟩ := require_eq_ok_iff.mp hclose
    -- an index is a bound that is there
    split at h
    · rename_i n hn
      injection h with h
      subst h
      obtain ⟨hp, hl⟩ := hint n hn
      refine ⟨t ++ [']'], rest', by simp, ?_, .index hp hl⟩
      simp [hlen]
    · cases h

theorem readSubscript_index {t : List Char} {n : Int64} (hp : Present t) (ht : Literal t (.int n))
    (rest : List Char) :
    readSubscript (t ++ ']' :: rest) = .ok ⟨.select (.index n), t.length + 1⟩ := by
  have hb := readBound_complete (.present hp ht) (follows_cons.mpr (by decide) :
    Follows endsLiteral (']' :: rest))
  unfold readSubscript
  simp only [throw_eq_error, pure_eq_ok, error_bind]
  rw [if_neg (by simp), star_not_prefix ht hp, hb]
  simp only [ok_bind, List.drop_left, List.head?_cons, Option.some.injEq, Char.reduceEq,
    Bool.false_eq_true, if_false, require_cons]

theorem readSubscript_range {t u : List Char} {a b : Option Int64} (ht : Bound t a)
    (hu : Bound u b) (rest : List Char) :
    readSubscript (t ++ ':' :: (u ++ ']' :: rest))
      = .ok ⟨.iterate (.range a b), t.length + u.length + 2⟩ := by
  have hstart := readBound_complete ht (follows_cons.mpr (by decide) :
    Follows endsLiteral (':' :: (u ++ ']' :: rest)))
  have hstop := readBound_complete hu (follows_cons.mpr (by decide) :
    Follows endsLiteral (']' :: rest))
  -- a bound cannot be read as the star
  have hstar : ['*', ']'].isPrefixOf (t ++ ':' :: (u ++ ']' :: rest)) = false := by
    cases ht with
    | absent => rfl
    | present hp ht => exact star_not_prefix ht hp _
  have hdrop : (':' :: (u ++ ']' :: rest)).drop (u.length + 1) = ']' :: rest := by simp
  unfold readSubscript
  simp only [throw_eq_error, pure_eq_ok, error_bind]
  rw [if_neg (by simp), hstar, hstart]
  simp only [ok_bind, List.drop_left, List.head?_cons, if_true, List.drop_one, List.tail_cons,
    hstop, hdrop, require_cons, Bool.false_eq_true, if_false]

theorem readStep_sound {text : List Char} {r : Reading Command} (h : readStep text = .ok r) :
    ∃ t rest, text = t ++ rest ∧ t.length = r.length ∧ Step ('.' :: t) r.value := by
  unfold readStep at h
  split at h
  · rename_i hhead
    obtain ⟨tail, rfl⟩ := List.head?_eq_some_iff.mp hhead
    obtain ⟨m, hm, rfl⟩ := map_eq_ok_iff.mp h
    obtain ⟨t, rest, htail, hlen, ht⟩ := readSubscript_sound hm
    have htail : tail = t ++ rest := htail
    subst htail
    refine ⟨'[' :: t, rest, rfl, ?_, ht⟩
    simp only [List.length_cons, Reading.behind]
    omega
  · obtain ⟨m, hm, rfl⟩ := map_eq_ok_iff.mp h
    exact readKey_sound hm

/-- A step is read to its end, from behind its point. -/
theorem readStep_complete {u : List Char} {c : Command} (h : Step u c) :
    ∃ t, u = '.' :: t ∧ ∀ rest, Follows endsLiteral rest →
      readStep (t ++ rest) = .ok ⟨c, t.length⟩ := by
  cases h with
  | key hp ht hkey =>
    refine ⟨_, rfl, fun rest hr => ?_⟩
    have hread := readKey_complete hp ht hkey hr
    obtain ⟨d, tail, rfl, hd⟩ := hp
    -- a key that is there begins with no special character, so it is no subscript
    have hne : d ≠ '[' := by
      rintro rfl
      cases hd
    unfold readStep
    rw [if_neg (by simpa using hne), hread]
    rfl
  | all => exact ⟨_, rfl, fun rest _ => rfl⟩
  | index hp ht =>
    refine ⟨_, rfl, fun rest _ => ?_⟩
    have hread := readSubscript_index hp ht rest
    unfold readStep
    simp [hread, Except.map, Reading.behind, Nat.add_comm]
  | range ht hu =>
    refine ⟨_, rfl, fun rest _ => ?_⟩
    have hread := readSubscript_range ht hu rest
    unfold readStep
    simp [hread, Except.map, Reading.behind]
    omega

end JsonQuery.Grammar
