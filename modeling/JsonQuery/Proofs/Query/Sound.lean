/-
  JsonQuery.Proofs.Query.Sound
  ────────────────────────────
  What the reader of queries reads is a phrase of the grammar.

  Each law says of one reader that the text begins with a phrase for the value read, that
  the phrase is as long as the reader says, and which characters may follow it.  The
  readers call one another, and so do the laws: they are one induction on the text.
-/
import JsonQuery.Proofs.Query.Phrase

namespace JsonQuery.Grammar

open Query Text

/-! ## §1. Where phrases end. -/

/-- Whether the statements of a query end before the character. -/
def endsStatements (inside : Bool) (c : Char) : Bool := inside && c == ')'

/-- Whether a single statement ends before the character. -/
def endsStatement (inside : Bool) (c : Char) : Bool := c == '|' || endsStatements inside c

theorem endsStatement_of_endsStatements {inside : Bool} (c : Char)
    (h : endsStatements inside c = true) : endsStatement inside c = true := by
  unfold endsStatement
  rw [h, Bool.or_true]

theorem Follows.of_ne_pipe {inside : Bool} {rest : List Char}
    (h : Follows (endsStatement inside) rest) (hne : rest.head? ≠ some '|') :
    Follows (endsStatements inside) rest := by
  intro c hc
  rcases Bool.or_eq_true_iff.mp (h c hc) with hpipe | hclose
  · rw [beq_iff_eq.mp hpipe] at hc
    exact absurd hc hne
  · exact hclose

/-! ## §2. The statement that is under way. -/

theorem Steps.of_nil {t : List Char} (h : Steps t []) : t = [] := by
  -- the commands are made a variable, for the cases of the steps
  generalize hst : ([] : List Command) = st at h
  cases h with
  | nil => rfl
  | snoc _ _ => simp at hst

theorem Steps.of_snoc {t : List Char} {st : List Command} {c : Command}
    (h : Steps t (st ++ [c])) : ∃ t' u, t = t' ++ u ∧ Steps t' st ∧ Step u c := by
  generalize hst : st ++ [c] = st' at h
  cases h with
  | nil => simp at hst
  | snoc ht hu =>
    obtain ⟨rfl, hc⟩ := List.append_inj' hst rfl
    injection hc with hc
    subst hc
    exact ⟨_, _, rfl, ht, hu⟩

/-- The target of an assignment is the last of the steps before it. -/
theorem assignTarget_eq_ok {done before : Statement} {target : Key}
    (h : assignTarget done = .ok (before, target)) : done = before ++ [.select target] := by
  unfold assignTarget at h
  split at h
  · cases h
  · rename_i key hlast
    injection h with h
    injection h with hbefore hkey
    subst hbefore hkey
    obtain ⟨before, rfl⟩ := List.getLast?_eq_some_iff.mp hlast
    rw [List.dropLast_concat]
  · cases h

theorem terminalForm?_snoc (done : Statement) (c : Command) :
    terminalForm? (done ++ [c]) = if c.isTerminal then some c.name else none := by
  unfold terminalForm?
  rw [List.getLast?_concat, Option.filter_some]
  split <;> simp_all

/-- Behind a command that has to be the last one, nothing is read. -/
theorem readStatement_terminal {inside : Bool} {done : Statement} {form : String}
    (hform : terminalForm? done = some form) {text : List Char} {r : Reading Statement}
    (h : readStatement inside done text = .ok r) :
    r = ⟨done, 0⟩ ∧ Follows (endsStatement inside) text := by
  cases text with
  | nil =>
    rw [readStatement_nil] at h
    injection h with h
    exact ⟨h.symm, follows_nil _⟩
  | cons c rest =>
    rw [readStatement_cons, hform] at h
    split at h
    · rename_i hc
      injection h with h
      exact ⟨h.symm, follows_cons.mpr (by simpa [endsStatement, endsStatements] using hc)⟩
    · cases h

/-- The text behind a phrase and the character that closes it. -/
theorem drop_behind (t : List Char) (c : Char) (rest : List Char) :
    (t ++ c :: rest).drop (t.length + 1) = rest := by
  simp

theorem length_behind_lt (t : List Char) (c : Char) (rest : List Char) :
    rest.length < (t ++ c :: rest).length := by
  simp only [List.length_append, List.length_cons]
  omega

theorem length_behind_cons_lt (c : Char) (t rest : List Char) :
    rest.length < (c :: (t ++ rest)).length := by
  simp only [List.length_append, List.length_cons]
  omega

/-! ## §3. Segments and blanks. -/

/-- What stands between two pipes, from its start or behind a group of it. -/
inductive Behind : Bool → List Char → List Statement → Prop
  | commands {afterGroup : Bool} {t : List Char} {st : Statement} : Commands t st →
      Behind afterGroup t (if afterGroup && st.isEmpty then [] else [st])
  | groups {afterGroup : Bool} {t u : List Char} {ss : List Statement} {st : Statement} :
      Groups t ss → Commands u st →
      Behind afterGroup (t ++ u) (ss ++ if st.isEmpty then [] else [st])

theorem Behind.segment {t : List Char} {ss : List Statement} (h : Behind false t ss) :
    Segment t ss := by
  cases h with
  | commands ht => exact .commands ht
  | groups ht hu => exact .groups ht hu

theorem Behind.group {afterGroup : Bool} {t u : List Char} {ss ts : List Statement}
    (ht : Group t ss) (h : Behind true u ts) : Behind afterGroup (t ++ u) (ss ++ ts) := by
  cases h with
  | commands hu => exact .groups (.one ht) hu
  | groups hv hu =>
    rw [← List.append_assoc, ← List.append_assoc]
    exact .groups (.more ht hv) hu

theorem Items.blank {c : Char} (hc : isBlank c = true) {t : List Char} {os : List Operand}
    (h : Items t os) : Items (c :: t) os := by
  have hcons : ∀ b, Blanks b → Blanks (c :: b) := by
    intro b hb d hd
    rcases List.mem_cons.mp hd with rfl | hd
    · exact hc
    · exact hb d hd
  cases h with
  | none hb => exact .none (hcons _ hb)
  | last hb ht hne hb' => exact .last (hcons _ hb) ht hne hb'
  | more hb ht hb' hu => exact .more (hcons _ hb) ht hb' hu

/-- The blanks that a text begins with, and the rest. -/
theorem blankCount_split (text : List Char) :
    ∃ b rest, text = b ++ rest ∧ Blanks b ∧ b.length = blankCount text :=
  ⟨text.takeWhile isBlank, text.dropWhile isBlank, List.takeWhile_append_dropWhile.symm,
    List.all_eq_true.mp List.all_takeWhile, rfl⟩

/-! ## §4. The law of each reader. -/

def SoundStatements (text : List Char) : Prop :=
  ∀ inside r, readStatements inside text = .ok r →
    ∃ t rest, text = t ++ rest ∧ t.length = r.length ∧ Statements t r.value
      ∧ Follows (endsStatements inside) rest

def SoundSegment (text : List Char) : Prop :=
  ∀ inside afterGroup r, readSegment inside afterGroup text = .ok r →
    ∃ t rest, text = t ++ rest ∧ t.length = r.length ∧ Behind afterGroup t r.value
      ∧ Follows (endsStatement inside) rest

def SoundGroup (text : List Char) : Prop :=
  ∀ r, readGroup text = .ok r →
    ∃ t rest, text = t ++ rest ∧ t.length = r.length ∧ Group ('(' :: t) r.value

/-- The reader is started behind the steps that are done. -/
def SoundStatement (text : List Char) : Prop :=
  ∀ inside before done r, Steps before done → readStatement inside done text = .ok r →
    ∃ t rest, text = t ++ rest ∧ t.length = r.length ∧ Commands (before ++ t) r.value
      ∧ Follows (endsStatement inside) rest

def SoundCalls (text : List Char) : Prop :=
  ∀ r, readCalls text = .ok r →
    ∃ t rest, text = t ++ rest ∧ t.length = r.length ∧ Calls ('#' :: t) r.value

def SoundItems (text : List Char) : Prop :=
  ∀ close r, readItems close text = .ok r →
    ∃ t rest, text = t ++ close :: rest ∧ t.length + 1 = r.length ∧ Items t r.value

def SoundItem (text : List Char) : Prop :=
  ∀ r, text.head?.all (fun c => !isBlank c) = true → readItem text = .ok r →
    ∃ t rest, text = t ++ rest ∧ t.length = r.length ∧ Item t r.value

def SoundAssigned (text : List Char) : Prop :=
  ∀ r, readAssigned text = .ok r →
    ∃ t rest, text = t ++ rest ∧ t.length = r.length ∧ Assigned t r.value

/-- The laws at one text. -/
structure Sound (text : List Char) : Prop where
  statements : SoundStatements text
  segment : SoundSegment text
  group : SoundGroup text
  statement : SoundStatement text
  calls : SoundCalls text
  items : SoundItems text
  item : SoundItem text
  assigned : SoundAssigned text

/-- An item that was read, and the blanks behind it: the reader goes on at what follows both. -/
theorem SoundItem.with_blanks {text : List Char} {item : Reading Operand} (hitem : SoundItem text)
    (hhead : text.head?.all (fun c => !isBlank c) = true) (hread : readItem text = .ok item) :
    ∃ t b rest, text = (t ++ b) ++ rest
      ∧ item.length + blankCount (text.drop item.length) = (t ++ b).length
      ∧ Item t item.value ∧ Blanks b := by
  obtain ⟨t, rest, rfl, hlen, ht⟩ := hitem item hhead hread
  obtain ⟨b, rest, rfl, hb, hblen⟩ := blankCount_split rest
  refine ⟨t, b, rest, (List.append_assoc t b rest).symm, ?_, ht, hb⟩
  rw [← hlen, List.drop_left, ← hblen, List.length_append]

/-- The name of a function that was read, up to the bracket that opens its arguments. -/
theorem readToken_open {text : List Char} {name : Reading (List Char)}
    (hname : readToken endsName text = .ok name)
    (hopen : require '(' ["("] (text.drop name.length) = .ok ()) :
    ∃ t rest, text = t ++ '(' :: rest ∧ t.length = name.length ∧ Token endsName t name.value := by
  obtain ⟨t, rest, rfl, hlen, ht, -⟩ := readToken_sound hname
  rw [← hlen, List.drop_left] at hopen
  obtain ⟨rest, rfl⟩ := require_eq_ok_iff.mp hopen
  exact ⟨t, rest, rfl, hlen, ht⟩

/-- What a phrase makes of the steps before it: further steps, or a statement that ends with it. -/
inductive Extended (t : List Char) (st : Statement) : Prop
  | steps : Steps t st → Extended t st
  | complete {form : String} : Commands t st → terminalForm? st = some form → Extended t st

/-- A phrase reaches up to what its own reader leaves of the text behind its first character. -/
theorem Sound.phrase {before rest : List Char} {done : Statement} {c : Char}
    {r : Reading Statement} (h : Sound rest) (hdone : Steps before done)
    (hread : readPhrase done c rest = .ok r) :
    ∃ t tail, rest = t ++ tail ∧ t.length = r.length ∧ Extended (before ++ c :: t) r.value := by
  unfold readPhrase at hread
  split at hread
  · -- a step
    obtain ⟨step, hstep, rfl⟩ := map_eq_ok_iff.mp hread
    obtain ⟨t, tail, rfl, hlen, ht⟩ := readStep_sound hstep
    exact ⟨t, tail, rfl, hlen, .steps (hdone.snoc ht)⟩
  · -- a list, which stands alone
    split at hread
    · rename_i hempty
      obtain rfl : done = [] := List.isEmpty_iff.mp hempty
      obtain ⟨items, hitems, rfl⟩ := map_eq_ok_iff.mp hread
      obtain ⟨t, tail, rfl, hlen, ht⟩ := h.items ']' items hitems
      rw [hdone.of_nil]
      exact ⟨t ++ [']'], tail, by simp, by simpa using hlen, .complete (.list ht) rfl⟩
    · cases hread
  · cases hread
  · -- an assignment to the last step
    split at hread
    · cases hread
    · rename_i st key htarget
      obtain ⟨value, hvalue, rfl⟩ := map_eq_ok_iff.mp hread
      obtain ⟨w, tail, rfl, hlen, hw⟩ := h.assigned value hvalue
      rw [assignTarget_eq_ok htarget] at hdone
      obtain ⟨t, u, rfl, ht, hu⟩ := hdone.of_snoc
      exact ⟨w, tail, rfl, hlen, .complete (.assign ht hu hw) (by rw [terminalForm?_snoc]; rfl)⟩
  · -- a chain of calls
    obtain ⟨calls, hcalls, rfl⟩ := map_eq_ok_iff.mp hread
    obtain ⟨t, tail, rfl, hlen, ht⟩ := h.calls calls hcalls
    exact ⟨t, tail, rfl, hlen, .complete (.calls hdone ht) (by rw [terminalForm?_snoc]; rfl)⟩
  · cases hread

/-! ## §5. Each law from those at shorter texts. -/

section Induction

variable {text : List Char} (ih : ∀ u : List Char, u.length < text.length → Sound u)

include ih

theorem soundStatements_of (hsegment : SoundSegment text) : SoundStatements text := by
  intro inside r h
  rw [readStatements] at h
  -- the first segment is read from the same text, what follows the pipe from a shorter one
  obtain ⟨segment, hread, hr⟩ := bind_eq_ok_iff.mp h
  obtain ⟨t, rest, rfl, hlen, ht, hrest⟩ := hsegment inside false segment hread
  rw [← hlen, List.drop_left] at hr
  split at hr
  · rename_i hpipe
    obtain ⟨tail, rfl⟩ := List.head?_eq_some_iff.mp hpipe
    obtain ⟨more, hmore, hr⟩ := bind_eq_ok_iff.mp hr
    injection hr with hr
    subst hr
    rw [drop_behind] at hmore
    obtain ⟨u, rest, rfl, hlen', hu, hrest'⟩ :=
      (ih tail (length_behind_lt _ _ _)).statements inside more hmore
    refine ⟨t ++ '|' :: u, rest, by simp, ?_, .pipe ht.segment hu, hrest'⟩
    simp only [List.length_append, List.length_cons]
    omega
  · rename_i hpipe
    injection hr with hr
    subst hr
    exact ⟨t, rest, rfl, hlen, .segment ht.segment, hrest.of_ne_pipe hpipe⟩

theorem soundSegment_of (hstatement : SoundStatement text) : SoundSegment text := by
  intro inside afterGroup r h
  rw [readSegment.eq_def] at h
  simp only [pure_eq_ok] at h
  split at h
  · -- a group, and the rest of the segment behind it
    rename_i tail
    obtain ⟨group, hgroup, hr⟩ := bind_eq_ok_iff.mp h
    obtain ⟨more, hmore, hr⟩ := bind_eq_ok_iff.mp hr
    injection hr with hr
    subst hr
    obtain ⟨t, rest, rfl, hlen, ht⟩ := (ih tail (by simp)).group group hgroup
    rw [← hlen, List.drop_left] at hmore
    obtain ⟨u, rest, rfl, hlen', hu, hrest⟩ :=
      (ih rest (length_behind_cons_lt _ _ _)).segment inside true more hmore
    refine ⟨'(' :: t ++ u, rest, by simp, ?_, .group ht hu, hrest⟩
    simp only [List.length_append, List.length_cons]
    omega
  · -- a statement, which ends the segment
    obtain ⟨statement, hread, hr⟩ := bind_eq_ok_iff.mp h
    have hr : r = ⟨if afterGroup && statement.value.isEmpty then [] else [statement.value],
        statement.length⟩ := by
      split at hr <;> injection hr with hr <;> simp [*]
    subst hr
    obtain ⟨t, rest, rfl, hlen, ht, hrest⟩ := hstatement inside [] [] statement .nil hread
    exact ⟨t, rest, rfl, hlen, .commands ht, hrest⟩

omit ih in
theorem soundGroup_of (hstatements : SoundStatements text) : SoundGroup text := by
  intro r h
  rw [readGroup] at h
  obtain ⟨statements, hread, hr⟩ := bind_eq_ok_iff.mp h
  obtain ⟨⟨⟩, hclose, hr⟩ := bind_eq_ok_iff.mp hr
  injection hr with hr
  subst hr
  obtain ⟨t, rest, rfl, hlen, ht, -⟩ := hstatements true statements hread
  rw [← hlen, List.drop_left] at hclose
  obtain ⟨rest, rfl⟩ := require_eq_ok_iff.mp hclose
  exact ⟨t ++ [')'], rest, by simp, by simp [hlen], .mk ht⟩

theorem soundAssigned_of : SoundAssigned text := by
  intro r h
  rw [readAssigned.eq_def] at h
  split at h
  · rename_i tail
    obtain ⟨group, hgroup, hr⟩ := bind_eq_ok_iff.mp h
    injection hr with hr
    subst hr
    obtain ⟨t, rest, rfl, hlen, ht⟩ := (ih tail (by simp)).group group hgroup
    exact ⟨'(' :: t, rest, rfl, by simp [hlen], .group ht⟩
  · obtain ⟨literal, hl, rfl⟩ := map_eq_ok_iff.mp h
    obtain ⟨t, rest, rfl, hlen, ht, -⟩ := readLiteral_sound hl
    exact ⟨t, rest, rfl, hlen, .literal ht⟩

theorem soundItem_of : SoundItem text := by
  intro r hhead h
  rw [readItem.eq_def] at h
  split at h
  · rename_i tail
    obtain ⟨group, hgroup, hr⟩ := bind_eq_ok_iff.mp h
    injection hr with hr
    subst hr
    obtain ⟨t, rest, rfl, hlen, ht⟩ := (ih tail (by simp)).group group hgroup
    exact ⟨'(' :: t, rest, rfl, by simp [hlen], .group ht⟩
  split at h
  · -- marked with a type, so that its blanks are its own
    rename_i hm
    obtain ⟨literal, hl, rfl⟩ := map_eq_ok_iff.mp h
    obtain ⟨t, rest, rfl, hlen, ht⟩ := readLiteral_sound_marked hm hl
    exact ⟨t, rest, rfl, hlen, .marked ht⟩
  · obtain ⟨token, hread, rfl⟩ := map_eq_ok_iff.mp h
    obtain ⟨t, rest, rfl, hlen, ht, -⟩ := readToken_sound hread
    refine ⟨t, rest, rfl, hlen, .token ht ?_⟩
    -- a token that is there begins where the text does, so not with a blank
    cases t with
    | nil => rfl
    | cons c t => exact hhead

/-- What follows an item goes on up to the bracket. Only before a comma may the item be missing. -/
theorem soundBehindItem_of {t b rest : List Char} {item : Reading Operand} {close : Char}
    {r : Reading (List Operand)} (hsplit : text = (t ++ b) ++ rest) (ht : Item t item.value)
    (hb : Blanks b) (hne : ∀ tail, rest = close :: tail → t ≠ [])
    (h : readBehindItem close item (t ++ b).length text = .ok r) :
    ∃ u tail, text = u ++ close :: tail ∧ u.length + 1 = r.length ∧ Items u r.value := by
  subst hsplit
  unfold readBehindItem at h
  rw [List.drop_left] at h
  split at h
  · -- the items behind a comma
    rename_i hcomma
    obtain ⟨tail, rfl⟩ := List.head?_eq_some_iff.mp hcomma
    rw [drop_behind] at h
    obtain ⟨more, hmore, h⟩ := bind_eq_ok_iff.mp h
    injection h with h
    subst h
    obtain ⟨u, tail, rfl, hlen, hu⟩ := (ih tail (length_behind_lt _ _ _)).items close more hmore
    refine ⟨t ++ b ++ ',' :: u, tail, by simp, ?_, .more (b := []) (by simp [Blanks]) ht hb hu⟩
    simp only [List.length_append, List.length_cons]
    omega
  · obtain ⟨⟨⟩, hrequire, h⟩ := bind_eq_ok_iff.mp h
    injection h with h
    subst h
    obtain ⟨tail, rfl⟩ := require_eq_ok_iff.mp hrequire
    exact ⟨t ++ b, tail, rfl, rfl, .last (b := []) (by simp [Blanks]) ht (hne tail rfl) hb⟩

theorem soundItems_of (hitem : SoundItem text) : SoundItems text := by
  intro close r h
  cases text with
  | nil =>
    rw [readItems_nil] at h
    cases h
  | cons c tail =>
    rw [readItems_cons] at h
    split at h
    · -- a blank before the items
      rename_i hc
      obtain ⟨more, hmore, rfl⟩ := map_eq_ok_iff.mp h
      obtain ⟨t, rest, rfl, hlen, ht⟩ := (ih tail (by simp)).items close more hmore
      refine ⟨c :: t, rest, rfl, ?_, ht.blank hc⟩
      simp only [List.length_cons, Reading.behind]
      omega
    rename_i hblank
    split at h
    · rename_i hc
      injection h with h
      subst h hc
      exact ⟨[], tail, rfl, rfl, .none (by simp [Blanks])⟩
    rename_i hclose
    obtain ⟨item, hread, h⟩ := bind_eq_ok_iff.mp h
    obtain ⟨t, b, rest, hsplit, hlength, ht, hb⟩ := hitem.with_blanks (by simpa using hblank) hread
    rw [hlength] at h
    refine soundBehindItem_of ih hsplit ht hb ?_ h
    -- without an item, the text would begin with a blank or with the bracket
    rintro tail' rfl rfl
    cases b with
    | nil =>
      injection hsplit with hc _
      exact hclose hc
    | cons d b =>
      injection hsplit with hc _
      subst hc
      exact hblank (hb c (by simp))

/-- A call is read up to the bracket behind its arguments. -/
theorem soundCall_of {call : Reading Call} (h : readCall text = .ok call) :
    ∃ t rest, text = t ++ rest ∧ t.length = call.length ∧ Called ('#' :: t) call.value := by
  unfold readCall at h
  simp only [throw_eq_error, pure_eq_ok, error_bind] at h
  obtain ⟨name, hname, h⟩ := bind_eq_ok_iff.mp h
  split at h
  · cases h
  rename_i hempty
  obtain ⟨⟨⟩, hopen, h⟩ := bind_eq_ok_iff.mp h
  obtain ⟨args, hargs, h⟩ := bind_eq_ok_iff.mp h
  injection h with h
  subst h
  obtain ⟨t, rest, rfl, hlen, ht⟩ := readToken_open hname hopen
  rw [← hlen, drop_behind] at hargs
  obtain ⟨u, rest, rfl, hlen', hu⟩ := (ih rest (length_behind_lt _ _ _)).items ')' args hargs
  refine ⟨t ++ '(' :: (u ++ [')']), rest, by simp, ?_, .mk ht (by simpa using hempty) hu⟩
  simp only [List.length_append, List.length_cons, List.length_nil]
  omega

theorem soundCalls_of : SoundCalls text := by
  intro r h
  rw [readCalls_eq] at h
  obtain ⟨call, hcall, hr⟩ := bind_eq_ok_iff.mp h
  obtain ⟨t, rest, rfl, hlen, ht⟩ := soundCall_of ih hcall
  unfold readBehindCall at hr
  rw [← hlen, List.drop_left] at hr
  split at hr
  · -- a further call
    rename_i hmark
    obtain ⟨tail, rfl⟩ := List.head?_eq_some_iff.mp hmark
    rw [drop_behind] at hr
    obtain ⟨more, hmore, hr⟩ := bind_eq_ok_iff.mp hr
    injection hr with hr
    subst hr
    obtain ⟨u, rest, rfl, hlen', hu⟩ := (ih tail (length_behind_lt _ _ _)).calls more hmore
    refine ⟨t ++ '#' :: u, rest, by simp, ?_, .more ht hu⟩
    simp only [List.length_append, List.length_cons]
    omega
  · injection hr with hr
    subst hr
    exact ⟨t, rest, rfl, rfl, .one ht⟩

theorem soundStatement_of : SoundStatement text := by
  intro inside before done r hdone h
  cases text with
  | nil =>
    rw [readStatement_nil] at h
    injection h with h
    subst h
    exact ⟨[], [], rfl, rfl, by simpa using .steps hdone, follows_nil _⟩
  | cons c rest =>
    rw [readStatement_cons] at h
    split at h
    · -- the statement is the steps that are done
      rename_i hc
      injection h with h
      subst h
      refine ⟨[], c :: rest, rfl, rfl, by simpa using .steps hdone, follows_cons.mpr ?_⟩
      simpa [endsStatement, endsStatements] using hc
    split at h
    · cases h
    obtain ⟨phrase, hphrase, hr⟩ := bind_eq_ok_iff.mp h
    obtain ⟨more, hmore, rfl⟩ := map_eq_ok_iff.mp hr
    obtain ⟨t, tail, rfl, hlen, ht⟩ := (ih rest (Nat.lt_succ_self _)).phrase hdone hphrase
    rw [← hlen, List.drop_left] at hmore
    cases ht with
    | steps ht =>
      -- further commands may follow
      obtain ⟨u, tail, rfl, hlen', hu, htail⟩ :=
        (ih tail (length_behind_cons_lt _ _ _)).statement inside _ _ more ht hmore
      refine ⟨c :: (t ++ u), tail, by simp, ?_, by simpa [Reading.behind] using hu, htail⟩
      simp only [List.length_cons, List.length_append, Reading.behind]
      omega
    | complete ht hform =>
      obtain ⟨rfl, htail⟩ := readStatement_terminal hform hmore
      exact ⟨c :: t, tail, rfl, by simp [Reading.behind, hlen], ht, htail⟩

end Induction

/-- Every reader reads phrases of the grammar. -/
theorem sound (text : List Char) : Sound text := by
  induction hn : text.length using Nat.strongRecOn generalizing text with
  | _ n ih =>
    subst hn
    have ih : ∀ u : List Char, u.length < text.length → Sound u := fun u hu => ih _ hu u rfl
    -- on one and the same text the readers call each other in this order only
    have hstatement : SoundStatement text := soundStatement_of ih
    have hsegment : SoundSegment text := soundSegment_of ih hstatement
    have hstatements : SoundStatements text := soundStatements_of ih hsegment
    have hitem : SoundItem text := soundItem_of ih
    exact ⟨hstatements, hsegment, soundGroup_of hstatements, hstatement, soundCalls_of ih,
      soundItems_of ih hitem, hitem, soundAssigned_of ih⟩

/-- The reader of calls reads one of the grammar. -/
theorem readCall_sound {text : List Char} {call : Reading Call} (h : readCall text = .ok call) :
    ∃ t rest, text = t ++ rest ∧ t.length = call.length ∧ Called ('#' :: t) call.value :=
  soundCall_of (fun u _ => sound u) h

end JsonQuery.Grammar
