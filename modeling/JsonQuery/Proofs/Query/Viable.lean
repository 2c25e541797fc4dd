/-
  JsonQuery.Proofs.Query.Viable
  ─────────────────────────────
  What stands before a fault can be completed.

  A fault that shows at a character, rather than at the end of the text or in the body of a
  literal, is reported at the first character that no text could have gone on with.  Each
  law says of one reader that the text before such a fault of it begins a phrase.
-/
import JsonQuery.Proofs.Query.Lookahead
import JsonQuery.Proofs.Query.Sound

namespace JsonQuery.Grammar

open Query Text

variable {α β : Type}

/-! ## §1. Faults that show at a character. -/

/-- A fault for a character that cannot stand where it does. -/
def Shows (reason : Reason) : Prop :=
  reason.kind = .unexpectedCharacter ∨ reason.kind = .syntaxRule

theorem shows_not_type {reason : Reason} (h : Shows reason) : reason.kind ≠ .type := by
  rcases h with h | h <;> simp [h]

theorem error_hides {reason : Reason} {text : List Char} {f : Fault}
    (h : (Except.error ⟨reason, text⟩ : Except Fault α) = .error f) (hreason : ¬Shows reason) :
    ¬Shows f.reason := by
  injection h with h
  subst h
  exact hreason

/-- The text before a fault can be completed to a phrase that stands for something. -/
def Viable (P : List Char → α → Prop) (text : List Char) (f : Fault) : Prop :=
  ∃ t w, text = t ++ f.rest ∧ ∃ x, P (t ++ w) x

namespace Viable

variable {P : List Char → α → Prop} {P' : List Char → β → Prop} {text : List Char} {f : Fault}

theorem here {w : List Char} {x : α} {reason : Reason} (h : P w x) :
    Viable P text ⟨reason, text⟩ :=
  ⟨[], w, rfl, x, h⟩

/-- A phrase that is completed inside a longer one. -/
theorem inside {rest : List Char} (h : Viable P rest f) (a b : List Char)
    (htext : text = a ++ rest) (hP : ∀ t x, P t x → ∃ y, P' (a ++ (t ++ b)) y) :
    Viable P' text f := by
  obtain ⟨t, w, rfl, x, ht⟩ := h
  obtain ⟨y, hlong⟩ := hP _ x ht
  refine ⟨a ++ t, w ++ b, by rw [htext, List.append_assoc], y, ?_⟩
  simpa only [List.append_assoc] using hlong

theorem mono (h : Viable P text f) (hP : ∀ t x, P t x → ∃ y, P' t y) : Viable P' text f := by
  obtain ⟨t, w, htext, x, ht⟩ := h
  exact ⟨t, w, htext, hP _ x ht⟩

end Viable

/-! ## §2. Tokens, literals and steps. -/

theorem readToken_hides {stops : Char → Bool} {text : List Char} {f : Fault}
    (h : readToken stops text = .error f) : ¬Shows f.reason := by
  fun_induction readToken stops text with
  | case1 => cases h
  | case2 => exact error_hides h (by simp [Shows, Reason.kind])
  | case3 c rest ih =>
    rcases bind_eq_error_iff.mp h with h | ⟨more, -, h⟩
    · exact ih h
    · cases h
  | case4 => cases h
  | case5 c rest h1 h2 hstop ih =>
    rcases bind_eq_error_iff.mp h with h | ⟨more, -, h⟩
    · exact ih h
    · cases h

theorem literalValue_hides {type : LiteralType} {body : List Char} {reason : Reason}
    (h : literalValue type body = .error reason) : ¬Shows reason := by
  rw [Shows, kind_of_literalValue h]
  simp

theorem readMarked_hides {type : LiteralType} {text : List Char} {f : Fault}
    (h : readMarked type text = .error f) : ¬Shows f.reason := by
  unfold readMarked at h
  simp only [throw_eq_error, pure_eq_ok, error_bind] at h
  split at h
  · exact error_hides h (by simp [Shows, Reason.kind])
  rcases bind_eq_error_iff.mp h with h | ⟨body, -, h⟩
  · exact readToken_hides h
  split at h
  · exact error_hides h (by simp [Shows, Reason.kind])
  split at h
  · cases h
  · rename_i hv
    injection h with h
    subst h
    exact literalValue_hides hv

theorem readLiteral_hides {text : List Char} {f : Fault} (h : readLiteral text = .error f) :
    ¬Shows f.reason := by
  unfold readLiteral at h
  split at h
  · exact readMarked_hides (map_eq_error_iff.mp h)
  · exact readToken_hides (map_eq_error_iff.mp h)

theorem readBound_hides {text : List Char} {f : Fault} (h : readBound text = .error f) :
    ¬Shows f.reason := by
  unfold readBound at h
  simp only [throw_eq_error, pure_eq_ok] at h
  split at h
  · cases h
  rcases bind_eq_error_iff.mp h with h | ⟨literal, -, h⟩
  · exact readLiteral_hides h
  split at h
  · cases h
  · exact error_hides h (by simp [Shows, Reason.kind])

/-- A required character is missed where another one stands. -/
theorem require_shows {c : Char} {patterns : List String} {text : List Char} {f : Fault}
    (h : require c patterns text = .error f) (hf : Shows f.reason) :
    f.rest = text ∧ text.head? ≠ some c := by
  unfold require at h
  split at h
  · exact absurd hf (error_hides h (by simp [Shows, Reason.kind]))
  · split at h
    · cases h
    · rename_i hc
      injection h with h
      subst h
      exact ⟨rfl, by simpa using hc⟩

/-- An untyped token selects, whatever it is. -/
theorem key?_coerce (token : List Char) : ∃ k, key? (coerce token) = some k := by
  unfold coerce
  split
  · exact ⟨_, rfl⟩
  · split
    · exact ⟨_, rfl⟩
    · exact ⟨_, rfl⟩

theorem readKey_viable {text : List Char} {f : Fault} (h : readKey text = .error f)
    (hf : Shows f.reason) : Viable (fun t k => Step ('.' :: t) (.select k)) text f := by
  unfold readKey at h
  simp only [throw_eq_error, pure_eq_ok, error_bind] at h
  split at h
  · -- any key may stand behind the point
    injection h with h
    subst h
    have hp : Present ['k'] := ⟨'k', [], rfl, by decide⟩
    have ht : Token isSpecial ['k'] ['k'] := .plain (by decide) (by decide) .nil
    obtain ⟨k, hk⟩ := key?_coerce ['k']
    exact .here (.key hp (.token ht) hk)
  rcases bind_eq_error_iff.mp h with h | ⟨literal, -, h⟩
  · exact absurd hf (readLiteral_hides h)
  split at h
  · cases h
  · exact absurd hf (error_hides h (by simp [Shows, Reason.kind]))

theorem readSubscript_viable {text : List Char} {f : Fault} (h : readSubscript text = .error f)
    (hf : Shows f.reason) : Viable (fun t => Step ('.' :: '[' :: t)) text f := by
  unfold readSubscript at h
  simp only [throw_eq_error, pure_eq_ok, error_bind] at h
  split at h
  · exact absurd hf (error_hides h (by simp [Shows, Reason.kind]))
  split at h
  · cases h
  rcases bind_eq_error_iff.mp h with h | ⟨start, hstart, h⟩
  · exact absurd hf (readBound_hides h)
  obtain ⟨t, rest, rfl, hlen, ht, hint⟩ := readBound_sound hstart
  rw [← hlen, List.drop_left] at h
  split at h
  · -- a range, whose second bound can be followed by the bracket
    rename_i hcolon
    obtain ⟨tail, rfl⟩ := List.head?_eq_some_iff.mp hcolon
    rcases bind_eq_error_iff.mp h with h | ⟨stop, hstop, h⟩
    · exact absurd hf (readBound_hides h)
    obtain ⟨u, tail', htail, hlen', hu, -⟩ := readBound_sound hstop
    have htail : tail = u ++ tail' := htail
    subst htail
    rcases bind_eq_error_iff.mp h with h | ⟨⟨⟩, -, h⟩
    · obtain ⟨hrest, -⟩ := require_shows h hf
      refine ⟨t ++ ':' :: u, [']'], ?_, .iterate (.range start.value stop.value), ?_⟩
      · rw [hrest, ← hlen']
        simp
      · simpa using .range ht hu
    · cases h
  · rcases bind_eq_error_iff.mp h with h | ⟨⟨⟩, -, h⟩
    · -- one bound, which is there or can be replaced by the star
      obtain ⟨rfl, -⟩ := require_shows h hf
      cases hv : start.value with
      | some n =>
        obtain ⟨hp, hl⟩ := hint n hv
        exact ⟨t, [']'], rfl, _, by simpa using .index hp hl⟩
      | none =>
        rw [hv] at ht
        cases ht
        exact ⟨[], ['*', ']'], rfl, _, .all⟩
    · split at h
      · cases h
      · injection h with h
        subst h
        exact ⟨[], ['*', ']'], rfl, _, .all⟩

theorem readStep_viable {text : List Char} {f : Fault} (h : readStep text = .error f)
    (hf : Shows f.reason) : Viable (fun t => Step ('.' :: t)) text f := by
  unfold readStep at h
  split at h
  · rename_i hhead
    obtain ⟨tail, rfl⟩ := List.head?_eq_some_iff.mp hhead
    have hsub := readSubscript_viable (map_eq_error_iff.mp h) hf
    exact hsub.inside ['['] [] rfl fun t c ht => ⟨c, by simpa using ht⟩
  · exact (readKey_viable (map_eq_error_iff.mp h) hf).mono fun t k ht => ⟨_, ht⟩

/-! ## §3. The law of each reader. -/

theorem Item.last {t b : List Char} {o : Operand} (h : Item t o) (hne : t ≠ []) (hb : Blanks b) :
    Items (t ++ b) [o] :=
  .last (b := []) (by simp [Blanks]) h hne hb

theorem Item.more {t b u : List Char} {o : Operand} {os : List Operand} (h : Item t o)
    (hb : Blanks b) (hu : Items u os) : Items (t ++ b ++ ',' :: u) (o :: os) :=
  .more (b := []) (by simp [Blanks]) h hb hu

theorem Called.more {t u : List Char} {c : Call} {cs : List Call} (h : Called t c)
    (hs : Calls u cs) : Calls (t ++ u) (c :: cs) :=
  .more h hs

def ViableStatements (text : List Char) : Prop :=
  ∀ inside f, readStatements inside text = .error f → Shows f.reason →
    Viable Statements text f

def ViableSegment (text : List Char) : Prop :=
  ∀ inside afterGroup f, readSegment inside afterGroup text = .error f → Shows f.reason →
    Viable (Behind afterGroup) text f

def ViableGroup (text : List Char) : Prop :=
  ∀ f, readGroup text = .error f → Shows f.reason →
    Viable (fun t => Group ('(' :: t)) text f

/-- The reader is started behind the steps that are done. -/
def ViableStatement (text : List Char) : Prop :=
  ∀ inside before done f, Steps before done → readStatement inside done text = .error f →
    Shows f.reason → Viable (fun t => Commands (before ++ t)) text f

def ViableCalls (text : List Char) : Prop :=
  ∀ f, readCalls text = .error f → Shows f.reason →
    Viable (fun t => Calls ('#' :: t)) text f

def ViableItems (text : List Char) : Prop :=
  ∀ close f, readItems close text = .error f → Shows f.reason →
    Viable Items text f

def ViableItem (text : List Char) : Prop :=
  ∀ f, readItem text = .error f → Shows f.reason →
    Viable (fun t o => t ≠ [] ∧ Item t o) text f

def ViableAssigned (text : List Char) : Prop :=
  ∀ f, readAssigned text = .error f → Shows f.reason →
    Viable Assigned text f

/-- The laws at one text. -/
structure ViableAt (text : List Char) : Prop where
  statements : ViableStatements text
  segment : ViableSegment text
  group : ViableGroup text
  statement : ViableStatement text
  calls : ViableCalls text
  items : ViableItems text
  item : ViableItem text
  assigned : ViableAssigned text

/-- A fault of a phrase at its first character leaves the steps that are done. -/
theorem ViableAt.phrase {before rest : List Char} {done : Statement} {c : Char} {f : Fault}
    (h : ViableAt rest) (hdone : Steps before done) (hread : readPhrase done c rest = .error f)
    (hf : Shows f.reason) : Viable (fun t => Commands (before ++ t)) (c :: rest) f := by
  have hhere : ∀ reason, (Except.error ⟨reason, c :: rest⟩ : Except Fault (Reading Statement))
      = .error f → Viable (fun t => Commands (before ++ t)) (c :: rest) f := by
    intro reason hread
    injection hread with hread
    subst hread
    exact .here (w := []) (x := done) (by rw [List.append_nil]; exact .steps hdone)
  unfold readPhrase at hread
  split at hread
  · -- a step
    have hstep := readStep_viable (map_eq_error_iff.mp hread) hf
    exact hstep.inside ['.'] [] rfl fun t command ht =>
      ⟨done ++ [command], .steps (hdone.snoc (by simpa using ht))⟩
  · -- a list, whose items can be completed
    split at hread
    · rename_i hempty
      obtain rfl : done = [] := List.isEmpty_iff.mp hempty
      rw [hdone.of_nil]
      have hitems := h.items ']' f (map_eq_error_iff.mp hread) hf
      exact hitems.inside ['['] [']'] rfl fun t os ht => ⟨[.list os], .list ht⟩
    · exact hhere _ hread
  · exact hhere _ hread
  · -- an assignment to the last step
    split at hread
    · exact hhere _ hread
    · rename_i st key htarget
      rw [assignTarget_eq_ok htarget] at hdone
      obtain ⟨t, u, rfl, ht, hu⟩ := hdone.of_snoc
      have hassigned := h.assigned f (map_eq_error_iff.mp hread) hf
      exact hassigned.inside ['='] [] rfl fun w o hw =>
        ⟨st ++ [.assign key o], by simpa using Commands.assign ht hu hw⟩
  · -- a chain of calls
    have hcalls := h.calls f (map_eq_error_iff.mp hread) hf
    exact hcalls.inside ['#'] [] rfl fun t cs ht =>
      ⟨done ++ [.call cs], .calls hdone (by simpa using ht)⟩
  · exact hhere _ hread

/-! ## §4. Each law from those at shorter texts. -/

section Induction

variable {text : List Char} (ih : ∀ u : List Char, u.length < text.length → ViableAt u)

include ih

theorem viableStatements_of (hsegment : ViableSegment text) : ViableStatements text := by
  intro inside f h hf
  rw [readStatements.eq_def] at h
  rcases bind_eq_error_iff.mp h with h | ⟨segment, hread, h⟩
  · exact (hsegment inside false f h hf).mono fun t ss ht => ⟨ss, .segment ht.segment⟩
  obtain ⟨t, rest, rfl, hlen, ht, -⟩ := (sound text).segment inside false segment hread
  rw [← hlen, List.drop_left] at h
  split at h
  · -- the fault is behind the pipe
    rename_i hpipe
    obtain ⟨tail, rfl⟩ := List.head?_eq_some_iff.mp hpipe
    rw [drop_behind] at h
    rcases bind_eq_error_iff.mp h with h | ⟨more, -, h⟩
    · have hmore := (ih tail (length_behind_lt _ _ _)).statements inside f h hf
      exact hmore.inside (t ++ ['|']) [] (by simp) fun u ss hu =>
        ⟨_, by simpa using .pipe ht.segment hu⟩
    · cases h
  · cases h

theorem viableSegment_of (hstatement : ViableStatement text) : ViableSegment text := by
  intro inside afterGroup f h hf
  rw [readSegment.eq_def] at h
  simp only [pure_eq_ok] at h
  split at h
  · rename_i tail
    rcases bind_eq_error_iff.mp h with h | ⟨group, hgroup, h⟩
    · -- the group can be closed, and the segment ends behind it
      have hgroup := (ih tail (by simp)).group f h hf
      exact hgroup.inside ['('] [] rfl fun t ss ht =>
        ⟨_, by simpa using Behind.group ht (.commands (.steps .nil))⟩
    rcases bind_eq_error_iff.mp h with h | ⟨more, -, h⟩
    · obtain ⟨t, rest, rfl, hlen, ht⟩ := (sound tail).group group hgroup
      rw [← hlen, List.drop_left] at h
      have hmore := (ih rest (length_behind_cons_lt _ _ _)).segment inside true f h hf
      exact hmore.inside ('(' :: t) [] rfl fun u ss hu => ⟨_, by simpa using .group ht hu⟩
    · cases h
  · rcases bind_eq_error_iff.mp h with h | ⟨statement, -, h⟩
    · exact (hstatement inside [] [] f .nil h hf).mono fun t st ht => ⟨_, .commands ht⟩
    · split at h <;> cases h

omit ih in
theorem viableGroup_of (hstatements : ViableStatements text) : ViableGroup text := by
  intro f h hf
  rw [readGroup.eq_def] at h
  rcases bind_eq_error_iff.mp h with h | ⟨statements, hread, h⟩
  · exact (hstatements true f h hf).inside [] [')'] rfl fun t ss ht => ⟨ss, .mk ht⟩
  rcases bind_eq_error_iff.mp h with h | ⟨⟨⟩, -, h⟩
  · obtain ⟨t, rest, rfl, hlen, ht, -⟩ := (sound text).statements true statements hread
    rw [← hlen, List.drop_left] at h
    obtain ⟨rfl, -⟩ := require_shows h hf
    exact ⟨t, [')'], rfl, _, .mk ht⟩
  · cases h

theorem viableAssigned_of : ViableAssigned text := by
  intro f h hf
  rw [readAssigned.eq_def] at h
  split at h
  · rename_i tail
    rcases bind_eq_error_iff.mp h with h | ⟨group, -, h⟩
    · exact ((ih tail (by simp)).group f h hf).inside ['('] [] rfl fun t ss ht =>
        ⟨_, by simpa using .group ht⟩
    · cases h
  · exact absurd hf (readLiteral_hides (map_eq_error_iff.mp h))

theorem viableItem_of : ViableItem text := by
  intro f h hf
  rw [readItem.eq_def] at h
  split at h
  · rename_i tail
    rcases bind_eq_error_iff.mp h with h | ⟨group, -, h⟩
    · exact ((ih tail (by simp)).group f h hf).inside ['('] [] rfl fun t ss ht =>
        ⟨_, by simp, by simpa using .group ht⟩
    · cases h
  split at h
  · exact absurd hf (readLiteral_hides (map_eq_error_iff.mp h))
  · exact absurd hf (readToken_hides (map_eq_error_iff.mp h))

/-- A fault behind an item is one of the items behind its comma, or one of the character that should
have closed the bracket. -/
theorem viableBehindItem_of {t b rest : List Char} {item : Reading Operand} {close : Char}
    {f : Fault} (hsplit : text = (t ++ b) ++ rest) (ht : Item t item.value) (hb : Blanks b)
    (h : readBehindItem close item (t ++ b).length text = .error f) (hf : Shows f.reason) :
    Viable Items text f := by
  subst hsplit
  unfold readBehindItem at h
  rw [List.drop_left] at h
  split at h
  · -- the items behind a comma
    rename_i hcomma
    obtain ⟨tail, rfl⟩ := List.head?_eq_some_iff.mp hcomma
    rw [drop_behind] at h
    rcases bind_eq_error_iff.mp h with h | ⟨more, -, h⟩
    · have hmore := (ih tail (length_behind_lt _ _ _)).items close f h hf
      exact hmore.inside (t ++ b ++ [',']) [] (by simp) fun u os hu =>
        ⟨item.value :: os, by simpa using ht.more hb hu⟩
    · cases h
  · rcases bind_eq_error_iff.mp h with h | ⟨⟨⟩, -, h⟩
    · obtain ⟨rfl, -⟩ := require_shows h hf
      refine ⟨t ++ b, [], rfl, ?_⟩
      by_cases hne : t = []
      · rw [hne]
        exact ⟨[], by simpa using .none hb⟩
      · exact ⟨[item.value], by simpa using ht.last hne hb⟩
    · cases h

theorem viableItems_of (hitem : ViableItem text) : ViableItems text := by
  intro close f h hf
  cases text with
  | nil =>
    rw [readItems_nil] at h
    exact absurd hf (error_hides h (by simp [Shows, Reason.kind]))
  | cons c tail =>
    rw [readItems_cons] at h
    split at h
    · -- a blank before the items
      rename_i hc
      have htail := (ih tail (by simp)).items close f (map_eq_error_iff.mp h) hf
      exact htail.inside [c] [] rfl fun t os ht => ⟨os, by simpa using ht.blank hc⟩
    rename_i hblank
    split at h
    · cases h
    rcases bind_eq_error_iff.mp h with h | ⟨item, hread, h⟩
    · exact (hitem f h hf).mono fun t o ht =>
        ⟨[o], by simpa using ht.2.last ht.1 (b := []) (by simp [Blanks])⟩
    obtain ⟨t, b, rest, hsplit, hlength, ht, hb⟩ :=
      (sound _).item.with_blanks (by simpa using hblank) hread
    rw [hlength] at h
    exact viableBehindItem_of ih hsplit ht hb h hf

omit ih in
/-- A call can be made of any name. -/
theorem called_of_token {t name : List Char} (ht : Token endsName t name) (hne : name ≠ []) :
    ∃ c, Called ('#' :: (t ++ ['(', ')'])) c :=
  ⟨_, by simpa using .mk (u := []) ht hne (.none (by simp [Blanks]))⟩

theorem viableCall_of {f : Fault} (h : readCall text = .error f) (hf : Shows f.reason) :
    Viable (fun t => Called ('#' :: t)) text f := by
  unfold readCall at h
  simp only [throw_eq_error, pure_eq_ok, error_bind] at h
  rcases bind_eq_error_iff.mp h with h | ⟨name, hname, h⟩
  · exact absurd hf (readToken_hides h)
  split at h
  · -- any name may stand behind the mark
    injection h with h
    subst h
    have ht : Token endsName ['f'] ['f'] := .plain (by decide) (by decide) .nil
    obtain ⟨call, hcall⟩ := called_of_token ht (by simp)
    exact .here hcall
  rename_i hempty
  rcases bind_eq_error_iff.mp h with h | ⟨⟨⟩, hopen, h⟩
  · -- the name is there, and the rest of the call is not
    obtain ⟨t, rest, rfl, hlen, ht, -⟩ := readToken_sound hname
    rw [← hlen, List.drop_left] at h
    obtain ⟨rfl, -⟩ := require_shows h hf
    obtain ⟨call, hcall⟩ := called_of_token ht (by simpa using hempty)
    exact ⟨t, ['(', ')'], rfl, call, hcall⟩
  rcases bind_eq_error_iff.mp h with h | ⟨args, -, h⟩
  · -- the arguments can be completed, and then the call
    obtain ⟨t, rest, rfl, hlen, ht⟩ := readToken_open hname hopen
    rw [← hlen, drop_behind] at h
    have hargs := (ih rest (length_behind_lt _ _ _)).items ')' f h hf
    exact hargs.inside (t ++ ['(']) [')'] (by simp) fun u os hu =>
      ⟨_, by simpa using .mk ht (by simpa using hempty) hu⟩
  · cases h

theorem viableCalls_of : ViableCalls text := by
  intro f h hf
  rw [readCalls_eq] at h
  rcases bind_eq_error_iff.mp h with h | ⟨call, hcall, h⟩
  · exact (viableCall_of ih h hf).mono fun t c ht => ⟨[c], .one ht⟩
  obtain ⟨t, rest, rfl, hlen, ht⟩ := readCall_sound hcall
  unfold readBehindCall at h
  rw [← hlen, List.drop_left] at h
  split at h
  · -- a further call
    rename_i hmark
    obtain ⟨tail, rfl⟩ := List.head?_eq_some_iff.mp hmark
    rw [drop_behind] at h
    rcases bind_eq_error_iff.mp h with h | ⟨more, -, h⟩
    · have hmore := (ih tail (length_behind_lt _ _ _)).calls f h hf
      exact hmore.inside (t ++ ['#']) [] (by simp) fun u cs hu =>
        ⟨call.value :: cs, by simpa using ht.more hu⟩
    · cases h
  · cases h

omit ih in
/-- Behind a command that has to be the last one, a fault is one of the next character. -/
theorem readStatement_terminal_fault {inside : Bool} {done : Statement} {form : String}
    (hform : terminalForm? done = some form) {rest : List Char} {f : Fault}
    (h : readStatement inside done rest = .error f) : f.rest = rest := by
  cases rest with
  | nil =>
    rw [readStatement_nil] at h
    cases h
  | cons c rest =>
    rw [readStatement_cons, hform] at h
    split at h
    · cases h
    · injection h with h
      subst h
      rfl

theorem viableStatement_of : ViableStatement text := by
  intro inside before done f hdone h hf
  cases text with
  | nil =>
    rw [readStatement_nil] at h
    cases h
  | cons c rest =>
    have hlt : rest.length < (c :: rest).length := Nat.lt_succ_self _
    rw [readStatement_cons] at h
    split at h
    · cases h
    split at h
    · -- nothing may follow the steps, but they are a statement
      injection h with h
      subst h
      exact .here (w := []) (x := done) (by rw [List.append_nil]; exact .steps hdone)
    rcases bind_eq_error_iff.mp h with h | ⟨phrase, hphrase, h⟩
    · exact (ih rest hlt).phrase hdone h hf
    obtain ⟨t, tail, rfl, hlen, ht⟩ := (sound rest).phrase hdone hphrase
    have h := map_eq_error_iff.mp h
    rw [← hlen, List.drop_left] at h
    cases ht with
    | steps ht =>
      have hmore := (ih tail (length_behind_cons_lt _ _ _)).statement inside _ _ f ht h hf
      exact hmore.inside (c :: t) [] rfl fun u st hu => ⟨st, by simpa using hu⟩
    | complete ht hform =>
      have hrest := readStatement_terminal_fault hform h
      exact ⟨c :: t, [], by simp [hrest], phrase.value, by simpa using ht⟩

end Induction

/-- What every reader has read before a fault that shows can be completed to a phrase. -/
theorem viableAt (text : List Char) : ViableAt text := by
  induction hn : text.length using Nat.strongRecOn generalizing text with
  | _ n ih =>
    subst hn
    have ih : ∀ u : List Char, u.length < text.length → ViableAt u := fun u hu => ih _ hu u rfl
    have hstatement : ViableStatement text := viableStatement_of ih
    have hsegment : ViableSegment text := viableSegment_of ih hstatement
    have hstatements : ViableStatements text := viableStatements_of ih hsegment
    have hitem : ViableItem text := viableItem_of ih
    exact ⟨hstatements, hsegment, viableGroup_of hstatements, hstatement, viableCalls_of ih,
      viableItems_of ih hitem, hitem, viableAssigned_of ih⟩

end JsonQuery.Grammar
