/-
  JsonQuery.Proofs.Query.Untyped
  ──────────────────────────────
  An untyped token as an element, as an argument and as an assigned value.

  In every place the characters of a token are read as the value they look like.  An item of
  a list or of a call loses the blanks at its end first, and by then the escapes have been
  resolved: an escaped blank at the end is lost with them, where an assigned value keeps it.
  No numeral has a blank in it, so that a token that loses one never means the same.

  Main results:
    * `Query.parse_written` — what a token means in the three places, and that it means the
      same exactly if it does not end in an escaped blank;
    * `Query.not_forall_parse_same` — a token that ends in one.
-/
import JsonQuery.Proofs.Query.Parsing
import Mathlib.Data.List.DropRight

namespace JsonQuery

open Number Query Text Grammar

/-! ## §1. Numerals hold no blanks. -/

section
variable {c : Char} {text : List Char}

theorem mem_splitSign (hc : c ∈ text) (h : isBlank c = true) : c ∈ (splitSign text).2 := by
  unfold splitSign
  split
  · exact (List.mem_cons.mp hc).resolve_left (ne_of_isBlank h rfl)
  · exact (List.mem_cons.mp hc).resolve_left (ne_of_isBlank h rfl)
  · exact hc

theorem all_isDigit_of_isBlank (hc : c ∈ text) (h : isBlank c = true) :
    text.all Char.isDigit = false :=
  List.all_eq_false.mpr ⟨c, hc, by rw [isDigit_of_isBlank h]; exact Bool.false_ne_true⟩

theorem mem_dropWhile_isDigit (hc : c ∈ text) (h : isBlank c = true) :
    c ∈ text.dropWhile Char.isDigit := by
  rw [← List.takeWhile_append_dropWhile (p := Char.isDigit) (l := text)] at hc
  refine (List.mem_append.mp hc).resolve_left fun hmem => ?_
  have hd := List.all_eq_true.mp List.all_takeWhile c hmem
  rw [isDigit_of_isBlank h] at hd
  cases hd

theorem readInt64_of_isBlank (hc : c ∈ text) (h : isBlank c = true) : readInt64 text = none := by
  unfold readInt64
  simp only [all_isDigit_of_isBlank (mem_splitSign hc h) h, Bool.not_false, Bool.or_true, if_true]

theorem readExponent_of_isBlank (hc : c ∈ text) (h : isBlank c = true) :
    Number.readExponent text = none := by
  cases text with
  | nil => cases hc
  | cons mark rest =>
    unfold Number.readExponent
    rcases List.mem_cons.mp hc with rfl | hc
    · have he : (c != 'e' && c != 'E') = true := by
        simp only [Bool.and_eq_true, bne_iff_ne]
        exact ⟨ne_of_isBlank h rfl, ne_of_isBlank h rfl⟩
      simp only [he, Bool.true_or, if_true]
    · simp only [all_isDigit_of_isBlank (mem_splitSign hc h) h, Bool.not_false, Bool.or_true,
        if_true]

theorem readMagnitude_of_isBlank (hc : c ∈ text) (h : isBlank c = true) :
    readMagnitude text = none := by
  -- no name of a number has a blank in it
  have hname : ∀ name : List Char, name.any isBlank = false → text.map Char.toLower ≠ name := by
    rintro _ hblank rfl
    have hlower := List.any_eq_false.mp hblank _ (List.mem_map_of_mem hc)
    rw [toLower_of_isBlank h] at hlower
    exact hlower h
  have hinf := hname "inf".toList rfl
  have hinfinity := hname "infinity".toList rfl
  have hnan := hname "nan".toList rfl
  have hrest := mem_dropWhile_isDigit hc h
  unfold readMagnitude
  simp only [decide_eq_false hinf, decide_eq_false hinfinity, Bool.or_false, Bool.false_eq_true,
    if_false, hnan]
  generalize text.dropWhile Char.isDigit = rest at hrest
  split
  · -- a point and the digits behind it, and then the blank
    rename_i rest
    have hbehind := (List.mem_cons.mp hrest).resolve_left (ne_of_isBlank h rfl)
    simp only [readExponent_of_isBlank (mem_dropWhile_isDigit hbehind h) h, Option.map_none,
      ite_self]
  · simp only [readExponent_of_isBlank hrest h, Option.map_none, ite_self]

theorem readFinite_of_isBlank (hc : c ∈ text) (h : isBlank c = true) : readFinite text = none := by
  unfold readFinite readFloat
  simp only [readMagnitude_of_isBlank (mem_splitSign hc h) h, Option.map_none, Option.filter_none]

/-- A token with a blank in it is a string. -/
theorem coerce_of_isBlank (hc : c ∈ text) (h : isBlank c = true) :
    coerce text = .str (String.ofList text) := by
  unfold coerce
  rw [readInt64_of_isBlank hc h, readFinite_of_isBlank hc h]

end

/-! ## §2. Tokens as they are written. -/

/-- A character of an untyped token as it is written: as itself or escaped. -/
inductive Written where
  | plain (c : Char)
  | escaped (c : Char)
  deriving DecidableEq

namespace Written

/-- The characters that it is written with. -/
def chars : Written → List Char
  | plain c => [c]
  | escaped c => ['~', c]

/-- The character that it stands for. -/
def char : Written → Char
  | plain c => c
  | escaped c => c

/-- Only characters that mean nothing else are written as themselves. -/
def Allowed : Written → Prop
  | plain c => c ≠ '~' ∧ isSpecial c = false
  | escaped _ => True

instance : DecidablePred Allowed
  | plain c => inferInstanceAs (Decidable (c ≠ '~' ∧ isSpecial c = false))
  | escaped _ => inferInstanceAs (Decidable True)

/-- Whether it is a blank that is not escaped. -/
def isPlainBlank : Written → Bool
  | plain c => isBlank c
  | escaped _ => false

/-- Whether it is a blank that is escaped. -/
def isEscapedBlank : Written → Bool
  | plain _ => false
  | escaped c => isBlank c

theorem isBlank_char (w : Written) : isBlank w.char = (w.isPlainBlank || w.isEscapedBlank) := by
  cases w with
  | plain c => exact (Bool.or_false _).symm
  | escaped c => rfl

/-- The text of a token. -/
def text (ws : List Written) : String := String.ofList (ws.flatMap chars)

theorem token {ws : List Written} (h : ∀ w ∈ ws, w.Allowed) :
    Grammar.Token isSpecial (ws.flatMap chars) (ws.map char) := by
  induction ws with
  | nil => exact .nil
  | cons w ws ih =>
    obtain ⟨hw, hws⟩ := List.forall_mem_cons.mp h
    cases w with
    | plain c => exact .plain hw.1 hw.2 (ih hws)
    | escaped c => exact .escaped c (ih hws)

theorem flatMap_chars_ne_nil {ws : List Written} (h : ws ≠ []) : ws.flatMap chars ≠ [] := by
  cases ws with
  | nil => exact absurd rfl h
  | cons w ws => cases w <;> exact List.cons_ne_nil _ _

/-- No blank at the start is dropped. -/
theorem head_flatMap_chars {ws : List Written} (h : ∀ w ∈ ws.head?, w.isPlainBlank = false) :
    (ws.flatMap chars).head?.all (fun c => !isBlank c) = true := by
  cases ws with
  | nil => rfl
  | cons w ws =>
    have hw := h w rfl
    cases w with
    | plain c =>
      show (!isBlank c) = true
      rw [show isBlank c = false from hw]
      rfl
    | escaped c => rfl

end Written

/-! ## §3. Trimming. -/

theorem trimBlankEnd_eq_self_iff {v : List Char} {c : Char} (hv : v.getLast? = some c) :
    trimBlankEnd v = v ↔ isBlank c = false := by
  obtain ⟨u, rfl⟩ := List.getLast?_eq_some_iff.mp hv
  show (u ++ [c]).rdropWhile isBlank = u ++ [c] ↔ _
  rw [List.rdropWhile_eq_self_iff]
  simp

theorem coerce_eq_str {token : List Char} {s : String} (h : coerce token = .str s) :
    s = String.ofList token := by
  unfold coerce at h
  split at h
  · cases h
  · split at h
    · cases h
    · exact (Json.str.inj h).symm

/-- Trimming makes no difference to what a token means exactly if nothing is trimmed. -/
theorem coerce_trimBlankEnd_iff {v : List Char} {c : Char} (hv : v.getLast? = some c) :
    coerce (trimBlankEnd v) = coerce v ↔ isBlank c = false := by
  rw [← trimBlankEnd_eq_self_iff hv]
  constructor
  · intro heq
    by_contra htrim
    have hblank : isBlank c = true := by
      rwa [trimBlankEnd_eq_self_iff hv, Bool.not_eq_false] at htrim
    -- untrimmed it is a string, and so is what it is trimmed to, which is another one
    rw [coerce_of_isBlank (List.mem_of_getLast? hv) hblank] at heq
    exact htrim (String.ofList_injective (coerce_eq_str heq)).symm
  · intro htrim
    rw [htrim]

/-! ## §4. The three places of a token. -/

namespace Query

variable {ws : List Written}

/-- The items of a list or of a call that is written with one token: the token without the
blanks at its end. -/
theorem items_written (hne : ws ≠ []) (hallowed : ∀ w ∈ ws, w.Allowed)
    (hfirst : ∀ w ∈ ws.head?, w.isPlainBlank = false) :
    Items (ws.flatMap Written.chars)
      [.literal (coerce (trimBlankEnd (ws.map Written.char)))] := by
  have hitem : Grammar.Item (ws.flatMap Written.chars)
      (.literal (coerce (trimBlankEnd (ws.map Written.char)))) :=
    .token (Written.token hallowed) (Written.head_flatMap_chars hfirst)
  have hblanks : Blanks [] := List.forall_mem_nil _
  simpa using Items.last hblanks hitem (Written.flatMap_chars_ne_nil hne) hblanks

theorem parse_list_written (hne : ws ≠ []) (hallowed : ∀ w ∈ ws, w.Allowed)
    (hfirst : ∀ w ∈ ws.head?, w.isPlainBlank = false) :
    parse ("[" ++ Written.text ws ++ "]")
      = .ok (.single [.list [.literal (coerce (trimBlankEnd (ws.map Written.char)))]]) := by
  have htext : Statements ("[" ++ Written.text ws ++ "]").toList
      [[.list [.literal (coerce (trimBlankEnd (ws.map Written.char)))]]] := by
    simpa [Written.text] using
      Statements.segment (.commands (.list (items_written hne hallowed hfirst)))
  exact parse_of_statements _ htext

theorem parse_call_written (hne : ws ≠ []) (hallowed : ∀ w ∈ ws, w.Allowed)
    (hfirst : ∀ w ∈ ws.head?, w.isPlainBlank = false) {f : String} {name : List Char}
    (hf : Grammar.Token endsName f.toList name) (hname : name ≠ []) :
    parse ("#" ++ f ++ "(" ++ Written.text ws ++ ")")
      = .ok (.single [.call [.mk (String.ofList name)
          [.literal (coerce (trimBlankEnd (ws.map Written.char)))]]]) := by
  have hcalls : Calls _ [_] := .one (.mk hf hname (items_written hne hallowed hfirst))
  have htext : Statements ("#" ++ f ++ "(" ++ Written.text ws ++ ")").toList
      [[.call [.mk (String.ofList name)
          [.literal (coerce (trimBlankEnd (ws.map Written.char)))]]]] := by
    simpa [Written.text] using Statements.segment (.commands (.calls .nil hcalls))
  exact parse_of_statements _ htext

theorem parse_assign_written (hallowed : ∀ w ∈ ws, w.Allowed) {step : String} {key : Key}
    (hstep : Grammar.Step step.toList (.select key)) :
    parse (step ++ "=" ++ Written.text ws)
      = .ok (.single [.assign key (.literal (coerce (ws.map Written.char)))]) := by
  have hvalue : Assigned _ (.literal (coerce (ws.map Written.char))) :=
    .literal (.token (Written.token hallowed))
  have htext : Statements (step ++ "=" ++ Written.text ws).toList
      [[.assign key (.literal (coerce (ws.map Written.char)))]] := by
    simpa [Written.text] using Statements.segment (.commands (.assign .nil hstep hvalue))
  exact parse_of_statements _ htext

/-- A token that is there, with no blank of its own at either end, is one element of a list
and one argument of a call, the same literal in both; and it is a literal as an assigned
value.  The two literals are the same exactly if the token does not end in an escaped
blank. -/
theorem parse_written (hne : ws ≠ []) (hallowed : ∀ w ∈ ws, w.Allowed)
    (hfirst : ∀ w ∈ ws.head?, w.isPlainBlank = false)
    (hlast : ∀ w ∈ ws.getLast?, w.isPlainBlank = false) {f : String} {name : List Char}
    (hf : Grammar.Token endsName f.toList name) (hname : name ≠ []) {step : String} {key : Key}
    (hstep : Grammar.Step step.toList (.select key)) :
    ∃ item assigned,
      parse ("[" ++ Written.text ws ++ "]") = .ok (.single [.list [.literal item]])
      ∧ parse ("#" ++ f ++ "(" ++ Written.text ws ++ ")")
          = .ok (.single [.call [.mk (String.ofList name) [.literal item]]])
      ∧ parse (step ++ "=" ++ Written.text ws) = .ok (.single [.assign key (.literal assigned)])
      ∧ item = coerce (trimBlankEnd (ws.map Written.char))
      ∧ assigned = coerce (ws.map Written.char)
      ∧ (item = assigned ↔ ∀ w ∈ ws.getLast?, w.isEscapedBlank = false) := by
  refine ⟨_, _, parse_list_written hne hallowed hfirst,
    parse_call_written hne hallowed hfirst hf hname, parse_assign_written hallowed hstep,
    rfl, rfl, ?_⟩
  -- only the last character decides whether anything is trimmed
  obtain ⟨ws, w, rfl⟩ := List.eq_nil_or_concat ws |>.resolve_left hne
  have hw : w.isPlainBlank = false := hlast w (by simp)
  rw [coerce_trimBlankEnd_iff (c := w.char) (by simp), Written.isBlank_char, hw, Bool.false_or]
  simp

theorem step_a : Grammar.Step ".a".toList (.select (.name "a")) :=
  .key ⟨'a', [], rfl, by decide⟩ (.token (.plain (by decide) (by decide) .nil)) rfl

/-- The token `a~ ` is `"a"` in a list and in a call, and `"a "` as an assigned value. -/
theorem parse_written_escaped_blank :
    parse "[a~ ]" = .ok (.single [.list [.literal (.str "a")]])
      ∧ parse "#f(a~ )" = .ok (.single [.call [.mk "f" [.literal (.str "a")]]])
      ∧ parse ".a=a~ " = .ok (.single [.assign (.name "a") (.literal (.str "a "))]) := by
  have hname : Grammar.Token endsName "f".toList ['f'] := .plain (by decide) (by decide) .nil
  have hne : [Written.plain 'a', .escaped ' '] ≠ [] := by decide
  obtain ⟨_, _, hlist, hcall, hassign, rfl, rfl, -⟩ :=
    parse_written hne (by decide) (by decide) (by decide) hname (by decide) step_a
  exact ⟨hlist, hcall, hassign⟩

/-- An escaped blank at the end of a token is no part of an element, but a part of an
assigned value. -/
theorem not_forall_parse_same :
    ¬∀ ws : List Written, ws ≠ [] → (∀ w ∈ ws, w.Allowed)
      → (∀ w ∈ ws.head?, w.isPlainBlank = false) → (∀ w ∈ ws.getLast?, w.isPlainBlank = false)
      → ∃ value,
        parse ("[" ++ Written.text ws ++ "]") = .ok (.single [.list [.literal value]])
        ∧ parse ("#" ++ "f" ++ "(" ++ Written.text ws ++ ")")
            = .ok (.single [.call [.mk "f" [.literal value]]])
        ∧ parse (".a" ++ "=" ++ Written.text ws)
            = .ok (.single [.assign (.name "a") (.literal value)]) := by
  intro h
  obtain ⟨value, hlist, -, hassign⟩ :=
    h [.plain 'a', .escaped ' '] (by decide) (by decide) (by decide) (by decide)
  rw [parse_list_written (by decide) (by decide) (by decide)] at hlist
  rw [parse_assign_written (by decide) step_a] at hassign
  have hsame : coerce (trimBlankEnd ['a', ' ']) = coerce ['a', ' '] := by
    simp only [Except.ok.injEq, Query.single.injEq, List.cons.injEq, Command.list.injEq,
      Command.assign.injEq, Operand.literal.injEq] at hlist hassign
    exact hlist.1.1.trans hassign.1.2.symm
  exact absurd ((coerce_trimBlankEnd_iff (c := ' ') rfl).mp hsame) (by decide)

end Query

end JsonQuery
