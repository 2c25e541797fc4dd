/-
  JsonQuery.Proofs.Json.RoundTrip
  ───────────────────────────────
  Written JSON text reads as the value it was written from.

  The writer and the reader meet token by token: each piece of text that the writer puts
  down moves the machine of the reader by one step, and line breaks and indentation do
  not move it.  So the text of a value takes the machine from where a value has to come
  next to where that value is complete, however many containers are open around it.

  Floats are left out: their text need not read as the same float.
-/
import JsonQuery.Json.Writer
import JsonQuery.Proofs.Json.Read
import JsonQuery.Proofs.Number.Integer

namespace JsonQuery

open Number

/-! ## §1. How deep a value nests. -/

mutual

/-- How many containers are open at the innermost place of a value. -/
def Json.depth : Json → Nat
  | .arr items => itemsDepth items + 1
  | .obj entries => entriesDepth entries + 1
  | _ => 0

/-- The greatest depth of the items. -/
def itemsDepth : List Json → Nat
  | [] => 0
  | v :: vs => max v.depth (itemsDepth vs)

/-- The greatest depth of the values of the entries. -/
def entriesDepth : List (String × Json) → Nat
  | [] => 0
  | (_, v) :: es => max v.depth (entriesDepth es)

end

/-! ## §2. Strings. -/

namespace Token

theorem hexDigit?_hexChar (n : Nat) (h : n < 16) : hexDigit? (hexChar n) = some n := by
  have hall : ∀ n < 16, hexDigit? (hexChar n) = some n := by decide
  exact hall n h

/-- The three forms in which a character is written: by an escape of one letter, by its number, or
as it is. -/
theorem escapeChar_cases (c : Char) :
    (∃ e, escapeChar c = ['\\', e] ∧ e ≠ 'u' ∧ escaped? e = some c)
      ∨ (escapeChar c = ['\\', 'u', '0', '0', hexChar (c.toNat / 16), hexChar (c.toNat % 16)]
          ∧ c.toNat < 0x20)
      ∨ (escapeChar c = [c] ∧ c ≠ '"' ∧ c ≠ '\\' ∧ ¬c.toNat < 0x20) := by
  unfold escapeChar
  by_cases hquote : c = '"'
  · exact .inl ⟨'"', by simp [hquote], by decide, by rw [hquote]; rfl⟩
  by_cases hslash : c = '\\'
  · exact .inl ⟨'\\', by simp [hslash], by decide, by rw [hslash]; rfl⟩
  by_cases hb : c = '\x08'
  · exact .inl ⟨'b', by simp [hb], by decide, by rw [hb]; rfl⟩
  by_cases hf : c = '\x0c'
  · exact .inl ⟨'f', by simp [hf], by decide, by rw [hf]; rfl⟩
  by_cases hn : c = '\n'
  · exact .inl ⟨'n', by simp [hn], by decide, by rw [hn]; rfl⟩
  by_cases hr : c = '\r'
  · exact .inl ⟨'r', by simp [hr], by decide, by rw [hr]; rfl⟩
  by_cases ht : c = '\t'
  · exact .inl ⟨'t', by simp [ht], by decide, by rw [ht]; rfl⟩
  -- a character without a letter of its own is written by its number if it is a control one
  rw [if_neg hquote, if_neg hslash, if_neg hb, if_neg hf, if_neg hn, if_neg hr, if_neg ht]
  by_cases hcontrol : c.toNat < 0x20
  · exact .inr (.inl ⟨if_pos hcontrol, hcontrol⟩)
  · exact .inr (.inr ⟨if_neg hcontrol, hquote, hslash, hcontrol⟩)

/-- The number of a control character is read as the character. -/
theorem hexUnit?_control {c : Char} (h : c.toNat < 0x20) :
    hexUnit? '0' '0' (hexChar (c.toNat / 16)) (hexChar (c.toNat % 16)) = some c.toNat := by
  have hzero : hexDigit? '0' = some 0 := by decide
  have hhigh := hexDigit?_hexChar (c.toNat / 16) (by omega)
  have hlow := hexDigit?_hexChar (c.toNat % 16) (by omega)
  have hsum : 4096 * 0 + 256 * 0 + 16 * (c.toNat / 16) + c.toNat % 16 = c.toNat := by omega
  unfold hexUnit?
  rw [hzero, hhigh, hlow]
  exact congrArg some hsum

/-- A written character is read as the character. -/
theorem readText_escapeChar (c : Char) (read : List Char) (length : Nat) (rest : List Char) :
    readText none read length (escapeChar c ++ rest)
      = readText none (c :: read) (length + (escapeChar c).length) rest := by
  rcases escapeChar_cases c with ⟨e, hc, hne, he⟩ | ⟨hc, hcontrol⟩ | ⟨hc, hquote, hslash, hcontrol⟩
  · rw [hc]
    show readText none read length ('\\' :: e :: rest) = _
    rw [readText.eq_3 _ _ _ _ _ (by simp [hne]), he]
    rfl
  · have hunit := hexUnit?_control hcontrol
    rw [hc]
    show readText none read length ('\\' :: 'u' :: '0' :: '0' :: _ :: _ :: rest) = _
    rw [readText, hunit]
    simp only [Option.bind_eq_bind, Option.bind_some]
    rw [if_neg (by omega), if_neg (by omega), Char.ofNat_toNat]
    rfl
  · rw [hc]
    show readText none read length (c :: rest) = _
    have hplain : ((none : Option Nat).isSome || decide (c.toNat < 32) || c == '\\') = false := by
      simp [hslash, hcontrol]
    rw [readText.eq_4 _ _ _ _ _ hquote (by simp [hslash]) (by simp [hslash]), hplain]
    rfl

theorem readText_escaped (s read : List Char) (length : Nat) (rest : List Char) :
    readText none read length (s.flatMap escapeChar ++ '"' :: rest)
      = some (String.ofList (read.reverse ++ s), length + (s.flatMap escapeChar).length + 1) := by
  induction s generalizing read length with
  | nil =>
    rw [List.append_nil]
    rfl
  | cons c s ih =>
    rw [List.flatMap_cons, List.append_assoc, readText_escapeChar, ih, List.reverse_cons,
      List.append_assoc, List.length_append, Nat.add_assoc length]
    rfl

theorem first_quote (s : String) (rest : List Char) :
    first '"' ((s.toList.flatMap escapeChar ++ ['"']) ++ rest)
      = some (.text s, (s.toList.flatMap escapeChar ++ ['"']).length + 1) := by
  rw [List.append_assoc, List.length_append, Nat.add_comm]
  show (readText none [] 1 (s.toList.flatMap escapeChar ++ '"' :: rest)).map _ = _
  rw [readText_escaped]
  simp [Nat.add_assoc]

/-- What begins with a sign or a digit is a number. -/
theorem first_number {c : Char} (hc : c = '-' ∨ c.isDigit = true) (rest : List Char) :
    first c rest = (Numeral.read (c :: rest)).bind fun p =>
      p.1.value.bind fun v => some (.scalar v, p.2) := by
  rcases hc with rfl | hc
  · rfl
  unfold first
  split <;> first | cases hc | rfl

theorem first_int (n : Int64) {rest : List Char} (hr : ∀ c ∈ rest.head?, endsNumber c = true) :
    ∃ c body, (toString n.toInt).toList = c :: body ∧ isSpace c = false
      ∧ first c (body ++ rest) = some (.scalar (.int n), body.length + 1) := by
  have hread := Numeral.read_toString n hr
  -- the text begins with a sign or a digit, which no other token does
  have hfirst : ∃ c body, (toString n.toInt).toList = c :: body ∧ (c = '-' ∨ c.isDigit = true) := by
    rw [toList_toString]
    split
    · exact ⟨'-', _, rfl, .inl rfl⟩
    · obtain ⟨c, hhead, -⟩ := digits_head? n.toInt.natAbs
      obtain ⟨body, hbody⟩ := List.head?_eq_some_iff.mp hhead
      exact ⟨c, body, hbody, .inr (isDigit_of_mem_digits (List.mem_of_mem_head? hhead))⟩
  obtain ⟨c, body, htext, hc⟩ := hfirst
  rw [htext] at hread
  refine ⟨c, body, htext, ?_, ?_⟩
  · rcases hc with rfl | hc
    · rfl
    · cases hspace : isSpace c with
      | false => rfl
      | true =>
        simp only [isSpace, Bool.or_eq_true, beq_iff_eq] at hspace
        rcases hspace with ((rfl | rfl) | rfl) | rfl <;> cases hc
  · rw [List.cons_append] at hread
    rw [first_number hc, hread, Option.bind_some, Numeral.value_toString]
    rfl

end Token

/-! ## §3. Tokens. -/

namespace Reader

variable {r : Reader} {rest : List Char}

/-- One token moves the machine by one step. -/
theorem run_token {c : Char} {token : Token} (body : List Char)
    (hspace : Token.isSpace c = false)
    (h : Token.first c (body ++ rest) = some (token, body.length + 1)) :
    r.run (c :: (body ++ rest)) = (r.step token).bind fun r => r.run rest := by
  rw [run]
  simp only [hspace, h, Bool.false_eq_true, if_false, Nat.add_sub_cancel, List.drop_left]
  cases r.step token <;> rfl

theorem run_space {c : Char} (hspace : Token.isSpace c = true) (text : List Char) :
    r.run (c :: text) = r.run text := by
  rw [run, if_pos hspace]

/-- Line breaks and indentation move nothing. -/
theorem run_spaces {spaces : List Char} (h : ∀ c ∈ spaces, Token.isSpace c = true) :
    r.run (spaces ++ rest) = r.run rest := by
  induction spaces with
  | nil => rfl
  | cons c spaces ih =>
    obtain ⟨hc, hspaces⟩ := List.forall_mem_cons.mp h
    rw [List.cons_append, run_space hc, ih hspaces]

theorem run_lineBreak (spacing : Spacing) (level : Nat) :
    r.run (spacing.lineBreak level ++ rest) = r.run rest := by
  refine run_spaces fun c hc => ?_
  cases spacing with
  | compact => cases hc
  | indented =>
    rcases List.mem_cons.mp hc with rfl | hc
    · rfl
    · rw [(List.mem_replicate.mp hc).2]
      rfl

theorem run_openArray : r.run ('[' :: rest) = (r.step .openArray).bind fun r => r.run rest :=
  run_token [] rfl rfl

theorem run_closeArray : r.run (']' :: rest) = (r.step .closeArray).bind fun r => r.run rest :=
  run_token [] rfl rfl

theorem run_openObject :
    r.run ('\x7b' :: rest) = (r.step .openObject).bind fun r => r.run rest :=
  run_token [] rfl rfl

theorem run_closeObject :
    r.run ('\x7d' :: rest) = (r.step .closeObject).bind fun r => r.run rest :=
  run_token [] rfl rfl

theorem run_comma : r.run (',' :: rest) = (r.step .comma).bind fun r => r.run rest :=
  run_token [] rfl rfl

theorem run_colon (spacing : Spacing) :
    r.run (spacing.colon ++ rest) = (r.step .colon).bind fun r => r.run rest := by
  have h : ∀ rest, r.run (':' :: rest) = (r.step .colon).bind fun r => r.run rest :=
    fun _ => run_token [] rfl rfl
  cases spacing with
  | compact => exact h rest
  | indented =>
    refine (h (' ' :: rest)).trans ?_
    cases r.step .colon with
    | none => rfl
    | some r => exact run_space rfl rest

theorem run_quote (s : String) :
    r.run (quoteChars s ++ rest) = (r.step (.text s)).bind fun r => r.run rest :=
  run_token _ rfl (Token.first_quote s rest)

theorem run_null :
    r.run ("null".toList ++ rest) = (r.step (.scalar .null)).bind fun r => r.run rest :=
  run_token ['u', 'l', 'l'] rfl rfl

theorem run_bool (b : Bool) :
    r.run ((if b then "true" else "false").toList ++ rest)
      = (r.step (.scalar (.bool b))).bind fun r => r.run rest := by
  cases b with
  | true => exact run_token ['r', 'u', 'e'] rfl rfl
  | false => exact run_token ['a', 'l', 's', 'e'] rfl rfl

theorem run_int (n : Int64) (hr : ∀ c ∈ rest.head?, endsNumber c = true) :
    r.run ((toString n.toInt).toList ++ rest)
      = (r.step (.scalar (.int n))).bind fun r => r.run rest := by
  obtain ⟨c, body, htext, hspace, hfirst⟩ := Token.first_int n hr
  rw [htext]
  exact run_token _ hspace hfirst

end Reader

/-! ## §4. Values. -/

theorem Entries.not_mem_of_nodup {entries es : Entries} {key : String} {value : Json}
    (h : (Entries.keys (entries ++ (key, value) :: es)).Nodup) : key ∉ entries.keys := by
  rw [keys, List.map_append, List.nodup_append] at h
  intro hmem
  exact h.2.2 key hmem key (by simp) rfl

/-- No number goes on with a line break or a bracket. -/
theorem endsNumber_lineBreak {close : Char} (hclose : endsNumber close = true) (spacing : Spacing)
    (level : Nat) (rest : List Char) :
    ∀ c ∈ (spacing.lineBreak level ++ close :: rest).head?, endsNumber c = true := by
  intro c hc
  cases spacing with
  | compact =>
    injection hc with hc
    exact hc ▸ hclose
  | indented =>
    injection hc with hc
    exact hc ▸ rfl

theorem endsNumber_itemChars {close : Char} (hclose : endsNumber close = true) (spacing : Spacing)
    (level outside : Nat) (vs : List Json) (rest : List Char) :
    ∀ c ∈ (itemChars spacing level vs ++ (spacing.lineBreak outside ++ close :: rest)).head?,
      endsNumber c = true := by
  cases vs with
  | nil => exact endsNumber_lineBreak hclose spacing outside rest
  | cons v vs =>
    intro c hc
    injection hc with hc
    exact hc ▸ rfl

theorem endsNumber_entryChars {close : Char} (hclose : endsNumber close = true)
    (spacing : Spacing) (level outside : Nat) (es : List (String × Json)) (rest : List Char) :
    ∀ c ∈ (entryChars spacing level es ++ (spacing.lineBreak outside ++ close :: rest)).head?,
      endsNumber c = true := by
  cases es with
  | nil => exact endsNumber_lineBreak hclose spacing outside rest
  | cons e es =>
    intro c hc
    injection hc with hc
    exact hc ▸ rfl

namespace Reader

section

variable {spacing : Spacing} {level : Nat} {mayClose : Bool} {outer : List Frame}
  {rest : List Char}

theorem step_openArray (h : outer.length < maxDepth) :
    step (.value mayClose outer) .openArray = some (.value true (.array [] :: outer)) :=
  if_pos h

theorem step_openObject (h : outer.length < maxDepth) :
    step (.value mayClose outer) .openObject = some (.key true [] outer) :=
  if_pos h

/-- The text of an array opens it, if there is room for it, before its first item. -/
theorem run_arr (h : outer.length < maxDepth) (v : Json) (vs : List Json) :
    (Reader.value mayClose outer).run ((Json.arr (v :: vs)).chars spacing level ++ rest)
      = (Reader.value true (.array [] :: outer)).run (v.chars spacing (level + 1)
          ++ (itemChars spacing (level + 1) vs ++ (spacing.lineBreak level ++ ']' :: rest))) := by
  have htext : (Json.arr (v :: vs)).chars spacing level ++ rest
      = '[' :: (spacing.lineBreak (level + 1) ++ (v.chars spacing (level + 1)
        ++ (itemChars spacing (level + 1) vs ++ (spacing.lineBreak level ++ ']' :: rest)))) := by
    simp [Json.chars]
  rw [htext, run_openArray, step_openArray h, Option.bind_some, run_lineBreak]

/-- The text of an object opens it, if there is room for it, before the value of its first key. -/
theorem run_obj (h : outer.length < maxDepth) (k : String) (v : Json)
    (es : List (String × Json)) :
    (Reader.value mayClose outer).run ((Json.obj ((k, v) :: es)).chars spacing level ++ rest)
      = (Reader.value false (.object [] k :: outer)).run (v.chars spacing (level + 1)
          ++ (entryChars spacing (level + 1) es ++ (spacing.lineBreak level ++ '\x7d' :: rest))) := by
  have htext : (Json.obj ((k, v) :: es)).chars spacing level ++ rest
      = '\x7b' :: (spacing.lineBreak (level + 1) ++ (quoteChars k ++ (spacing.colon
        ++ (v.chars spacing (level + 1) ++ (entryChars spacing (level + 1) es
        ++ (spacing.lineBreak level ++ '\x7d' :: rest)))))) := by
    simp [Json.chars]
  rw [htext, run_openObject, step_openObject h, Option.bind_some, run_lineBreak, run_quote]
  show Option.bind (some (Reader.colon [] k outer)) _ = _
  rw [Option.bind_some, run_colon]
  rfl

/-- After an item the text goes on with the next one. -/
theorem run_nextItem (v w : Json) (items vs : List Json) (tail : List Char) :
    (Reader.complete v (.array items :: outer)).run (itemChars spacing level (w :: vs) ++ tail)
      = (Reader.value false (.array (v :: items) :: outer)).run
          (w.chars spacing level ++ (itemChars spacing level vs ++ tail)) := by
  have htext : itemChars spacing level (w :: vs) ++ tail
      = ',' :: (spacing.lineBreak level
        ++ (w.chars spacing level ++ (itemChars spacing level vs ++ tail))) := by
    simp [itemChars]
  rw [htext, run_comma]
  show Option.bind (some (Reader.value false (.array (v :: items) :: outer))) _ = _
  rw [Option.bind_some, run_lineBreak]

/-- After an entry the text goes on with the value of the next key. -/
theorem run_nextEntry (v w : Json) (k k' : String) (entries : Entries)
    (es : List (String × Json)) (tail : List Char) :
    (Reader.complete v (.object entries k :: outer)).run
        (entryChars spacing level ((k', w) :: es) ++ tail)
      = (Reader.value false (.object (entries.put k v) k' :: outer)).run
          (w.chars spacing level ++ (entryChars spacing level es ++ tail)) := by
  have htext : entryChars spacing level ((k', w) :: es) ++ tail
      = ',' :: (spacing.lineBreak level ++ (quoteChars k' ++ (spacing.colon
        ++ (w.chars spacing level ++ (entryChars spacing level es ++ tail))))) := by
    simp [entryChars]
  rw [htext, run_comma]
  show Option.bind (some (Reader.key false (entries.put k v) outer)) _ = _
  rw [Option.bind_some, run_lineBreak, run_quote]
  show Option.bind (some (Reader.colon (entries.put k v) k' outer)) _ = _
  rw [Option.bind_some, run_colon]
  rfl

end

mutual

/-- The text of a value takes the machine from where a value has to come next to where it is
complete. -/
theorem run_chars (spacing : Spacing) : (v : Json) → v.Lawful (fun _ => False) →
    ∀ (level : Nat) (mayClose : Bool) (outer : List Frame) (rest : List Char),
      outer.length + v.depth ≤ maxDepth → (∀ c ∈ rest.head?, endsNumber c = true) →
      (Reader.value mayClose outer).run (v.chars spacing level ++ rest)
        = (Reader.complete v outer).run rest
  | .null, _, _, _, _, _, _, _ => by rw [Json.chars]; exact run_null
  | .bool b, _, _, _, _, _, _, _ => by rw [Json.chars]; exact run_bool b
  | .int n, _, _, _, _, _, _, hr => by rw [Json.chars]; exact run_int n hr
  | .float x, hv, _, _, _, _, _, _ => by cases hv; contradiction
  | .str s, _, _, _, _, _, _, _ => by rw [Json.chars]; exact run_quote s
  | .arr [], _, _, _, outer, rest, hdepth, _ => by
    show run _ ('[' :: ']' :: rest) = _
    rw [run_openArray, step_openArray (by simp only [Json.depth] at hdepth; omega),
      Option.bind_some, run_closeArray]
    rfl
  | .arr (v :: vs), hv, level, _, outer, rest, hdepth, _ => by
    -- the depth that is left at the bracket is enough for each of the items
    obtain ⟨hfirst, hrest⟩ := List.forall_mem_cons.mp hv.items
    simp only [Json.depth, itemsDepth] at hdepth
    rw [run_arr (by omega),
      run_chars spacing v hfirst _ _ _ _ (by simp only [List.length_cons]; omega)
        (endsNumber_itemChars rfl spacing _ _ _ _),
      run_itemChars spacing vs hrest _ _ _ _ _ _ (by omega)]
    rfl
  | .obj [], _, _, _, outer, rest, hdepth, _ => by
    show run _ ('\x7b' :: '\x7d' :: rest) = _
    rw [run_openObject, step_openObject (by simp only [Json.depth] at hdepth; omega),
      Option.bind_some, run_closeObject]
    rfl
  | .obj ((k, v) :: es), hv, level, _, outer, rest, hdepth, _ => by
    obtain ⟨hfirst, hrest⟩ := List.forall_mem_cons.mp hv.entries
    simp only [Json.depth, entriesDepth] at hdepth
    rw [run_obj (by omega),
      run_chars spacing v hfirst _ _ _ _ (by simp only [List.length_cons]; omega)
        (endsNumber_entryChars rfl spacing _ _ _ _),
      run_entryChars spacing es hrest _ _ _ _ _ _ _ hv.keys (by omega)]
    rfl

/-- The items after the first, and the bracket that closes the array. -/
theorem run_itemChars (spacing : Spacing) : (vs : List Json) →
    (∀ v ∈ vs, v.Lawful fun _ => False) →
    ∀ (level outside : Nat) (v : Json) (items : List Json) (outer : List Frame)
      (rest : List Char), outer.length + 1 + itemsDepth vs ≤ maxDepth →
      (Reader.complete v (.array items :: outer)).run
          (itemChars spacing level vs ++ (spacing.lineBreak outside ++ ']' :: rest))
        = (Reader.complete (.arr (items.reverse ++ v :: vs)) outer).run rest
  | [], _, _, outside, v, items, outer, rest, _ => by
    rw [itemChars, List.nil_append, run_lineBreak, run_closeArray]
    show run (Reader.complete (.arr (v :: items).reverse) outer) rest = _
    rw [List.reverse_cons]
  | w :: vs, hvs, level, outside, v, items, outer, rest, hdepth => by
    obtain ⟨hfirst, hrest⟩ := List.forall_mem_cons.mp hvs
    simp only [itemsDepth] at hdepth
    rw [run_nextItem,
      run_chars spacing w hfirst _ _ _ _ (by simp only [List.length_cons]; omega)
        (endsNumber_itemChars rfl spacing _ _ _ _),
      run_itemChars spacing vs hrest _ _ _ _ _ _ (by omega), List.reverse_cons,
      List.append_assoc]
    rfl

/-- The entries after the first, and the bracket that closes the object. -/
theorem run_entryChars (spacing : Spacing) : (es : List (String × Json)) →
    (∀ e ∈ es, e.2.Lawful fun _ => False) →
    ∀ (level outside : Nat) (v : Json) (entries : Entries) (k : String) (outer : List Frame)
      (rest : List Char), (Entries.keys (entries ++ (k, v) :: es)).Nodup →
      outer.length + 1 + entriesDepth es ≤ maxDepth →
      (Reader.complete v (.object entries k :: outer)).run
          (entryChars spacing level es ++ (spacing.lineBreak outside ++ '\x7d' :: rest))
        = (Reader.complete (.obj (entries ++ (k, v) :: es)) outer).run rest
  | [], _, _, outside, v, entries, k, outer, rest, hkeys, _ => by
    rw [entryChars, List.nil_append, run_lineBreak, run_closeObject]
    show run (Reader.complete (.obj (entries.put k v)) outer) rest = _
    rw [Entries.put_of_not_mem (Entries.not_mem_of_nodup hkeys)]
  | (k', w) :: es, hes, level, outside, v, entries, k, outer, rest, hkeys, hdepth => by
    obtain ⟨hfirst, hrest⟩ := List.forall_mem_cons.mp hes
    simp only [entriesDepth] at hdepth
    rw [run_nextEntry, Entries.put_of_not_mem (Entries.not_mem_of_nodup hkeys)]
    -- the key is a new one, so that its entry has come last
    have hkeys : (Entries.keys ((entries ++ [(k, v)]) ++ (k', w) :: es)).Nodup := by
      rwa [List.append_assoc]
    rw [run_chars spacing w hfirst _ _ _ _ (by simp only [List.length_cons]; omega)
        (endsNumber_entryChars rfl spacing _ _ _ _),
      run_entryChars spacing es hrest _ _ _ _ _ _ _ hkeys (by omega), List.append_assoc]
    rfl

end

end Reader

/-- A value without floats that nests no deeper than the reader goes is read back from its text. -/
theorem Json.read?_write {v : Json} (hv : v.Lawful fun _ => False)
    (hdepth : v.depth ≤ Reader.maxDepth) (spacing : Spacing) :
    Json.read? (v.write spacing) = some v := by
  have hrun := Reader.run_chars spacing v hv 0 false [] [] (by simpa using hdepth) (by simp)
  unfold Json.read? Json.write
  rw [String.toList_ofList, ← List.append_nil (v.chars spacing 0), Reader.start, hrun, Reader.run]
  rfl

/-! ## §5. Values that nest too deep. -/

namespace Reader

section

variable {spacing : Spacing} {level : Nat} {mayClose : Bool} {outer : List Frame}
  {rest : List Char}

/-- Where as many containers are open as may be, no array is opened. -/
theorem run_arr_full (h : ¬outer.length < maxDepth) (vs : List Json) :
    (Reader.value mayClose outer).run ((Json.arr vs).chars spacing level ++ rest) = none := by
  have hstep : step (.value mayClose outer) .openArray = none := if_neg h
  have htext : ∃ text, (Json.arr vs).chars spacing level ++ rest = '[' :: text := by
    cases vs <;> exact ⟨_, rfl⟩
  obtain ⟨text, htext⟩ := htext
  rw [htext, run_openArray, hstep]
  rfl

/-- Where as many containers are open as may be, no object is opened. -/
theorem run_obj_full (h : ¬outer.length < maxDepth) (es : List (String × Json)) :
    (Reader.value mayClose outer).run ((Json.obj es).chars spacing level ++ rest) = none := by
  have hstep : step (.value mayClose outer) .openObject = none := if_neg h
  have htext : ∃ text, (Json.obj es).chars spacing level ++ rest = '\x7b' :: text := by
    cases es with
    | nil => exact ⟨_, rfl⟩
    | cons e es => exact ⟨_, rfl⟩
  obtain ⟨text, htext⟩ := htext
  rw [htext, run_openObject, hstep]
  rfl

end

mutual

/-- The text of a value for which there is no room stops the machine. -/
theorem run_tooDeep (spacing : Spacing) : (v : Json) → v.Lawful (fun _ => False) →
    ∀ (level : Nat) (mayClose : Bool) (outer : List Frame) (rest : List Char),
      outer.length ≤ maxDepth → maxDepth < outer.length + v.depth →
      (Reader.value mayClose outer).run (v.chars spacing level ++ rest) = none
  | .arr [], _, _, _, outer, rest, _, hdepth => by
    simp only [Json.depth, itemsDepth] at hdepth
    exact run_arr_full (by omega) []
  | .arr (v :: vs), hv, level, _, outer, rest, hroom, hdepth => by
    obtain ⟨hfirst, hrest⟩ := List.forall_mem_cons.mp hv.items
    simp only [Json.depth, itemsDepth] at hdepth
    by_cases hopen : outer.length < maxDepth
    · rw [run_arr hopen]
      by_cases hdeep : maxDepth < outer.length + 1 + v.depth
      · exact run_tooDeep spacing v hfirst _ _ _ _ hopen hdeep
      · -- the machine gets past the first item, so another one is too deep
        rw [run_chars spacing v hfirst _ _ _ _ (by simp only [List.length_cons]; omega)
          (endsNumber_itemChars rfl spacing _ _ _ _)]
        exact run_tooDeep_items spacing vs hrest _ _ _ _ _ _ hopen (by omega)
    · exact run_arr_full hopen _
  | .obj [], _, _, _, outer, rest, _, hdepth => by
    simp only [Json.depth, entriesDepth] at hdepth
    exact run_obj_full (by omega) []
  | .obj ((k, v) :: es), hv, level, _, outer, rest, hroom, hdepth => by
    obtain ⟨hfirst, hrest⟩ := List.forall_mem_cons.mp hv.entries
    simp only [Json.depth, entriesDepth] at hdepth
    by_cases hopen : outer.length < maxDepth
    · rw [run_obj hopen]
      by_cases hdeep : maxDepth < outer.length + 1 + v.depth
      · exact run_tooDeep spacing v hfirst _ _ _ _ hopen hdeep
      · rw [run_chars spacing v hfirst _ _ _ _ (by simp only [List.length_cons]; omega)
          (endsNumber_entryChars rfl spacing _ _ _ _)]
        exact run_tooDeep_entries spacing es hrest _ _ _ _ _ _ _ hopen (by omega)
    · exact run_obj_full hopen _
  | .null, _, _, _, _, _, hroom, hdepth => by simp only [Json.depth] at hdepth; omega
  | .bool _, _, _, _, _, _, hroom, hdepth => by simp only [Json.depth] at hdepth; omega
  | .int _, _, _, _, _, _, hroom, hdepth => by simp only [Json.depth] at hdepth; omega
  | .float _, _, _, _, _, _, hroom, hdepth => by simp only [Json.depth] at hdepth; omega
  | .str _, _, _, _, _, _, hroom, hdepth => by simp only [Json.depth] at hdepth; omega

/-- Items after the first of which one is too deep. -/
theorem run_tooDeep_items (spacing : Spacing) : (vs : List Json) →
    (∀ v ∈ vs, v.Lawful fun _ => False) →
    ∀ (level outside : Nat) (v : Json) (items : List Json) (outer : List Frame)
      (rest : List Char), outer.length < maxDepth → maxDepth < outer.length + 1 + itemsDepth vs →
      (Reader.complete v (.array items :: outer)).run
        (itemChars spacing level vs ++ (spacing.lineBreak outside ++ ']' :: rest)) = none
  | [], _, _, _, _, _, _, _, hroom, hdepth => by simp only [itemsDepth] at hdepth; omega
  | w :: vs, hvs, level, outside, v, items, outer, rest, hroom, hdepth => by
    obtain ⟨hfirst, hrest⟩ := List.forall_mem_cons.mp hvs
    simp only [itemsDepth] at hdepth
    rw [run_nextItem]
    by_cases hdeep : maxDepth < outer.length + 1 + w.depth
    · exact run_tooDeep spacing w hfirst _ _ _ _ hroom hdeep
    · rw [run_chars spacing w hfirst _ _ _ _ (by simp only [List.length_cons]; omega)
        (endsNumber_itemChars rfl spacing _ _ _ _)]
      exact run_tooDeep_items spacing vs hrest _ _ _ _ _ _ hroom (by omega)

/-- Entries after the first of which the value of one is too deep. -/
theorem run_tooDeep_entries (spacing : Spacing) : (es : List (String × Json)) →
    (∀ e ∈ es, e.2.Lawful fun _ => False) →
    ∀ (level outside : Nat) (v : Json) (entries : Entries) (k : String) (outer : List Frame)
      (rest : List Char), outer.length < maxDepth →
      maxDepth < outer.length + 1 + entriesDepth es →
      (Reader.complete v (.object entries k :: outer)).run
        (entryChars spacing level es ++ (spacing.lineBreak outside ++ '\x7d' :: rest)) = none
  | [], _, _, _, _, _, _, _, _, hroom, hdepth => by simp only [entriesDepth] at hdepth; omega
  | (k', w) :: es, hes, level, outside, v, entries, k, outer, rest, hroom, hdepth => by
    obtain ⟨hfirst, hrest⟩ := List.forall_mem_cons.mp hes
    simp only [entriesDepth] at hdepth
    rw [run_nextEntry]
    by_cases hdeep : maxDepth < outer.length + 1 + w.depth
    · exact run_tooDeep spacing w hfirst _ _ _ _ hroom hdeep
    · rw [run_chars spacing w hfirst _ _ _ _ (by simp only [List.length_cons]; omega)
        (endsNumber_entryChars rfl spacing _ _ _ _)]
      exact run_tooDeep_entries spacing es hrest _ _ _ _ _ _ _ hroom (by omega)

end

end Reader

/-- A value without floats that nests deeper than the reader goes is not read back. -/
theorem Json.read?_write_of_deep {v : Json} (hv : v.Lawful fun _ => False)
    (hdepth : Reader.maxDepth < v.depth) (spacing : Spacing) :
    Json.read? (v.write spacing) = none := by
  have hrun := Reader.run_tooDeep spacing v hv 0 false [] [] (Nat.zero_le _) (by simpa using hdepth)
  unfold Json.read? Json.write
  rw [String.toList_ofList, ← List.append_nil (v.chars spacing 0), Reader.start, hrun]
  rfl

end JsonQuery
