/-
  JsonQuery.Proofs.Shell.Program
  ──────────────────────────────
  What the program reads and writes.

  A document without floats is loaded as it was printed.  A conversation is a sequence of
  single runs: what a line is answered depends on the line and the document only, never
  on the lines before it.
-/
import JsonQuery.Proofs.Json.RoundTrip
import JsonQuery.Shell.Program

namespace JsonQuery

/-! ## §1. Loading what was printed. -/

theorem loadDocument_write {v : Json} (hv : v.Lawful fun _ => False) (spacing : Spacing) :
    loadDocument (v.write spacing)
      = if v.depth ≤ Reader.maxDepth then .ok v else .error .json := by
  unfold loadDocument
  by_cases hdepth : v.depth ≤ Reader.maxDepth
  · rw [if_pos hdepth, Json.read?_write hv hdepth]
  · rw [if_neg hdepth, Json.read?_write_of_deep hv (Nat.lt_of_not_le hdepth)]

/-- A value without floats whose objects have distinct keys is loaded from its text, in one line or
in several, as it was before, if at most 127 containers are open at once in it; else it is not
loaded. -/
theorem loadDocument_printed (v : Json) (hv : v.Lawful fun _ => False) :
    (v.depth ≤ 127 → loadDocument v.compact = .ok v ∧ loadDocument v.pretty = .ok v)
      ∧ (127 < v.depth →
        loadDocument v.compact = .error .json ∧ loadDocument v.pretty = .error .json) := by
  have hwrite := loadDocument_write hv
  constructor
  · intro hdepth
    have hload : ∀ spacing, loadDocument (v.write spacing) = .ok v :=
      fun spacing => (hwrite spacing).trans (if_pos hdepth)
    exact ⟨hload .compact, hload .indented⟩
  · intro hdepth
    have hload : ∀ spacing, loadDocument (v.write spacing) = .error .json :=
      fun spacing => (hwrite spacing).trans (if_neg (Nat.not_le_of_lt hdepth))
    exact ⟨hload .compact, hload .indented⟩

/-- Both ends of the integers, empty containers, and a string and a key of characters that are
written in every way. -/
theorem loadDocument_printed_mixed :
    let v : Json := .obj [("z\n", .arr [.int Int64.minValue, .int Int64.maxValue, .arr []]),
      ("a", .str "\x00\"\\\t\x1f\x7fé𝄞"), ("", .obj [("b", .null), ("c", .bool false)])]
    v.Lawful (fun _ => False) ∧ v.depth ≤ 127
      ∧ loadDocument v.compact = .ok v ∧ loadDocument v.pretty = .ok v := by
  intro v
  have hv : v.Lawful fun _ => False := by
    refine .obj (by decide) ?_
    simp only [List.forall_mem_cons]
    refine ⟨.arr ?_, .str _, .obj (by decide) ?_, List.forall_mem_nil _⟩
    · simp only [List.forall_mem_cons]
      exact ⟨.int _, .int _, .arr (List.forall_mem_nil _), List.forall_mem_nil _⟩
    · simp only [List.forall_mem_cons]
      exact ⟨.null, .bool _, List.forall_mem_nil _⟩
  have hdepth : v.depth ≤ 127 := by decide
  exact ⟨hv, hdepth, (loadDocument_printed v hv).1 hdepth⟩

/-! ## §2. The lines of a text. -/

namespace Session

/-- A text of lines that each end, and of what follows them. -/
def scriptOf (lines : List String) (last : String) : String :=
  String.join (lines.map (· ++ "\n")) ++ last

/-- The lines that are read from such a text: what follows is one if there is anything. -/
def linesRead (lines : List String) (last : String) : List String :=
  if last = "" then lines else lines ++ [last]

/-- A line without carriage returns at its end. -/
def withoutReturns (line : String) : String :=
  String.ofList (line.toList.reverse.dropWhile (· == '\r')).reverse

theorem toList_scriptOf (lines : List String) (last : String) :
    (scriptOf lines last).toList = ['\n'].intercalate ((lines ++ [last]).map String.toList) := by
  unfold scriptOf
  induction lines with
  | nil =>
    rw [List.map_nil, String.join_nil, String.empty_append]
    exact (List.intercalate_singleton).symm
  | cons line lines ih =>
    have hne : (lines ++ [last]).map String.toList ≠ [] := by
      rw [ne_eq, List.map_eq_nil_iff]
      exact List.append_ne_nil_of_right_ne_nil _ (List.cons_ne_nil _ _)
    -- a line that others follow ends with the separator
    rw [List.map_cons, String.join_cons, String.append_assoc, String.append_assoc,
      String.toList_append, String.toList_append, ih, List.cons_append, List.map_cons,
      List.intercalate_cons_of_ne_nil hne, List.append_assoc]
    rfl

/-- A text is read line by line. -/
theorem linesOf_scriptOf {lines : List String} {last : String}
    (hlines : ∀ line ∈ lines, '\n' ∉ line.toList) (hlast : '\n' ∉ last.toList) :
    linesOf (scriptOf lines last) = linesRead lines last := by
  have hsplit : ((scriptOf lines last).toList.splitOn '\n').map String.ofList
      = lines ++ [last] := by
    have hno : ∀ chars ∈ (lines ++ [last]).map String.toList, '\n' ∉ chars := by
      rw [List.forall_mem_map, List.forall_mem_append]
      exact ⟨hlines, List.forall_mem_singleton.mpr hlast⟩
    -- no line holds the separator, so splitting takes the lines apart again
    rw [toList_scriptOf, List.splitOn_intercalate _ hno (by simp), List.map_map]
    refine (List.map_congr_left fun line _ => ?_).trans (List.map_id _)
    exact String.ofList_toList
  unfold linesOf linesRead
  dsimp only
  rw [hsplit, List.getLast?_concat, List.dropLast_concat]
  simp only [Option.some.injEq]

theorem trimLine_eq {line : String} (h : '\n' ∉ line.toList) :
    trimLine line = withoutReturns line := by
  have hdrop : ∀ chars : List Char, '\n' ∉ chars →
      (chars.dropWhile fun c => c == '\r' || c == '\n') = chars.dropWhile (· == '\r') := by
    intro chars
    induction chars with
    | nil => exact fun _ => rfl
    | cons c chars ih =>
      intro h
      obtain ⟨hc, hchars⟩ := not_or.mp (mt List.mem_cons.mpr h)
      have hline : (c == '\n') = false := beq_false_of_ne (Ne.symm hc)
      simp only [List.dropWhile_cons, hline, Bool.or_false, ih hchars]
  unfold trimLine withoutReturns
  rw [hdrop _ fun hmem => h (List.mem_reverse.mp hmem)]

/-! ## §3. Conversations. -/

/-- What a query shows: the lines of its result, if it has one. -/
def shown (s : Session) (query : String) : String :=
  match runText s.registry query s.document with
  | .ok v => String.join ((s.display.renderLines v).map (· ++ "\n"))
  | .error _ => ""

/-- What a query reports: its failure, if it fails. -/
def reported (s : Session) (query : String) : String :=
  match runText s.registry query s.document with
  | .ok _ => ""
  | .error e => e.message ++ "\n"

theorem answer_eq (s : Session) (query : String) :
    s.answer query = ⟨"\n" ++ s.shown query, s.reported query⟩ := by
  unfold answer shown reported
  cases runText s.registry query s.document with
  | ok v => rfl
  | error e => rw [String.append_empty]

/-- One line of a conversation: it ends it, or it is answered before the others are. -/
theorem transcript_cons (s : Session) (line : String) (rest : List String) :
    s.transcript (line :: rest)
      = if trimLine line = exitLine then ⟨prompt ++ "\n", ""⟩
        else ⟨prompt ++ "\n" ++ s.shown (trimLine line) ++ (s.transcript rest).out,
          s.reported (trimLine line) ++ (s.transcript rest).err⟩ := by
  rw [transcript]
  unfold reply?
  by_cases h : trimLine line = exitLine
  · rw [if_pos h, if_pos h]
  · rw [if_neg h, if_neg h, answer_eq]
    simp only [String.append_assoc]

/-- A conversation is made of the answers to its lines up to the one that ends it. -/
theorem transcript_eq (s : Session) (lines : List String) :
    s.transcript lines
      = let queries := (lines.map trimLine).takeWhile (· != exitLine)
        ⟨String.join (queries.map fun query => prompt ++ "\n" ++ s.shown query) ++ prompt ++ "\n",
          String.join (queries.map s.reported)⟩ := by
  induction lines with
  | nil => rfl
  | cons line lines ih =>
    rw [transcript_cons, ih, List.map_cons, List.takeWhile_cons]
    by_cases h : trimLine line = exitLine
    · -- the lines behind this one are not looked at
      rw [if_pos h, if_neg (by simp [h])]
      rfl
    · rw [if_neg h, if_pos (by simp [h])]
      dsimp only
      rw [List.map_cons, List.map_cons, String.join_cons, String.join_cons]
      simp only [String.append_assoc]

end Session

theorem execute_eq_runText {r : Registry} {text : String} {document : Json}
    (h : loadDocument text = .ok document) (query : String) :
    execute r query (some text) = (runText r query document).mapError .query := by
  unfold execute runText
  cases Query.parse query with
  | error e => rfl
  | ok q =>
    dsimp only
    rw [h]
    rfl

end JsonQuery
