/-
  JsonQuery.Shell.Session
  ───────────────────────
  Results as lines of output, and conversations about one document.  Every line is a query
  on the document as it was loaded, whatever the lines before it did; the line `exit` ends
  the conversation.
-/
import JsonQuery.Eval
import JsonQuery.Json.Writer

namespace JsonQuery

/-! ## §1. Results as lines of output. -/

/-- How results are shown. -/
structure Display where
  /-- Show containers with one line per item. -/
  pretty : Bool
  /-- Show the items of a list one after another. -/
  split : Bool

namespace Display

/-- The spacing of containers. -/
def spacing (d : Display) : Spacing := if d.pretty then .indented else .compact

/-- The text of one value: JSON, but strings without quotes. -/
def render (d : Display) : Json → String
  | .null => "null"
  | .str s => s
  | v => v.write d.spacing

/-- The texts that are shown for a result. -/
def renderLines (d : Display) : Json → List String
  | .arr items => if d.split then items.map d.render else [d.render (.arr items)]
  | v => [d.render v]

/-- The output for a result: each text ends a line. -/
def output (d : Display) (v : Json) : String := String.join ((d.renderLines v).map (· ++ "\n"))

end Display

/-! ## §2. Conversations. -/

/-- What a conversation is about and how it answers. -/
structure Session where
  document : Json
  registry : Registry
  display : Display

/-- Text for the two channels of output. -/
structure Reply where
  out : String
  err : String

namespace Session

/-- What is shown before a line is read. -/
def prompt : String := "Enter query:"

/-- The line that ends a conversation. -/
def exitLine : String := "exit"

/-- A line without the marks of its end. -/
def trimLine (line : String) : String :=
  String.ofList (line.toList.reverse.dropWhile fun c => c == '\r' || c == '\n').reverse

/-- The lines of a text. What follows the last line feed is a line if there is anything. -/
def linesOf (text : String) : List String :=
  let lines := (text.toList.splitOn '\n').map String.ofList
  if lines.getLast? = some "" then lines.dropLast else lines

/-- The answer to one query. -/
def answer (s : Session) (query : String) : Reply :=
  match runText s.registry query s.document with
  | .ok v => ⟨"\n" ++ s.display.output v, ""⟩
  | .error e => ⟨"\n", e.message ++ "\n"⟩

/-- The answer to one line, unless the line ends the conversation. -/
def reply? (s : Session) (line : String) : Option Reply :=
  let query := trimLine line
  if query = exitLine then none else some (s.answer query)

/-- Everything that is written in a conversation with the given lines. -/
def transcript (s : Session) : List String → Reply
  | [] => ⟨prompt ++ "\n", ""⟩
  | line :: rest =>
    match s.reply? line with
    | none => ⟨prompt ++ "\n", ""⟩
    | some reply =>
      let more := s.transcript rest
      ⟨prompt ++ reply.out ++ more.out, reply.err ++ more.err⟩

end Session

end JsonQuery
