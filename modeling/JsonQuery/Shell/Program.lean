/-
  JsonQuery.Shell.Program
  ───────────────────────
  What the program does, as a function of its arguments and its input.  The outer layer
  reads the input that `Options.source` names, hands it to `Options.respond`, and carries
  the response out.
-/
import JsonQuery.Function.Standard
import JsonQuery.Shell.Arguments
import JsonQuery.Shell.Session

namespace JsonQuery

/-! ## §1. Errors. -/

/-- Why a run fails. -/
inductive ShellError where
  | query (e : QueryError)
  /-- The input is not JSON. -/
  | json
  /-- A file, or the directory of a new file, does not exist. -/
  | noFile
  | noInput
  | interactiveNeedsFile

/-- The wording of an error. -/
def ShellError.message : ShellError → String
  | .query e => e.message
  | .json => "Error loading json file"
  | .noFile => "IO error: No such file or directory (os error 2)"
  | .noInput => "No input provided. Use --infile or pipe JSON to stdin."
  | .interactiveNeedsFile => "Interactive mode reads the document from --infile"

/-! ## §2. A single run. -/

/-- The document that a text holds. -/
def loadDocument (text : String) : Except ShellError Json :=
  match Json.read? text with
  | some v => .ok v
  | none => .error .json

/-- The result of a query on an input. A fault of the query is found before one of the input. -/
def execute (r : Registry) (query : String) (input : Option String) : Except ShellError Json := do
  match input with
  | none => throw .noInput
  | some text =>
    let q ← (Query.parse query).mapError fun e => .query (.parse e)
    let document ← loadDocument text
    (q.run r document).mapError .query

/-! ## §3. The program. -/

/-- The name and version of the program. -/
def versionLine : String := "jpio 0.3.0\n"

/-- The help of the program. -/
def helpText : String := String.intercalate "\n"
  ["jpio - query and transform JSON documents in place",
   "",
   "Usage: jpio [OPTIONS] [QUERY]",
   "",
   "Arguments:",
   "  [QUERY]  The query to execute (defaults to returning the document) [default: ]",
   "",
   "Options:",
   "  -f, --infile <INFILE>    Read data from a file instead of stdin",
   "  -o, --outfile <OUTFILE>  Write output to a file instead of stdout",
   "  -s, --splitlist          Print each element of a list result on its own line",
   "  -p, --pretty             Pretty-print JSON output",
   "  -i, --interactive        Read queries from stdin against the document in --infile",
   "      --list-functions     List the available functions",
   "  -h, --help               Print help",
   "  -V, --version            Print version",
   ""]

/-- Where the input comes from. -/
inductive Source where
  | nothing
  | file (path : String)
  | standardInput

/-- What a source gave. -/
inductive Input where
  | absent
  | missingFile
  | text (s : String)

/-- What is left to do. -/
inductive Response where
  /-- Print a text and succeed. -/
  | print (out : String)
  /-- Write a text to a file and succeed. -/
  | save (path : String) (text : String)
  /-- Print a text and hold a conversation. -/
  | converse (out : String) (session : Session)
  /-- Print a text, report an error and fail. -/
  | fail (out : String) (e : ShellError)

namespace Options

/-- How the results of a run are shown. -/
def display (o : Options) : Display := ⟨o.pretty, o.split⟩

/-- Where the input of a run comes from. A conversation needs the standard input for itself. -/
def source (o : Options) : Source :=
  if o.listFunctions then .nothing
  else
    match o.infile with
    | some path => .file path
    | none => if o.interactive then .nothing else .standardInput

/-- The response to the input of a conversation. -/
def respondInteractive (o : Options) (input : Input) : Response :=
  match input with
  | .text s =>
    let greeting := "Loading file ... \n"
    match loadDocument s with
    | .ok document => .converse greeting ⟨document, .standard, o.display⟩
    | .error e => .fail greeting e
  | _ => .fail "" .interactiveNeedsFile

/-- The response to the input of a single run. -/
def respondOnce (o : Options) (input : Option String) : Response :=
  match execute .standard (o.query.getD "") input with
  | .error e => .fail "" e
  | .ok v =>
    match o.outfile with
    | some path => .save path (o.display.output v)
    | none => .print (o.display.output v)

/-- The response to the input that the source gave. -/
def respond (o : Options) (input : Input) : Response :=
  if o.listFunctions then .print Registry.standard.listing
  else
    match input with
    | .missingFile => .fail "" .noFile
    | .absent => if o.interactive then o.respondInteractive .absent else o.respondOnce none
    | .text s => if o.interactive then o.respondInteractive (.text s) else o.respondOnce (some s)

end Options

end JsonQuery
