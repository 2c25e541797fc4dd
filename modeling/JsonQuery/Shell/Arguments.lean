/-
  JsonQuery.Shell.Arguments
  ─────────────────────────
  The arguments of the command line.

  Short options may share a dash, and an option with a value takes the rest of its
  argument or the next argument, which must not look like an option.  No option may
  come twice, there is at most one query, and everything behind `--` is no option.
-/

namespace JsonQuery

/-- What the command line asks for. -/
structure Options where
  query : Option String := none
  infile : Option String := none
  outfile : Option String := none
  split : Bool := false
  pretty : Bool := false
  interactive : Bool := false
  listFunctions : Bool := false

/-- Why nothing is run. -/
inductive Refusal where
  /-- The version is shown instead. -/
  | version
  /-- The help is shown instead. -/
  | help
  /-- The arguments are not understood. -/
  | usage (argument : String)

namespace Options

/-! ## §1. Single options. -/

/-- The options that stand alone. -/
inductive Flag where
  | split | pretty | interactive | listFunctions | version | help

/-- The options with a value. -/
inductive Setting where
  | infile | outfile

/-- A flag or a setting. -/
inductive Switch where
  | flag (f : Flag)
  | setting (s : Setting)

/-- The option behind a single dash. -/
def ofShort : Char → Option Switch
  | 'f' => some (.setting .infile)
  | 'o' => some (.setting .outfile)
  | 's' => some (.flag .split)
  | 'p' => some (.flag .pretty)
  | 'i' => some (.flag .interactive)
  | 'V' => some (.flag .version)
  | 'h' => some (.flag .help)
  | _ => none

/-- The option behind two dashes. -/
def ofLong : String → Option Switch
  | "infile" => some (.setting .infile)
  | "outfile" => some (.setting .outfile)
  | "splitlist" => some (.flag .split)
  | "pretty" => some (.flag .pretty)
  | "interactive" => some (.flag .interactive)
  | "list-functions" => some (.flag .listFunctions)
  | "version" => some (.flag .version)
  | "help" => some (.flag .help)
  | _ => none

/-- The options with a flag set that is not set yet. -/
def setFlag (o : Options) (argument : String) : Flag → Except Refusal Options
  | .version => .error .version
  | .help => .error .help
  | .split => if o.split then .error (.usage argument) else .ok { o with split := true }
  | .pretty => if o.pretty then .error (.usage argument) else .ok { o with pretty := true }
  | .interactive =>
    if o.interactive then .error (.usage argument) else .ok { o with interactive := true }
  | .listFunctions =>
    if o.listFunctions then .error (.usage argument) else .ok { o with listFunctions := true }

/-- The options with a value that is not set yet and not empty. -/
def setValue (o : Options) (argument : String) (setting : Setting) (value : String) :
    Except Refusal Options :=
  if value.isEmpty then .error (.usage argument)
  else
    match setting with
    | .infile =>
      if o.infile.isSome then .error (.usage argument) else .ok { o with infile := value }
    | .outfile =>
      if o.outfile.isSome then .error (.usage argument) else .ok { o with outfile := value }

/-! ## §2. Whole arguments. -/

/-- Whether an argument cannot be the value of the option before it. -/
def looksLikeOption (argument : String) : Bool := argument.startsWith "-" && argument != "-"

/-- The options after the letters behind a single dash, and the setting that still lacks its
value. -/
def readShorts (o : Options) (argument : String) :
    List Char → Except Refusal (Options × Option Setting)
  | [] => .ok (o, none)
  | letter :: rest =>
    match ofShort letter with
    | none => .error (.usage argument)
    | some (.flag f) => do readShorts (← o.setFlag argument f) argument rest
    | some (.setting s) =>
      -- the rest of the argument is the value, with or without an equals sign
      match rest with
      | [] => .ok (o, some s)
      | '=' :: value => do return (← o.setValue argument s (String.ofList value), none)
      | value => do return (← o.setValue argument s (String.ofList value), none)

/-- The options after the name behind two dashes, with its value if it is joined to it, and the
setting that still lacks its value. -/
def readLong (o : Options) (argument : String) (name : String) (value : Option String) :
    Except Refusal (Options × Option Setting) :=
  match ofLong name, value with
  | none, _ => .error (.usage argument)
  | some (.flag f), none => do return (← o.setFlag argument f, none)
  | some (.flag _), some _ => .error (.usage argument)
  | some (.setting s), none => .ok (o, some s)
  | some (.setting s), some v => do return (← o.setValue argument s v, none)

/-- The options with the query. -/
def setQuery (o : Options) (query : String) : Except Refusal Options :=
  if o.query.isSome then .error (.usage query) else .ok { o with query := query }

/-- The options after one more argument. -/
def readArgument (o : Options) (argument : String) : Except Refusal (Options × Option Setting) :=
  if !looksLikeOption argument then do return (← o.setQuery argument, none)
  else if argument.startsWith "--" then
    let body := argument.toList.drop 2
    let name := body.takeWhile (· != '=')
    let value := body.drop name.length
    o.readLong argument (String.ofList name)
      (if value.isEmpty then none else some (String.ofList (value.drop 1)))
  else o.readShorts argument (argument.toList.drop 1)

/-- The options after all arguments, where a setting may wait for its value. -/
def readAll (o : Options) (waiting : Option Setting) : List String → Except Refusal Options
  | [] => if waiting.isSome then .error (.usage "") else .ok o
  | argument :: rest =>
    match waiting with
    | some s =>
      if looksLikeOption argument then .error (.usage argument)
      else do readAll (← o.setValue argument s argument) none rest
    | none =>
      if argument = "--" then rest.foldlM setQuery o
      else do
        let (o, waiting) ← o.readArgument argument
        readAll o waiting rest

/-- The options that the arguments write. -/
def ofArguments (arguments : List String) : Except Refusal Options := readAll {} none arguments

end Options

end JsonQuery
