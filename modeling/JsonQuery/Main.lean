/-
  JsonQuery.Main
  ──────────────
  The command line: reads the input that the options name, and carries out the response.
  What the program does is decided in `JsonQuery.Shell.Program`.
-/
import JsonQuery.Shell.Program

namespace JsonQuery

/-- Read the input from where it comes. A terminal gives no input. -/
def Source.read : Source → IO Input
  | .nothing => return .absent
  | .file path => do
    try return .text (← IO.FS.readFile path)
    catch e =>
      match e with
      | .noFileOrDirectory .. => return .missingFile
      | e => throw e
  | .standardInput => do
    let input ← IO.getStdin
    if ← input.isTty then return .absent else return .text (← input.readToEnd)

/-- Hold a conversation: prompt, read a line and answer it until the lines end. -/
partial def Session.converse (s : Session) (input output errors : IO.FS.Stream) : IO Unit := do
  output.putStr prompt
  output.flush
  let line ← input.getLine
  match if line.isEmpty then none else s.reply? line with
  | none => output.putStr "\n"
  | some reply =>
    output.putStr reply.out
    errors.putStr reply.err
    s.converse input output errors

/-- Report an error behind the text that was printed before it. -/
def reportFailure (out : String) (e : ShellError) : IO UInt32 := do
  IO.print out
  IO.eprintln e.message
  return 1

/-- Carry out a response; the result is the exit status. -/
def Response.perform : Response → IO UInt32
  | .print out => do
    IO.print out
    return 0
  | .save path text => do
    try
      IO.FS.writeFile path text
      return 0
    catch e =>
      match e with
      | .noFileOrDirectory .. => reportFailure "" .noFile
      | e => throw e
  | .converse out session => do
    IO.print out
    session.converse (← IO.getStdin) (← IO.getStdout) (← IO.getStderr)
    return 0
  | .fail out e => reportFailure out e

/-- Explain why nothing is run; the result is the exit status. -/
def Refusal.perform : Refusal → IO UInt32
  | .version => do
    IO.print versionLine
    return 0
  | .help => do
    IO.print helpText
    return 0
  | .usage argument => do
    IO.eprintln ("error: unexpected argument or missing value: " ++ argument)
    IO.eprintln "For more information, try '--help'."
    return 2

end JsonQuery

/-- Run the program with its arguments. -/
def main (arguments : List String) : IO UInt32 := do
  match JsonQuery.Options.ofArguments arguments with
  | .error refusal => refusal.perform
  | .ok options => (options.respond (← options.source.read)).perform
