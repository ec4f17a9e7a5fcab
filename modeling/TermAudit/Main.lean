import TermAudit.Command.Run

/-!
# `TermAudit.Main`: the program

The program reads its arguments and the files that they name, and prints what
`Invocation.runArguments` makes of them. Files are read before the run, so the run itself is a
function of their contents.
-/

set_option autoImplicit false

namespace TermAudit

/-- A text for printing; what cannot be printed becomes U+FFFD. -/
def Text.printable (t : Text) : String :=
  String.ofList t.characters

/-- The failure that the system reports. -/
def FileFailure.ofSystem : IO.Error → FileFailure
  | .noFileOrDirectory .. => .missing
  | .inappropriateType .. => .isDirectory
  | error => .other 5 (Text.ofString (toString error))

/-- The files that an invocation names. -/
def Invocation.files : Invocation → List Text
  | .validate model o _ => model :: o.config.toList
  | .terms o _ => o.config.toList
  | .validators | .version => []

/-- What reading a file gives. -/
def readContent (path : Text) : IO FileContent := do
  try
    let octets ← IO.FS.readBinFile path.printable
    return .ok octets.toList
  catch error => return .error (.ofSystem error)

/-- Prints what a run leaves behind and gives its exit code. -/
def Outcome.print (o : Outcome) : IO UInt32 := do
  match o.output with
  | .text t => IO.print t.printable
  | .table t below => (t.drawn ++ below).forM fun line => IO.println line.printable
  match o.error with
  | some message => IO.eprintln message.printable
  | none =>
    if o.crash.isSome then IO.eprintln "The input cannot be processed."
    else if o.exitCode = .misuse then
      IO.eprintln "Usage: termlint [OPTIONS] (validate MODEL_FILE | terms | validators | version)"
  return o.exitCode.number.toUInt32

/-- The width of the console that the environment tells, or 80 cells. -/
def Console.ofEnvironment : IO Console := do
  let told := (← IO.getEnv "COLUMNS").bind String.toNat?
  return ⟨told.getD 80⟩

end TermAudit

open TermAudit in
/-- Runs the program. -/
def main (arguments : List String) : IO UInt32 := do
  let console ← Console.ofEnvironment
  let arguments := arguments.map Text.ofString
  let asked := Invocation.parse (fun _ => false) arguments
  let paths := asked.toOption.toList.flatMap fun i => i.files.map Path.normalized
  let contents ← paths.mapM fun path => return (path, ← readContent path)
  let read (path : Text) : FileContent := (contents.lookup path).getD (.error .missing)
  (Invocation.runArguments console read arguments).print
