import TermAudit.Console.Markup
import TermAudit.Console.Table
import TermAudit.Yaml.Fault

/-!
# `TermAudit.Command.Outcome`: what a run of the program shows

An `Outcome` is all that a run leaves behind: its output, what it says about errors, and its exit
code. What is shown on the console is written with style tags, and a `Console` puts it into lines
of its width without them. What cannot be shown ends the run as a crash.
-/

set_option autoImplicit false

namespace TermAudit

/-- The exit codes of the program. -/
inductive ExitCode where
  | clean
  /-- The model has findings, or the run crashed. -/
  | findings
  /-- The arguments, the configuration or the model are wrong. -/
  | misuse
deriving DecidableEq

/-- The number of an exit code. -/
def ExitCode.number : ExitCode → Nat
  | .clean => 0
  | .findings => 1
  | .misuse => 2

/-- What ends a run from inside. -/
inductive Crash where
  /-- A document has a fault that is no matter of models and configurations. -/
  | fault (fault : Yaml.Fault)
  /-- A message would show an integer that is too long to be written. -/
  | overlongInteger
  /-- An argument is a path that can name no file. -/
  | impossiblePath
  /-- The style tags of a line make no sense. -/
  | markup (error : Markup.MarkupError)
  /-- A line holds a surrogate, which no encoding can write. -/
  | unencodable
  /-- A text of the model cannot be reported. -/
  | unreportable
deriving DecidableEq

/-- The output of a run. -/
inductive Output where
  | text (t : Text)
  /-- A table, and lines below it. -/
  | table (t : TableLayout) (below : List Text)
deriving DecidableEq

/-- What a run of the program leaves behind. A crash stands for an error that escapes all handlers, which
ends the run with the exit code of findings. -/
structure Outcome where
  output : Output
  error : Option Text
  exitCode : ExitCode
  crash : Option Crash
deriving DecidableEq

/-- A console that shows lines of a number of cells. It is asked for its width only, as the output is not
to a terminal. -/
structure Console where
  width : Nat

namespace Outcome

/-- A run with output alone. -/
def ofText (exitCode : ExitCode) (t : Text) : Outcome :=
  ⟨.text t, none, exitCode, none⟩

/-- A run with wrong arguments. -/
def usage : Outcome :=
  ofText .misuse []

/-- A run that ends from inside. -/
def ofCrash (crash : Crash) : Outcome :=
  ⟨.text [], none, .findings, some crash⟩

/-- A run that ends with an error. -/
def ofError (message : Text) : Outcome :=
  ⟨.text [], some message, .misuse, none⟩

end Outcome

namespace Console

/-- The lines that show a text with style tags. -/
def lines (c : Console) (t : Text) : Except Crash (List Text) := do
  let lines := (← (Markup.read t).mapError .markup).wrapped .fold .plain c.width
  (lines.forM Markup.checkStyles).mapError .markup
  return lines.map Styled.text

/-- Refuses lines that no encoding can write. -/
def checkEncodable (lines : List Text) : Except Crash Unit :=
  if lines.any fun line => line.any CodePoint.isSurrogate then .error .unencodable else .ok ()

/-- The lines of output that show a text with style tags. -/
def outputLines (c : Console) (t : Text) : Except Crash (List Text) := do
  let lines ← c.lines t
  checkEncodable lines
  return lines

/-- A table whose texts have style tags, in lines. -/
def outputTable (c : Console) (t : ConsoleTable Text) : Except Crash TableLayout := do
  let styled ← (t.mapM Markup.read).mapError .markup
  let layout := styled.laidOut c.width
  let lines := layout.lines.texts.flatten
  (lines.forM Markup.checkStyles).mapError .markup
  checkEncodable (lines.map Styled.text)
  return layout

/-- Writes a surrogate as an escape. -/
def escapedSurrogate (c : CodePoint) : Text :=
  if c.isSurrogate then ("\\u" : Text) ++ Text.hex 4 c.val else [c]

/-- The end of a run with an error, told in a text with style tags. -/
def error (c : Console) (t : Text) : Outcome :=
  match c.lines t with
  | .ok lines => .ofError ((Text.joinWith "\n" lines).flatMap escapedSurrogate)
  | .error crash => .ofCrash crash

/-- The end of a run with a text with style tags as its output. -/
def text (c : Console) (exitCode : ExitCode) (t : Text) : Outcome :=
  match c.outputLines t with
  | .ok lines => .ofText exitCode (Text.joinWith "\n" lines ++ ("\n" : Text))
  | .error crash => .ofCrash crash

/-- The end of a run with a table and a text below it as its output. -/
def table (c : Console) (exitCode : ExitCode) (t : ConsoleTable Text) (below : List Text) :
    Outcome :=
  let shown : Except Crash Output := do
    return .table (← c.outputTable t) (← below.mapM c.outputLines).flatten
  match shown with
  | .ok output => ⟨output, none, exitCode, none⟩
  | .error crash => .ofCrash crash

end Console

end TermAudit
