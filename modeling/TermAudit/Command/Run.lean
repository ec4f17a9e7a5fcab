import TermAudit.Command.Options
import TermAudit.Command.Outcome
import TermAudit.Json
import TermAudit.Loading
import TermAudit.Validator

/-!
# `TermAudit.Command.Run`: what the program does

`Invocation.run` carries out an invocation, given what reading a file gives. The configuration is
judged before the model is read: first the options about terms, then the configuration file, then
whether both together make a table. Findings are the output of a run and make its exit code.
-/

set_option autoImplicit false

namespace TermAudit

/-- The version of the program. -/
def programVersion : Text := "0.1.0"

/-- A location as JSON; what is declared nowhere has none. -/
def Location.json (l : Location) : Json :=
  if l.isNowhere then .null
  else .object [("filename", .text l.file), ("line", .int l.line), ("column", .int l.column)]

/-- A diagnostic as JSON. -/
def Diagnostic.json (d : Diagnostic) : Json :=
  .object
    [("id", .text d.id),
     ("severity", .text d.severity.keyword),
     ("shapeId",
      match d.shape with
      | some id => .text id.shown
      | none => .null),
     ("sourceLocation", d.location.json),
     ("message", .text d.message)]

/-- A map of terms as JSON. -/
def TermMap.json (m : TermMap) : Json :=
  .object (m.entries.map fun (term, suggestions) => (term, .array (suggestions.map .text)))

/-- A configuration as JSON, in the form of a configuration document. -/
def TermsConfig.json (c : TermsConfig) : Json :=
  .object [(ConfigSection.append.key, c.append.json), (ConfigSection.replace.key, c.replace.json)]

namespace Command

/-- JSON as output. -/
def printed (exitCode : ExitCode) (j : Json) : Outcome :=
  .ofText exitCode (j.printed ++ ("\n" : Text))

/-- The end of a run whose configuration is wrong. -/
def refuseConfig (console : Console) : ConfigFailure → Outcome
  | .config error => console.error (("[red]Configuration error:[/red] " : Text) ++ error.message)
  | .fault fault => .ofCrash (.fault fault)
  | .overlongInteger => .ofCrash .overlongInteger
  | .impossiblePath => .ofCrash .impossiblePath

/-- The end of a run whose model is wrong. -/
def refuseModel (console : Console) : ReadError → Outcome
  | .model error => console.error (("[red]Model error:[/red] " : Text) ++ error.message)
  | .fault fault => .ofCrash (.fault fault)
  | .impossiblePath => .ofCrash .impossiblePath

/-- The terms in the values of an option, or the end of the run. -/
def optionTerms (option : Text) (values : List Text) : Except Outcome TermMap :=
  (TermOption.parseAll values).mapError fun value =>
    .ofError
      (("Error: Invalid value for " : Text) ++ option
        ++ (": expected TERM=suggestion[,suggestion...], got " : Text) ++ value.quoted)

/-- The configuration of a run: that of the options layered over that of the file. -/
def configuration (console : Console) (read : Text → FileContent) (o : TermOptions) :
    Except Outcome TermsConfig := do
  let append ← optionTerms "--append" o.append
  let replace ← optionTerms "--replace" o.replace
  let base ←
    match o.config with
    | none | some [] => pure TermsConfig.empty
    | some path =>
      (TermsConfig.ofContent path (read (Path.normalized path))).mapError (refuseConfig console)
  return base.merged ⟨append, replace⟩

/-- The table of a run. -/
def table (console : Console) (read : Text → FileContent) (o : TermOptions) :
    Except Outcome TermTable := do
  let config ← configuration console read o
  (config.table TermMap.builtIn).mapError fun error => refuseConfig console (.config (.table error))

/-- The color of a severity. -/
def color : Severity → Text
  | .error | .danger => "red"
  | .warning => "yellow"
  | .note => "blue"

/-- A diagnostic as a row of a table. -/
def diagnosticRow (d : Diagnostic) : List Text :=
  let tag := color d.severity
  [("[" : Text) ++ tag ++ ("]" : Text) ++ d.severity.keyword ++ ("[/" : Text) ++ tag
    ++ ("]" : Text),
   match d.shape with
   | some id => id.shown
   | none => "-",
   if d.location.isNowhere then "-"
   else Text.ofInt d.location.line ++ (":" : Text) ++ Text.ofInt d.location.column,
   d.message]

/-- The columns of a table of diagnostics: their headings and least widths. -/
def diagnosticColumns : List (Text × Nat) :=
  [("Severity", 8), ("Shape", 10), ("Location", 8), ("Message", 0)]

/-- Diagnostics as a table. -/
def diagnosticTable (model : Text) (ds : List Diagnostic) : ConsoleTable Text :=
  .ofRows (("Validation: " : Text) ++ model) diagnosticColumns (ds.map diagnosticRow) true

/-- What stands below a table of diagnostics. -/
def diagnosticSummary (ds : List Diagnostic) : Text :=
  ("\n[bold]Summary:[/bold] " : Text) ++ Text.ofNat ds.length ++ (" warning(s)" : Text)

/-- The end of a run with findings, or without any. -/
def report (console : Console) (model : Text) (format : OutputFormat) (ds : List Diagnostic) :
    Outcome :=
  let exitCode : ExitCode := if ds.isEmpty then .clean else .findings
  match format with
  | .json => printed exitCode (.array (ds.map Diagnostic.json))
  | .table =>
    if ds.isEmpty then
      console.text exitCode
        (("[green]OK[/green] " : Text) ++ model ++ (" — no non-inclusive terms found" : Text))
    else console.table exitCode (diagnosticTable model ds) [diagnosticSummary ds]

/-- The end of a run over a model that cannot be checked. -/
def refuseCheck : CheckError → Outcome
  | .unreportable _ => .ofCrash .unreportable
  | .overlongInteger => .ofCrash .overlongInteger

/-- Looks for terms in a model. -/
def findings (console : Console) (read : Text → FileContent) (model : Text) (o : TermOptions)
    (format : OutputFormat) : Except Outcome Outcome := do
  let table ← table console read o
  let m ← (Model.ofContent model (read (Path.normalized model))).mapError (refuseModel console)
  let diagnostics ← (table.checkWritable m).mapError refuseCheck
  return report console model format diagnostics

/-- The terms of a table, as a table for the console. -/
def termsTable (t : TermTable) : ConsoleTable Text :=
  let row (entry : Text × List Text) : List Text :=
    let listed := Text.joinWith ", " entry.2
    [entry.1, if listed.isEmpty then "[dim](none)[/dim]" else listed]
  .ofRows "Non-inclusive terms" [("Term", 0), ("Suggestions", 0)] (t.terms.entries.map row) false

/-- Shows the terms that are looked for. -/
def listTerms (console : Console) (read : Text → FileContent) (o : TermOptions)
    (format : OutputFormat) : Except Outcome Outcome := do
  let table ← table console read o
  match format with
  | .json => return printed .clean (TermsConfig.mk ∅ table.terms).json
  | .table => return console.table .clean (termsTable table) []

/-- Shows the names of the registered validators. -/
def listValidators (names : List Text) : Outcome :=
  let lines := names.map fun name => ("  " : Text) ++ name ++ ("\n" : Text)
  .ofText .clean (("Registered validators:\n" : Text) ++ lines.flatten)

end Command

namespace Invocation

open Command

/-- Carries out an invocation. -/
def run (console : Console) (read : Text → FileContent) : Invocation → Outcome
  | .validate model o format =>
    match findings console read model o format with
    | .ok outcome => outcome
    | .error outcome => outcome
  | .terms o format =>
    match listTerms console read o format with
    | .ok outcome => outcome
    | .error outcome => outcome
  | .validators => listValidators Registry.standard.names
  | .version => .ofText .clean (("termlint  v" : Text) ++ programVersion ++ ("\n" : Text))

/-- Runs the program with arguments. -/
def runArguments (console : Console) (read : Text → FileContent) (arguments : List Text) :
    Outcome :=
  match parse (Path.isDirectory read) arguments with
  | .error .usage => .usage
  | .error .impossiblePath => .ofCrash .impossiblePath
  | .ok invocation => invocation.run console read

end Invocation

end TermAudit
