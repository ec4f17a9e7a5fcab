import TermAudit.Files
import TermAudit.Terms.Config
import TermAudit.Text.Blank
import TermAudit.Text.Folding

/-!
# `TermAudit.Command.Options`: the command line

`Invocation.parse` reads the arguments of the program. An option's value is the next argument,
whatever it looks like, or follows the option's name behind `=`; a short option can have it right
behind its letter. Behind `--` there are only arguments. Whatever does not fit is a usage error.
First the shape of the command line is judged, then the values of the options in the order in which
the options first come, and then the arguments.

`TermOption.parse` reads the value of an option that configures a term.
-/

set_option autoImplicit false

namespace TermAudit

/-- The forms of output. -/
inductive OutputFormat where
  | table
  | json
deriving DecidableEq

/-- The options about terms. -/
structure TermOptions where
  config : Option Text
  append : List Text
  replace : List Text
deriving DecidableEq

/-- Why the arguments ask for nothing. Such a run ends before any document is read. -/
inductive Refusal where
  /-- They do not fit the command line. -/
  | usage
  /-- One is a path that can name no file. -/
  | impossiblePath
deriving DecidableEq

/-- What the program is asked to do. -/
inductive Invocation where
  | validate (model : Text) (terms : TermOptions) (format : OutputFormat)
  | terms (terms : TermOptions) (format : OutputFormat)
  | validators
  | version
deriving DecidableEq

namespace Command

/-- An option: its names, and whether it has a value. -/
structure OptionSpec where
  key : String
  long : String
  short : Option Char
  hasValue : Bool

/-- The options in front of the command. -/
def globalOptions : List OptionSpec :=
  [⟨"verbose", "--verbose", some 'v', false⟩]

/-- The options of commands about terms. -/
def termOptions : List OptionSpec :=
  [⟨"config", "--config", some 'c', true⟩, ⟨"append", "--append", none, true⟩,
   ⟨"replace", "--replace", none, true⟩, ⟨"format", "--format", none, true⟩]

/-- Arguments taken apart: the options with their values in order, and the rest. -/
structure Parsed where
  options : List (String × Text)
  positional : List Text

/-- Adds an option in front. -/
def Parsed.withOption (p : Parsed) (key : String) (value : Text) : Parsed :=
  { p with options := (key, value) :: p.options }

/-- Whether the argument looks like an option. -/
def isOptionLike (a : Text) : Bool :=
  match a with
  | c :: _ :: _ => c = '-'
  | _ => false

/-- The letters of a group of short options: the options among them, and a value that is left over
for the last. A value that follows in the next argument is not there. -/
def shortGroup (specs : List OptionSpec) :
    Text → Option (List (String × Text) × Option (String × Option Text))
  | [] => some ([], none)
  | letter :: rest =>
    match specs.find? fun s => s.short.any fun c => CodePoint.ofChar c = letter with
    | none => none
    | some spec =>
      if spec.hasValue then
        some ([], some (spec.key, if rest.isEmpty then none else some rest))
      else
        (shortGroup specs rest).map fun (flags, last) => ((spec.key, []) :: flags, last)

/-- The options that one argument holds, and perhaps one whose value comes next. -/
def optionArgument (specs : List OptionSpec) (a : Text) :
    Option (List (String × Text) × Option (String × Option Text)) :=
  let (name, value) := a.splitFirst '='
  match specs.find? fun s => Text.ofString s.long = name with
  | some spec =>
    if spec.hasValue then some ([], some (spec.key, value))
    else if value.isSome then none
    else some ([(spec.key, [])], none)
  | none => if a.beginsWith "--" then none else shortGroup specs (a.drop 1)

/-- Takes arguments apart. Without `interspersed` the first one that is no option ends the options, so
that a command keeps its own options for itself. -/
def takeApart (specs : List OptionSpec) (interspersed : Bool) : List Text → Option Parsed
  | [] => some ⟨[], []⟩
  | a :: rest =>
    if a = Text.ofString "--" then some ⟨[], rest⟩
    else if isOptionLike a then
      match optionArgument specs a with
      | none => none
      | some (flags, last) =>
        let withFlags (p : Parsed) : Parsed := { p with options := flags ++ p.options }
        match last with
        | none => (takeApart specs interspersed rest).map withFlags
        | some (key, some value) =>
          (takeApart specs interspersed rest).map fun p => withFlags (p.withOption key value)
        | some (key, none) =>
          match rest with
          | [] => none
          | value :: rest =>
            (takeApart specs interspersed rest).map fun p => withFlags (p.withOption key value)
    else if interspersed then
      (takeApart specs interspersed rest).map fun p => { p with positional := a :: p.positional }
    else some ⟨[], a :: rest⟩

/-- All values of an option, in order. -/
def Parsed.values (p : Parsed) (key : String) : List Text :=
  (p.options.filter (·.1 == key)).map Prod.snd

/-- The last value of an option. -/
def Parsed.last? (p : Parsed) (key : String) : Option Text :=
  (p.values key).getLast?

/-- The options about terms among those that were given. -/
def Parsed.termOptions (p : Parsed) : TermOptions :=
  ⟨p.last? "config", p.values "append", p.values "replace"⟩

/-- The form of output that was asked for, in any case; a table if none was. -/
def Parsed.format? (p : Parsed) : Option OutputFormat :=
  match p.last? "format" with
  | none => some .table
  | some word =>
    if Text.SameLetters word "table" then some .table
    else if Text.SameLetters word "json" then some .json
    else none

end Command

namespace Invocation

open Command

/-- Refuses arguments that do not fit. -/
def orUsage {α : Type} : Option α → Except Refusal α
  | some a => .ok a
  | none => .error .usage

/-- Refuses arguments unless something holds. -/
def require (b : Bool) : Except Refusal Unit :=
  if b then .ok () else .error .usage

/-- Refuses a path that can name no file. -/
def checkPath (path : Text) : Except Refusal Unit :=
  if Path.isImpossible path then .error .impossiblePath else .ok ()

/-- Judges the value of an option about terms, given which paths are directories: a configuration
is none. -/
def checkOption (isDirectory : Text → Bool) (p : Parsed) (key : String) : Except Refusal Unit :=
  match key with
  | "config" =>
    match p.last? "config" with
    | some path => do
      checkPath path
      require (!isDirectory path)
    | none => .ok ()
  | "format" => require p.format?.isSome
  | _ => .ok ()

/-- Reads the arguments of a command about terms. -/
def termArguments (isDirectory : Text → Bool) (arguments : List Text) :
    Except Refusal (Parsed × OutputFormat) := do
  let p ← orUsage (takeApart Command.termOptions true arguments)
  p.options.forM fun (key, _) => checkOption isDirectory p key
  return (p, ← orUsage p.format?)

/-- The command `name` with its arguments. -/
def ofCommand (isDirectory : Text → Bool) (name : Text) (arguments : List Text) :
    Except Refusal Invocation :=
  if name = Text.ofString "validate" then do
    let (p, format) ← termArguments isDirectory arguments
    match p.positional with
    | [] => .error .usage
    | model :: rest =>
      checkPath model
      require rest.isEmpty
      return .validate model p.termOptions format
  else if name = Text.ofString "terms" then do
    let (p, format) ← termArguments isDirectory arguments
    require p.positional.isEmpty
    return .terms p.termOptions format
  else if name = Text.ofString "validators" then do
    let p ← orUsage (takeApart [] true arguments)
    require p.positional.isEmpty
    return .validators
  else if name = Text.ofString "version" then do
    let p ← orUsage (takeApart [] true arguments)
    require p.positional.isEmpty
    return .version
  else .error .usage

/-- What the arguments ask for, given which paths are directories. -/
def parse (isDirectory : Text → Bool) (arguments : List Text) : Except Refusal Invocation := do
  let p ← orUsage (takeApart globalOptions false arguments)
  match p.positional with
  | name :: rest => ofCommand isDirectory name rest
  | [] => .error .usage

end Invocation

namespace TermOption

/-- The term and the suggestions in the value of an option `TERM=suggestion,suggestion`. White
space around them does not count, nor do empty suggestions. -/
def parse (value : Text) : Option (Text × List Text) :=
  match value.splitFirst '=' with
  | (_, none) => none
  | (term, some suggestions) =>
    let pieces := (Text.splitAll ',' suggestions).map Text.strip
    some (term.strip, pieces.filter fun s => !s.isEmpty)

/-- The terms in the values of an option; if a value is malformed, the first such one. -/
def parseAll (values : List Text) : Except Text TermMap :=
  values.foldlM
    (fun terms value =>
      match parse value with
      | some (term, suggestions) => .ok (terms.put term suggestions)
      | none => .error value)
    ∅

end TermOption

end TermAudit
