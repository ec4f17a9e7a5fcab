import TermAudit.Model.Shape

/-!
# `TermAudit.Diagnostic`: what a validator reports

A `Diagnostic` is a message with its severity, the validator it comes from, and where it belongs.
-/

set_option autoImplicit false

namespace TermAudit

/-- How serious a diagnostic is, in ascending order. -/
inductive Severity where
  | note
  | warning
  | danger
  | error
deriving DecidableEq

namespace Severity

/-- All severities with the words for them. -/
def keywords : List (Severity × String) :=
  [(.note, "NOTE"), (.warning, "WARNING"), (.danger, "DANGER"), (.error, "ERROR")]

/-- The word for a severity. -/
def keyword (s : Severity) : Text :=
  (keywords.lookup s).getD ""

/-- The severity that a word means. -/
def ofKeyword? (word : Text) : Option Severity :=
  (keywords.find? fun (_, keyword) => Text.ofString keyword = word).map Prod.fst

end Severity

/-- A report about a model. -/
structure Diagnostic where
  /-- The validator that reports. -/
  id : Text
  severity : Severity
  message : Text
  location : Location
  /-- The shape concerned. -/
  shape : Option ShapeId
deriving DecidableEq

namespace Diagnostic

/-- Whether the diagnostic stands in the way of a model. -/
def isError (d : Diagnostic) : Bool :=
  d.severity == .danger || d.severity == .error

/-- The diagnostic on one line. -/
def shown (d : Diagnostic) : Text :=
  ("[" : Text) ++ d.severity.keyword ++ ("] " : Text) ++ d.id ++ (": " : Text)
    ++ (match d.shape with
        | some id => id.shown
        | none => "-")
    ++ (" " : Text) ++ d.message ++ (" | " : Text) ++ d.location.shown

end Diagnostic

end TermAudit
