import TermAudit.Yaml.Fault

/-!
# `TermAudit.Yaml.Report`: a fault in words, with the lines it is about

A place is shown by its line and column, the line itself and a mark below the column. Of a long
line only the surroundings of the place are shown. `Report.shown` puts the activity, the problem
and their places together; the place of the activity is left out if it is that of the problem.
-/

set_option autoImplicit false

namespace TermAudit.Yaml

namespace Position

/-- How far from a place its line is looked at. -/
def reach : Nat := 37

/-- How much of the line is shown on a side where it goes on out of reach. -/
def shownBeyond : Nat := 32

/-- What stands for the rest of a line. -/
def elision : Text := " ... "

/-- Whether a line ends at the code point. -/
def endsLine (c : CodePoint) : Bool :=
  c.toChar?.any Source.endsLine

/-- The part of a line that is shown on one side of a place, given from the place on, and what
stands for the rest. -/
def side (t : Text) : Text × Text :=
  let line := (t.take reach).takeWhile fun c => !endsLine c
  if line.length < reach then (line, []) else (line.take shownBeyond, elision)

/-- The line of a place, and a mark below the column. -/
def excerpt (document : Text) (p : Position) : Text :=
  let (before, head) := side (document.take p.index).reverse
  let (after, tail) := side (document.drop p.index)
  let indent : Text := "    "
  indent ++ head ++ before.reverse ++ after ++ tail ++ ("\n" : Text) ++ indent
    ++ List.replicate (head.length + before.length) (CodePoint.ofChar ' ') ++ ("^" : Text)

/-- A place in a document: its line and column, counted from one, and the line. -/
def shown (document : Text) (p : Position) : Text :=
  ("  in \"<unicode string>\", line " : Text) ++ Text.ofNat (p.line + 1) ++ (", column " : Text)
    ++ Text.ofNat (p.column + 1) ++ (":\n" : Text) ++ p.excerpt document

end Position

namespace Report

/-- Whether two places have the same line and column. -/
def samePlace (p : Position) : Option Position → Bool
  | some q => p.line == q.line && p.column == q.column
  | none => false

/-- The lines about the context of a report: the activity, and its place unless that is the place
of the problem. -/
def contextLines (document : Text) (r : Report) : List Text :=
  match r.context with
  | none => []
  | some ⟨activity, none⟩ => [activity.describe]
  | some ⟨activity, some start⟩ =>
    if samePlace start r.position then [activity.describe]
    else [activity.describe, start.shown document]

/-- The whole report on a document. -/
def shown (document : Text) (r : Report) : Text :=
  Text.joinWith "\n" (r.contextLines document ++ [r.problem.describe]
    ++ (r.position.map (Position.shown document)).toList)

end Report

end TermAudit.Yaml
