import TermAudit.Index
import TermAudit.Text.Case

/-!
# `TermAudit.Message`: findings in words

`Finding.message` words a finding by where the text was found. Suggestions take over the case of
what was found: `MasterRecord` suggests `Primary`, `is_master` suggests `primary`.
-/

set_option autoImplicit false

namespace TermAudit

/-- Why a text instance cannot be reported: it lacks what its place requires, or its place is unknown. The
instances of an index are never like this, but instances can be built by hand. -/
inductive InstanceError where
  | missingShape (text : Text)
  | missingTrait (text : Text)
  | incompleteTrait (text : Text)
  | unknownPlaceOfTerm (place term : Text)
  | unknownPlace (place : Text)
deriving DecidableEq

/-- The error in words. -/
def InstanceError.message : InstanceError → Text
  | .missingShape text => ("Shape text instance " : Text) ++ text.quoted ++ (" has no shape" : Text)
  | .missingTrait text => ("Trait text instance " : Text) ++ text.quoted ++ (" has no trait" : Text)
  | .incompleteTrait text =>
    ("Trait text instance " : Text) ++ text.quoted ++ (" is incomplete" : Text)
  | .unknownPlaceOfTerm place term =>
    ("Unknown text location kind " : Text) ++ place.quoted ++ (" for " : Text) ++ term.quoted
  | .unknownPlace place => ("Unknown text location kind " : Text) ++ place.quoted

namespace Suggestions

/-- The suggestions in the case of what was found: its first letter decides, so that for `Master` there is
`Primary`. The other letters of a suggestion stay as they are configured. -/
def matchCase (suggestions : List Text) (matched : Text) : List Text :=
  suggestions.map (if matched.startsUpper then Text.capitalize else Text.uncapitalize)

/-- A text between apostrophes. -/
def marked (t : Text) : Text :=
  ("'" : Text) ++ t ++ ("'" : Text)

/-- An enumeration: commas between the texts, and a word in place of the last comma. -/
def enumerated : List Text → Text
  | [] => []
  | [t] => marked t
  | [t, u] => marked t ++ (" and " : Text) ++ marked u
  | t :: rest => marked t ++ (", " : Text) ++ enumerated rest

/-- The sentence that offers suggestions; there is none without suggestions. -/
def sentence (suggestions : List Text) (matched : Text) : Text :=
  if suggestions.isEmpty then []
  else
    (" Consider using one of the following terms instead: " : Text)
      ++ enumerated (matchCase suggestions matched) ++ ("." : Text)

end Suggestions

/-- A term found in a text instance. The suggestions are those of the table, and get the case of the match
only when they are worded. -/
structure Finding where
  term : Text
  /-- The replacements configured for the term. -/
  suggestions : List Text
  /-- The term as it is written in the text. -/
  matched : Text
  source : TextInstance

namespace Finding

/-- What the message says about the place of a finding, up to the term. Whether the instance has what its
place requires is noticed here. -/
def opening (f : Finding) : Except InstanceError Text :=
  match f.source.place with
  | .shapeName =>
    match f.source.shape with
    | none => .error (.missingShape f.source.text)
    | some s => .ok (s.type.keyword.capitalize ++ (" shape uses" : Text))
  | .namespaceName => .ok (f.source.text ++ (" namespace uses" : Text))
  | .traitValue =>
    match f.source.appliedTrait with
    | none => .error (.missingTrait f.source.text)
    | some t =>
      let name := Suggestions.marked t.idiomaticName
      if f.source.path.isEmpty then
        .ok (name ++ (" trait has a value that contains" : Text))
      else
        .ok (name ++ (" trait value at path " : Text) ++ Text.joinWith "/" f.source.path
          ++ (" contains" : Text))
  | .other place => .error (.unknownPlaceOfTerm place f.term)

/-- The finding in words. -/
def message (f : Finding) : Except InstanceError Text := do
  return (← f.opening) ++ (" a non-inclusive term " : Text) ++ Suggestions.marked f.matched
    ++ ("." : Text) ++ Suggestions.sentence f.suggestions f.matched

end Finding

end TermAudit
