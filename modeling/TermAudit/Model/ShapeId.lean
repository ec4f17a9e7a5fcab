import TermAudit.Text.Quoted

/-!
# `TermAudit.Model.ShapeId`: absolute names of shapes, members and traits

A shape id has the form `namespace#Name` or `namespace#Name$member`. `ShapeId.parse` reads it and
`ShapeId.shown` writes it. The first `#` ends the namespace and the first `$` behind it the name,
so a name may contain further `#`, and a member further `$`. No part may be empty.
-/

set_option autoImplicit false

namespace TermAudit

/-- The absolute name of a shape, or of a member of one. It is written with a `#` behind the namespace and
a `$` in front of the member. -/
structure ShapeId where
  /-- The namespace. -/
  ns : Text
  name : Text
  member : Option Text
deriving DecidableEq

/-- Why a text is no shape id. -/
inductive ShapeIdError where
  /-- The namespace, or all that follows it, is missing. -/
  | incomplete (text : Text)
  /-- The name, or the member behind a `$`, is empty. -/
  | emptyPart (text : Text)
deriving DecidableEq

/-- The error in words. -/
def ShapeIdError.message : ShapeIdError → Text
  | .incomplete t =>
    ("Invalid shape id " : Text) ++ t.quoted ++ (": expected 'namespace#Name'" : Text)
  | .emptyPart t => ("Invalid shape id " : Text) ++ t.quoted

namespace ShapeId

/-- The id in writing. -/
def shown (id : ShapeId) : Text :=
  id.ns ++ ("#" : Text) ++ id.name
    ++ (match id.member with
        | some member => ("$" : Text) ++ member
        | none => [])

/-- Reads an id. The namespace ends at the first `#`, and the name at the first `$` behind it. No part may
be empty. -/
def parse (text : Text) : Except ShapeIdError ShapeId :=
  match text.splitFirst '#' with
  | ([], _) => .error (.incomplete text)
  | (_, none) => .error (.incomplete text)
  | (_, some []) => .error (.incomplete text)
  | (ns, some rest) =>
    match Text.splitFirst '$' rest with
    | ([], _) => .error (.emptyPart text)
    | (_, some []) => .error (.emptyPart text)
    | (name, member) => .ok ⟨ns, name, member⟩

/-- The id of a member of the shape. The name is taken as it is, so the id need not be one that can be
read back. -/
def withMember (id : ShapeId) (member : Text) : ShapeId :=
  { id with member := some member }

/-- The namespace of the traits that a trait's bare name means. -/
def preludeNamespace : Text := "smithy.api"

/-- Whether the id is in the prelude. -/
def isPrelude (id : ShapeId) : Bool :=
  id.ns == preludeNamespace

end ShapeId

end TermAudit
