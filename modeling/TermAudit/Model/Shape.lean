import TermAudit.Model.Location
import TermAudit.Model.ShapeId
import TermAudit.Value

/-!
# `TermAudit.Model.Shape`: shapes, members, traits and models

A `Model` is a list of shapes. A member of a shape is a shape itself, of type `member`, whose id
names it. Traits are values attached to a shape or a member. `Model.walk` lists the shapes of a
model, each followed by its members, and this is the order in which everything about a model is
reported.
-/

set_option autoImplicit false

namespace TermAudit

/-- The kinds of shapes. All members are of the last kind, whatever they are members of. -/
inductive ShapeType where
  | blob | boolean | string | byte | short | integer | long | float | double | bigDecimal
  | bigInteger | timestamp | document | enum | intEnum | list | set | map | struct | union
  | service | operation | resource | member
deriving DecidableEq

namespace ShapeType

/-- All kinds with the words for them. -/
def keywords : List (ShapeType × String) :=
  [(.blob, "blob"), (.boolean, "boolean"), (.string, "string"), (.byte, "byte"),
   (.short, "short"), (.integer, "integer"), (.long, "long"), (.float, "float"),
   (.double, "double"), (.bigDecimal, "bigDecimal"), (.bigInteger, "bigInteger"),
   (.timestamp, "timestamp"), (.document, "document"), (.enum, "enum"), (.intEnum, "intEnum"),
   (.list, "list"), (.set, "set"), (.map, "map"), (.struct, "structure"), (.union, "union"),
   (.service, "service"), (.operation, "operation"), (.resource, "resource"),
   (.member, "member")]

/-- The word for a kind of shape. -/
def keyword (type : ShapeType) : Text :=
  (keywords.lookup type).getD ""

/-- The kind of shape that a word means. -/
def ofKeyword? (word : Text) : Option ShapeType :=
  (keywords.find? fun (_, keyword) => Text.ofString keyword = word).map Prod.fst

end ShapeType

/-- A trait: a value attached to a shape or a member. -/
structure Trait where
  id : ShapeId
  value : Value
  location : Location

namespace Trait

/-- The name by which a trait is spoken of: the bare one for a trait of the prelude. -/
def idiomaticName (t : Trait) : Text :=
  if t.id.isPrelude then t.id.name else t.id.shown

/-- The prelude's traits whose values name shapes and hold no prose. -/
def referenceNames : List String := ["references", "idRef"]

/-- Whether the value of the trait names shapes. -/
def isReference (t : Trait) : Bool :=
  t.id.isPrelude && referenceNames.any fun name => Text.ofString name == t.id.name

end Trait

/-- A shape, or a member of one. -/
structure Shape where
  id : ShapeId
  type : ShapeType
  traits : List Trait
  members : List Shape
  location : Location
  /-- The shape that a member refers to. -/
  target : Option ShapeId

namespace Shape

/-- The name of a member, or else of the shape. -/
def name (s : Shape) : Text :=
  s.id.member.getD s.id.name

/-- The first trait with the id. -/
def trait? (s : Shape) (id : ShapeId) : Option Trait :=
  s.traits.find? (·.id == id)

end Shape

/-- Shapes, and data about all of them. -/
structure Model where
  shapes : List Shape
  metadata : List (Scalar × Value)

namespace Model

/-- The model without shapes. -/
def empty : Model := ⟨[], []⟩

/-- All shapes in order, each followed by its members. Whatever looks at all shapes of a model does so in
this order. -/
def walk (m : Model) : List Shape :=
  m.shapes.flatMap fun s => s :: s.members

/-- The first shape with the id, or member. Members can share an id, and then only the first of them is
found. -/
def shape? (m : Model) (id : ShapeId) : Option Shape :=
  m.walk.find? (·.id == id)

/-- The namespaces of shapes, each once, in the order in which they first occur. -/
def namespacesOf (shapes : List Shape) : List Text :=
  (shapes.map (·.id.ns)).foldl (fun seen ns => if ns ∈ seen then seen else seen ++ [ns]) []

/-- The namespaces of the shapes that are no members. Those of members are the same, since a member is in
the namespace of its shape. -/
def namespaces (m : Model) : List Text :=
  namespacesOf m.shapes

end Model

end TermAudit
