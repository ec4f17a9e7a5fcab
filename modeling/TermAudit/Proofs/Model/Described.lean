import TermAudit.Model.Reader

/-!
# `TermAudit.Proofs.Model.Described`: the model that plain data describe

`Value.model?` says which plain data are a model, and which one: the part of the format of models that
is about data alone. It knows nothing of documents, of the places in them or of errors, and takes the
properties of a shape by their names and not in the order in which they come.
-/

set_option autoImplicit false

namespace TermAudit

/-! ## Places -/

/-- A trait that is declared nowhere. Plain data have no places, so models are compared without theirs. -/
def Trait.unlocated (t : Trait) : Trait :=
  { t with location := .nowhere }

mutual

/-- A shape that is declared nowhere, as are its traits and members. -/
def Shape.unlocated : Shape → Shape
  | ⟨id, type, traits, members, _, target⟩ =>
    ⟨id, type, traits.map Trait.unlocated, Shape.unlocatedAll members, .nowhere, target⟩

/-- Shapes that are declared nowhere. -/
def Shape.unlocatedAll : List Shape → List Shape
  | [] => []
  | s :: rest => s.unlocated :: Shape.unlocatedAll rest

end

/-- A model whose shapes are declared nowhere. -/
def Model.unlocated (m : Model) : Model :=
  { m with shapes := Shape.unlocatedAll m.shapes }

namespace Value

/-! ## Properties -/

/-- The entries, if the value is a mapping. -/
def entries? : Value → Option (List (Scalar × Value))
  | .mapping entries => some entries
  | _ => none

/-- What a property of a mapping is read as, which is `default` if it is not there. A property that is
there and cannot be read leaves no result. -/
def property {α : Type} (name : String) (read : Value → Option α) (default : α)
    (entries : List (Scalar × Value)) : Option α :=
  match entries.lookup (.text name) with
  | none => some default
  | some value => read value

/-- The id that a text writes. Why a text is none is left out. -/
def writtenId? (t : Text) : Option ShapeId :=
  (ShapeId.parse t).toOption

/-! ## Parts of a model -/

/-- The trait that an entry describes. A name without a namespace is one of the prelude. -/
def trait? : Scalar × Value → Option Trait
  | (.text name, value) => do
    return ⟨← writtenId? (ModelReader.traitKey name), value, .nowhere⟩
  | _ => none

/-- The traits that a value describes. -/
def traits? (v : Value) : Option (List Trait) := do
  (← v.entries?).mapM trait?

/-- The member with the id that a value describes. It has to have a target. Properties besides the two are
passed over. -/
def member? (id : ShapeId) (v : Value) : Option Shape := do
  let entries ← v.entries?
  let target ← property "target" (fun v => some <$> (v.text? >>= writtenId?)) none entries
  let traits ← property "traits" traits? [] entries
  return ⟨id, .member, traits, [], .nowhere, some (← target)⟩

/-- The member of a shape that an entry describes. -/
def namedMember? (shape : ShapeId) : Scalar × Value → Option Shape
  | (.text name, value) => member? (shape.withMember name) value
  | _ => none

/-- The members of a shape that one of its properties describes: several under their own names, or a
single one that has the name of the property, or none. -/
def membersOf? (shape : ShapeId) : Scalar × Value → Option (List Shape)
  | (.text name, value) =>
    if name = Text.ofString "members" then do
      (← value.entries?).mapM (namedMember? shape)
    else if ModelReader.singleMembers.any fun word => Text.ofString word = name then do
      return [← namedMember? shape (.text name, value)]
    else some []
  | _ => some []

/-- The type of a shape that a value names. Shapes do not have the type of members. -/
def type? (v : Value) : Option ShapeType := do
  let type ← ShapeType.ofKeyword? (← v.text?)
  if type = .member then none else return type

/-- The shape that an entry describes. It has to have a type, and its id must not be that of a member. -/
def shape? : Scalar × Value → Option Shape
  | (.text name, value) => do
    let id ← writtenId? name
    if id.member.isSome then none
    else
      let entries ← value.entries?
      let type ← property "type" (fun v => some <$> v.type?) none entries
      let traits ← property "traits" traits? [] entries
      let members ← entries.mapM (membersOf? id)
      return ⟨id, ← type, traits, members.flatten, .nowhere, none⟩
  | _ => none

/-- The shapes that a value describes. -/
def shapes? (v : Value) : Option (List Shape) := do
  (← v.entries?).mapM shape?

/-- The properties that a model may have. -/
def modelProperties : List String := ["smithy", "metadata", "shapes"]

/-- The model that a value describes. A property of any other name makes it none. The version has to be a
text, and is not kept. -/
def model? (v : Value) : Option Model := do
  let entries ← v.entries?
  if entries.all fun e => modelProperties.any fun name => e.1 = .text name then
    let _ ← property "smithy" (fun v => some <$> v.text?) none entries
    let metadata ← property "metadata" entries? [] entries
    let shapes ← property "shapes" shapes? [] entries
    return ⟨shapes, metadata⟩
  else none

end Value

end TermAudit
