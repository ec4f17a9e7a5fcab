import TermAudit.Model.Shape
import TermAudit.Text.Utf8
import TermAudit.Yaml.Report
import TermAudit.Yaml.Values

/-!
# `TermAudit.Model.Reader`: models out of documents

`Model.ofText` reads a model from a document in JSON or YAML. The document is a mapping with the
keys `smithy`, `metadata` and `shapes`; shapes, members and traits are mappings by name. Every
shape, member and trait keeps the place of its key.

A mapping is checked as a whole, all keys being texts and no two of them equal, before anything in
it is read. Of several errors the first in this order is reported, at the node that causes it.

Values of traits and metadata are made in full while the model is read. A fault in one is an error
at its node, except for those faults that reading leaves to its caller (`ReadError.fault`).
-/

set_option autoImplicit false

namespace TermAudit

open Yaml

/-- The parts of a model document that are mappings. An error about one of them says which it is, so the
parts carry what they are called by. -/
inductive MappingPart where
  | document
  | shapes
  | shape (key : Text)
  | members (key : Text)
  | member (id : ShapeId)
  | traits

/-- What a part is called. -/
def MappingPart.called : MappingPart → Text
  | .document => "Model document"
  | .shapes => "'shapes'"
  | .shape key => ("Shape " : Text) ++ key.quoted
  | .members key => ("Members of " : Text) ++ key.quoted
  | .member id => ("Member " : Text) ++ id.shown.quoted
  | .traits => "'traits'"

/-- The parts of a model document that are strings. Errors name them as well. -/
inductive StringPart where
  | version
  | shapeType
  | memberTarget

/-- What a part is called. -/
def StringPart.called : StringPart → Text
  | .version => "'smithy' version"
  | .shapeType => "Shape type"
  | .memberTarget => "Member target"

/-- Why a document is no model. There is one case for each kind of refusal, with the data that its message
shows. -/
inductive ModelProblem where
  | unreadableFile (reason : Text)
  | invalidDocument (reason : Text)
  | notMapping (part : MappingPart)
  | keyNotText (part : MappingPart)
  | repeatedKey (key : Text) (part : MappingPart)
  | notString (part : StringPart)
  | malformedId (error : ShapeIdError)
  | invalidValue (reason : Text)
  | metadataNotMapping
  | unexpectedKey (key : Text)
  | memberAtTop (key : Text)
  | unknownType (word : Text)
  | memberTypeAtTop
  | missingType (key : Text)
  | missingTarget (id : ShapeId)

/-- A problem in words. -/
def ModelProblem.message : ModelProblem → Text
  | .unreadableFile reason => ("Cannot read model file: " : Text) ++ reason
  | .invalidDocument reason => ("Invalid model document: " : Text) ++ reason
  | .notMapping part => part.called ++ (" must be an object" : Text)
  | .keyNotText part => part.called ++ (" keys must be strings" : Text)
  | .repeatedKey key part =>
    ("Duplicate key " : Text) ++ key.quoted ++ (" in " : Text) ++ part.called
  | .notString part => part.called ++ (" must be a string" : Text)
  | .malformedId error => error.message
  | .invalidValue reason => ("Invalid value: " : Text) ++ reason
  | .metadataNotMapping => "'metadata' must be an object"
  | .unexpectedKey key => ("Unexpected top-level key " : Text) ++ key.quoted
  | .memberAtTop key =>
    ("Top-level shape id " : Text) ++ key.quoted ++ (" must not name a member" : Text)
  | .unknownType word => ("Unknown shape type " : Text) ++ word.quoted
  | .memberTypeAtTop => "Top-level shapes cannot have type 'member'"
  | .missingType key => ("Shape " : Text) ++ key.quoted ++ (" is missing a 'type'" : Text)
  | .missingTarget id =>
    ("Member " : Text) ++ id.shown.quoted ++ (" is missing a 'target'" : Text)

/-- A problem with a model document, and where it is. -/
structure ModelError where
  problem : ModelProblem
  location : Location

/-- The location and the problem in words. -/
def ModelError.message (e : ModelError) : Text :=
  e.location.shown ++ (": " : Text) ++ e.problem.message

/-- Why reading a model ends without one. -/
inductive ReadError where
  /-- The document is no model. -/
  | model (error : ModelError)
  /-- A value, or a character of the document, has a fault that is no matter of models. -/
  | fault (fault : Fault)
  /-- The path of the document can name no file. -/
  | impossiblePath

namespace ModelReader

/-- A text and the name under which its places are reported. The text is needed for faults that quote a
line of it. -/
structure Origin where
  file : Text
  text : Text

/-- A computation over a model document: the values made so far, and where it comes from. -/
abbrev Reading := ReaderT Origin (StateT Evaluation (Except ReadError))

/-- The graph of the document. -/
def graph : Reading Graph :=
  return (← getThe Evaluation).graph

/-- The location of a node. Lines and columns are counted from one. -/
def location (id : NodeId) : Reading Location := do
  let position := ((← graph).node id).position
  return ⟨(← read).file, position.line + 1, position.column + 1⟩

/-- Refuses the document because of a node. -/
def refuse {α : Type} (id : NodeId) (problem : ModelProblem) : Reading α := do
  throw (.model ⟨problem, ← location id⟩)

/-- An entry of a mapping: the text of its key, and the nodes of key and value. -/
structure Item where
  key : Text
  keyNode : NodeId
  value : NodeId

/-- The entries of a mapping. Their keys have to be texts, each different from those in `seen`. The first
entry that is not like this is refused, at its key. -/
def checkItems (part : MappingPart) :
    List (NodeId × NodeId) → List Text → Reading (List Item)
  | [], _ => return []
  | (keyNode, value) :: rest, seen => do
    match ((← graph).node keyNode).content with
    | .scalar key =>
      if key ∈ seen then refuse keyNode (.repeatedKey key part)
      return ⟨key, keyNode, value⟩ :: (← checkItems part rest (key :: seen))
    | _ => refuse keyNode (.keyNotText part)

/-- The entries of a mapping. All structure is read through this, so a mapping with a repeated key or a
key that is no text is refused wherever the reader meets one. -/
def items (id : NodeId) (part : MappingPart) : Reading (List Item) := do
  match ((← graph).node id).content with
  | .mapping entries => checkItems part entries []
  | _ => refuse id (.notMapping part)

/-- The text of a string. A scalar of another kind is refused, also if it is written with the same
characters. -/
def string (id : NodeId) (part : StringPart) : Reading Text := do
  let node := (← graph).node id
  match node.content, node.tag with
  | .scalar text, .str => return text
  | _, _ => refuse id (.notString part)

/-- A shape id that the node writes. -/
def shapeId (text : Text) (id : NodeId) : Reading ShapeId :=
  match ShapeId.parse text with
  | .ok shapeId => return shapeId
  | .error error => refuse id (.malformedId error)

/-- What is wrong with a value of a document, in words. Reading a model leaves the other faults to
its caller. -/
def reason? (document : Text) : Fault → Option Text
  | .malformed report => some (report.shown document)
  | .unreadable what => some what.describe
  | .timeNotText => some "a time is not a text"
  | _ => none

/-- The value of a node. One evaluation serves the whole document: a node that is in several values is
made once, and what has been merged into a mapping stays there for whatever is read later. -/
def plainValue (id : NodeId) : Reading Value := do
  match (Evaluation.value id).run (← getThe Evaluation) with
  | .ok (value, s) =>
    set s
    return value
  | .error fault =>
    match reason? (← read).text fault with
    | some reason => refuse id (.invalidValue reason)
    | none => throw (.fault fault)

/-- The id of a trait: a name without `#` is one of the prelude. -/
def traitKey (key : Text) : Text :=
  if CodePoint.ofChar '#' ∈ key then key else ShapeId.preludeNamespace ++ ("#" : Text) ++ key

/-- A trait. -/
def trait (item : Item) : Reading Trait := do
  let id ← shapeId (traitKey item.key) item.keyNode
  let value ← plainValue item.value
  return ⟨id, value, ← location item.keyNode⟩

/-- The traits of a shape or a member. -/
def traits (id : NodeId) : Reading (List Trait) := do
  (← items id .traits).mapM trait

/-- What is known of a member while its properties are read, one after the other. -/
structure MemberParts where
  target : Option ShapeId
  traits : List Trait

/-- A property of a member. Properties without a meaning here are passed over. -/
def memberProperty (parts : MemberParts) (item : Item) : Reading MemberParts := do
  if item.key = Text.ofString "target" then
    let text ← string item.value .memberTarget
    return { parts with target := some (← shapeId text item.value) }
  else if item.key = Text.ofString "traits" then
    return { parts with traits := ← traits item.value }
  else return parts

/-- A member with the given id, which the key node declares. It must have a target, whatever the type of
its shape. -/
def member (id : ShapeId) (keyNode value : NodeId) : Reading Shape := do
  let parts ← (← items value (.member id)).foldlM memberProperty ⟨none, []⟩
  match parts.target with
  | none => refuse keyNode (.missingTarget id)
  | some target =>
    return ⟨id, .member, parts.traits, [], ← location keyNode, some target⟩

/-- The members in a mapping by name. Their ids are made of the id of the shape and their names, and are
not checked like ids that are written. -/
def members (key : Text) (shape : ShapeId) (id : NodeId) : Reading (List Shape) := do
  (← items id (.members key)).mapM fun item =>
    member (shape.withMember item.key) item.keyNode item.value

/-- The properties that declare a single member each, of the name of the property. -/
def singleMembers : List String := ["member", "key", "value"]

/-- The type that a shape may have. `member` is a kind of shapes as well, but not one that can be
declared. -/
def shapeType (id : NodeId) : Reading ShapeType := do
  let word ← string id .shapeType
  match ShapeType.ofKeyword? word with
  | none => refuse id (.unknownType word)
  | some .member => refuse id .memberTypeAtTop
  | some type => return type

/-- What is known of a shape while its properties are read, one after the other. Members are added in the
order of the properties that declare them. -/
structure ShapeParts where
  type : Option ShapeType
  traits : List Trait
  members : List Shape

/-- A property of a shape. Properties without a meaning here are passed over. -/
def shapeProperty (key : Text) (id : ShapeId) (parts : ShapeParts) (item : Item) :
    Reading ShapeParts := do
  if item.key = Text.ofString "type" then
    return { parts with type := some (← shapeType item.value) }
  else if item.key = Text.ofString "traits" then
    return { parts with traits := ← traits item.value }
  else if item.key = Text.ofString "members" then
    return { parts with members := parts.members ++ (← members key id item.value) }
  else if singleMembers.any fun name => Text.ofString name = item.key then
    let single ← member (id.withMember item.key) item.keyNode item.value
    return { parts with members := parts.members ++ [single] }
  else return parts

/-- A shape. Its id is the key of its entry, and it must not be the id of a member. A type is required. -/
def shape (item : Item) : Reading Shape := do
  let id ← shapeId item.key item.keyNode
  if id.member.isSome then refuse item.keyNode (.memberAtTop item.key)
  let parts ←
    (← items item.value (.shape item.key)).foldlM (shapeProperty item.key id) ⟨none, [], []⟩
  match parts.type with
  | none => refuse item.keyNode (.missingType item.key)
  | some type =>
    return ⟨id, type, parts.traits, parts.members, ← location item.keyNode, none⟩

/-- A part of the document. Other parts than these are refused, while shapes and members may have
properties without a meaning. -/
def documentPart (m : Model) (item : Item) : Reading Model := do
  if item.key = Text.ofString "smithy" then
    let _ ← string item.value .version
    return m
  else if item.key = Text.ofString "metadata" then
    match ← plainValue item.value with
    | .mapping metadata => return { m with metadata := metadata }
    | _ => refuse item.value .metadataNotMapping
  else if item.key = Text.ofString "shapes" then
    let shapes ← (← items item.value .shapes).mapM shape
    return { m with shapes := shapes }
  else refuse item.keyNode (.unexpectedKey item.key)

/-- The whole document. -/
def document (root : NodeId) : Reading Model := do
  (← items root .document).foldlM documentPart .empty

end ModelReader

namespace Model

/-- The model that a document describes, or why there is none. -/
def ofDocument (origin : ModelReader.Origin) (d : Document) : Except ReadError Model :=
  (·.1) <$> (((ModelReader.document d.root).run origin).run (.start d.graph))

/-- The model in a text. `file` names the document in locations. An empty document is the empty
model. -/
def ofText (file text : Text) : Except ReadError Model :=
  match Document.ofText text with
  | .ok none => .ok .empty
  | .ok (some d) => ofDocument ⟨file, text⟩ d
  | .error (.malformed report) =>
    let location : Location :=
      match report.position with
      | some p => ⟨file, p.line + 1, p.column + 1⟩
      | none => .ofFile file
    .error (.model ⟨.invalidDocument (report.shown text), location⟩)
  | .error fault => .error (.fault fault)

end Model

end TermAudit
