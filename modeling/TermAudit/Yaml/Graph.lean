import TermAudit.Yaml.Event
import TermAudit.Yaml.Tag

/-!
# `TermAudit.Yaml.Graph`: the nodes of a document

A document is a graph of nodes. Each `Node` has a tag, the place where it begins, and its content,
in which other nodes occur by their numbers. An alias is one more occurrence of a node that is
there already, so a node can occur in several places, and in itself. `Document.ofEvents` builds
the graph from the events of a document; nodes are numbered in the order in which they begin.
-/

set_option autoImplicit false

namespace TermAudit.Yaml

/-- The number of a node in its graph. -/
abbrev NodeId := Nat

/-- What a node holds. -/
inductive Content where
  | scalar (text : Text)
  | sequence (items : List NodeId)
  | mapping (entries : List (NodeId × NodeId))
deriving DecidableEq

/-- A node of a document. -/
structure Node where
  tag : Tag
  position : Position
  content : Content
deriving DecidableEq

/-- The nodes of a document by their numbers. -/
structure Graph where
  nodes : Array Node
deriving DecidableEq

/-- A graph and the node that stands for the whole document. -/
structure Document where
  graph : Graph
  root : NodeId
deriving DecidableEq

namespace Graph

/-- The node with the number; a number without node gives an empty scalar. -/
def node (g : Graph) (id : NodeId) : Node :=
  g.nodes.getD id ⟨.null, .start, .scalar []⟩

/-- How many nodes there are. -/
def size (g : Graph) : Nat :=
  g.nodes.size

/-- Replaces the node with the number. -/
def set (g : Graph) (id : NodeId) (n : Node) : Graph :=
  ⟨g.nodes.setIfInBounds id n⟩

/-- The entries of a mapping; other nodes have none. -/
def entries (g : Graph) (id : NodeId) : List (NodeId × NodeId) :=
  match (g.node id).content with
  | .mapping entries => entries
  | _ => []

/-- Replaces the entries of a mapping. -/
def setEntries (g : Graph) (id : NodeId) (entries : List (NodeId × NodeId)) : Graph :=
  g.set id { g.node id with content := .mapping entries }

/-- Refuses a document because of one of its nodes. -/
def refuse {α : Type} (g : Graph) (id : NodeId) (problem : Problem) : Except Fault α :=
  throw (.malformed (.plain (g.node id).position problem))

/-- Refuses a document because of one of its nodes, which is met while the value of the node
`around` is made. -/
def refuseIn {α : Type} (g : Graph) (activity : Activity) (around id : NodeId)
    (problem : Problem) : Except Fault α :=
  throw (.malformed (.within activity (g.node around).position (g.node id).position problem))

/-- The kind of a node. -/
def kind (g : Graph) (id : NodeId) : NodeKind :=
  match (g.node id).content with
  | .scalar _ => .scalar
  | .sequence _ => .sequence
  | .mapping _ => .mapping

end Graph

/-! ## Graphs from events -/

/-- A collection whose end has not come yet. -/
structure OpenCollection where
  id : NodeId
  /-- The nodes in it, last first. -/
  children : List NodeId

/-- A graph in the making. -/
structure Builder where
  nodes : Array Node
  anchors : List (Text × NodeId)
  /-- The collections around, innermost first. -/
  openCollections : List OpenCollection
  /-- The node that stands for the document, once it is complete. -/
  root : Option NodeId

namespace Builder

/-- Keys and values, which take turns. -/
def pairs : List NodeId → List (NodeId × NodeId)
  | key :: value :: rest => (key, value) :: pairs rest
  | _ => []

/-- Puts a node into the innermost open collection, or makes it the document's. -/
def attach (id : NodeId) (b : Builder) : Builder :=
  match b.openCollections with
  | [] => { b with root := some id }
  | c :: outer => { b with openCollections := { c with children := id :: c.children } :: outer }

/-- Where a node begins. -/
def position (b : Builder) (id : NodeId) : Position :=
  (b.nodes[id]?.map Node.position).getD .start

/-- Adds a node and gives its number. -/
def add (p : Properties) (n : Node) (b : Builder) : Except Fault (NodeId × Builder) := do
  let id := b.nodes.size
  let b := { b with nodes := b.nodes.push n }
  match p.anchor with
  | none => return (id, b)
  | some name =>
    if let some first := b.anchors.lookup name then
      throw (.malformed (.within (.firstAnchor name) (b.position first) n.position .repeatedAnchor))
    return (id, { b with anchors := (name, id) :: b.anchors })

/-- The tag of a collection: `byKind` if none is written. -/
def collectionTag (byKind : Tag) (p : Properties) : Tag :=
  match p.tag with
  | none => byKind
  | some name => if name = Text.ofString "!" then byKind else Tag.ofName name

/-- The tag of a scalar. -/
def scalarTag (p : Properties) (form : ScalarForm) (content : Text) : Tag :=
  match form, p.tag with
  | .byText, _ => Tag.ofPlain content
  | .tagged, some name => Tag.ofName name
  | _, _ => .str

/-- Opens a collection. -/
def openCollection (p : Properties) (n : Node) (b : Builder) : Except Fault Builder := do
  let (id, b) ← b.add p n
  return { b with openCollections := ⟨id, []⟩ :: b.openCollections }

/-- Closes the innermost collection. -/
def close (b : Builder) : Builder :=
  match b.openCollections with
  | [] => b
  | c :: outer =>
    let children := c.children.reverse
    let fill (n : Node) : Node :=
      match n.content with
      | .mapping _ => { n with content := .mapping (pairs children) }
      | _ => { n with content := .sequence children }
    attach c.id { b with nodes := b.nodes.modify c.id fill, openCollections := outer }

/-- Takes up one event. -/
def step (b : Builder) (e : Event) : Except Fault Builder := do
  match e.happening with
  | .documentStart =>
    if let some root := b.root then
      throw (.malformed (.within .firstDocument (b.position root) e.position .secondDocument))
    return b
  | .documentEnd | .streamEnd => return b
  | .alias name =>
    match b.anchors.lookup name with
    | some id => return b.attach id
    | none => throw (.malformed (.plain e.position (.undefinedAlias name)))
  | .scalar p form content =>
    let (id, b) ← b.add p ⟨scalarTag p form content, e.position, .scalar content⟩
    return b.attach id
  | .sequenceStart p => b.openCollection p ⟨collectionTag .seq p, e.position, .sequence []⟩
  | .mappingStart p => b.openCollection p ⟨collectionTag .map p, e.position, .mapping []⟩
  | .sequenceEnd | .mappingEnd => return b.close

end Builder

namespace Document

/-- The document that events describe; there is none if nothing was written. A fault of the
events before comes first, and one behind them last. -/
def ofEvents (events : Events) : Except Fault (Option Document) := do
  let b ← events.items.foldlM Builder.step ⟨#[], [], [], none⟩
  match events.fault with
  | some fault => throw fault
  | none => return b.root.map (⟨⟨b.nodes⟩, ·⟩)

/-- The document that a text describes. -/
def ofText (text : Text) : Except Fault (Option Document) := do
  ofEvents (.ofTokens (.ofChars (← Source.chars text)))

end Document

end TermAudit.Yaml
