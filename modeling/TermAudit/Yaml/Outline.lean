import TermAudit.Yaml.Values

/-!
# `TermAudit.Yaml.Outline`: the values of a document, one level at a time

`Outline.ofDocument` makes the values of all nodes of a document without ever descending into one:
a collection is made of references to the nodes in it, and these wait in a queue for their turn. So
a node may contain itself. Of several faults the one counts that the queue meets first.

`Outline.view` puts the levels together again, down to a given depth.
-/

set_option autoImplicit false

namespace TermAudit.Yaml

/-- A value as it occurs in another one: a scalar itself, a collection by its node. -/
inductive Reference where
  | scalar (s : Scalar)
  | collection (id : NodeId)

/-- A collection made of references. -/
inductive Level where
  | list (items : List Reference)
  | pairs (items : List (Reference × Reference))
  | set (elements : List Scalar)
  | mapping (entries : List (Scalar × Reference))

/-- What is known while the levels of a document are made. -/
structure Outline where
  graph : Graph
  /-- What the nodes are that have been met. -/
  known : List (NodeId × Reference)
  /-- The collections that have been made. -/
  levels : List (NodeId × Level)
  /-- The nodes of the collections that have been met and not made. -/
  waiting : List NodeId

namespace Outline

/-- A computation over the levels of a document. -/
abbrev Outlining := StateT Outline (Except Fault)

/-- Refuses the document because of a node whose tag means nothing. -/
def refuseTag {α : Type} (id : NodeId) : Outlining α := do
  let g := (← get).graph
  g.refuse id (.unknownTag (g.node id).tag.name)

/-- What a node is. A collection that has not been met yet joins the queue. -/
def refer (id : NodeId) : Outlining Reference := do
  let s ← get
  match s.known.lookup id with
  | some r => return r
  | none =>
    match s.graph.scalar? id with
    | some result =>
      let r := Reference.scalar (← result)
      set { s with known := (id, r) :: s.known }
      return r
    | none =>
      match (s.graph.node id).tag with
      | .seq | .map | .set | .omap | .pairs =>
        let r := Reference.collection id
        set { s with known := (id, r) :: s.known, waiting := s.waiting ++ [id] }
        return r
      | _ => refuseTag id

/-- The entries of a mapping after its merges. -/
def mergedEntries (id : NodeId) : Outlining (List (NodeId × NodeId)) := do
  let s ← get
  let (entries, g) ← s.graph.mergedEntries id
  set { s with graph := g }
  return entries

/-- The entries of a mapping. -/
def mapping (id : NodeId) : Outlining (List (Scalar × Reference)) := do
  (← mergedEntries id).foldlM
    (fun made (key, item) => do
      match ← refer key with
      | .scalar k => return Entries.put Scalar.sameKey k (← refer item) made
      | .collection _ => (← get).graph.refuseIn .mapping id key .unhashableKey)
    []

/-- Makes a collection. -/
def make (id : NodeId) : Outlining Level := do
  let g := (← get).graph
  match (g.node id).tag with
  | .seq => return .list (← (← g.items id).mapM refer)
  | .map => return .mapping (← mapping id)
  | .set => return .set ((← mapping id).map Prod.fst)
  | _ =>
    let pairs ← (← g.pairItems id).mapM fun item => do
      let (key, item) ← g.singleEntry id item
      return (← refer key, ← refer item)
    return .pairs pairs

/-- Makes the collections of the queue in turn. Each node joins it at most once. -/
def drain : Nat → Outlining Unit
  | 0 => pure ()
  | fuel + 1 => do
    match (← get).waiting with
    | [] => pure ()
    | id :: others =>
      modify fun s => { s with waiting := others }
      let level ← make id
      modify fun s => { s with levels := (id, level) :: s.levels }
      drain fuel

/-- A value down to `depth` levels. Collections further down appear empty. -/
def view (s : Outline) : Nat → Reference → Value
  | _, .scalar v => .scalar v
  | 0, .collection _ => .list []
  | depth + 1, .collection id =>
    match s.levels.lookup id with
    | none => .list []
    | some (.list items) => .list (items.map (s.view depth))
    | some (.pairs items) => 
      .list (items.map fun (a, b) => .tuple [s.view depth a, s.view depth b])
    | some (.set elements) => .set elements
    | some (.mapping entries) => .mapping (entries.map fun (k, r) => (k, s.view depth r))

/-- The value of a document, made in full and seen down to `depth` levels. -/
def ofDocument (depth : Nat) (d : Document) : Except Fault Value := do
  let start : Outline := ⟨d.graph, [], [], []⟩
  let (root, s) ← (refer d.root).run start
  let (_, s) ← (drain (d.graph.size + 1)).run s
  return s.view depth root

end Outline

end TermAudit.Yaml
