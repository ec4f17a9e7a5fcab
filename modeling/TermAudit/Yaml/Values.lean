import TermAudit.Yaml.Scalars

/-!
# `TermAudit.Yaml.Values`: the values of nodes

`Evaluation.value` makes the value of a node together with everything in it. What has been made
once is remembered, so that a node has the same value wherever it occurs, and a node that contains
itself is refused.

Making the value of a mapping carries out its merges in the graph. So the graph is part of the
state, and the state goes from one evaluation to the next.
-/

set_option autoImplicit false

namespace TermAudit.Yaml

/-- What is known while the values of a document are made. The graph is a part of it, since merges change
it. -/
structure Evaluation where
  graph : Graph
  /-- The values that have been made. -/
  known : List (NodeId × Value)

/-- A computation over the values of a document. -/
abbrev Evaluating := StateT Evaluation (Except Fault)

namespace Evaluation

/-- Nothing is known of a graph at first. -/
def start (g : Graph) : Evaluation := ⟨g, []⟩

/-- Refuses the document because of a node. -/
def refuse {α : Type} (id : NodeId) (problem : Problem) : Evaluating α := do
  (← get).graph.refuse id problem

/-- The entries of a mapping after its merges. -/
def mergedEntries (id : NodeId) : Evaluating (List (NodeId × NodeId)) := do
  let s ← get
  let (entries, g) ← s.graph.mergedEntries id
  set { s with graph := g }
  return entries

/-- The entries of a mapping node, given how to make the value of a node in it. -/
def mapping (value : NodeId → Evaluating Value) (id : NodeId) :
    Evaluating (List (Scalar × Value)) := do
  (← mergedEntries id).foldlM
    (fun made (key, item) => do
      match ← value key with
      | .scalar k => return Value.putEntry made k (← value item)
      | _ => (← get).graph.refuseIn .mapping id key .unhashableKey)
    []

/-- The value of a collection node, given how to make the value of a node in it. The tag decides, and a
node of another kind than its tag asks for is refused. -/
def collection (value : NodeId → Evaluating Value) (id : NodeId) : Evaluating Value := do
  let g := (← get).graph
  match (g.node id).tag with
  | .seq => return .list (← (← g.items id).mapM value)
  | .map => return .mapping (← mapping value id)
  | .set => return .set ((← mapping value id).map Prod.fst)
  | .omap | .pairs =>
    let pairs ← (← g.pairItems id).mapM fun item => do
      let (key, item) ← (← get).graph.singleEntry id item
      return Value.tuple [← value key, ← value item]
    return .list pairs
  | tag => refuse id (.unknownTag tag.name)

/-- The value of a node that occurs in the nodes `around`. A node that is known is not made again, and one
that is among those around it has no value. There are no more nodes around a node than there are nodes,
which bounds the recursion. -/
def valueIn : Nat → List NodeId → NodeId → Evaluating Value
  | 0, _, _ => throw .endless
  | fuel + 1, around, id => do
    let s ← get
    match s.known.lookup id with
    | some v => return v
    | none =>
      if around.contains id then refuse id .recursiveNode
      let v ←
        match s.graph.scalar? id with
        | some result => pure (Value.scalar (← result))
        | none => collection (valueIn fuel (id :: around)) id
      modify fun s => { s with known := (id, v) :: s.known }
      return v

/-- The value of a node. It is made with what is known from the values before it. -/
def value (id : NodeId) : Evaluating Value := do
  valueIn ((← get).graph.size + 1) [] id

end Evaluation

end TermAudit.Yaml
