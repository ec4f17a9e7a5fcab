import TermAudit.Yaml.Graph

/-!
# `TermAudit.Yaml.Merge`: mappings that take over entries of others

The value of a key `<<` is a mapping, or a list of mappings, whose entries the mapping takes over.
`Graph.merged` carries this out in the graph: the keys `<<` disappear, the entries taken over come
first, those of a list with its last mapping first, and keys `=` become plain strings. The sources
are merged themselves before, so wherever else they occur in the document they are then without
`<<` too.

Every use of a key `<<` removes it and none is ever copied, because a source has none left when
its entries are taken. So their number bounds the work, even in a mapping that merges itself.
-/

set_option autoImplicit false

namespace TermAudit.Yaml.Graph

/-- How many keys `<<` there are in the graph. Each merge takes one away for good, so no more merges than
these can be made. -/
def mergeCount (g : Graph) : Nat :=
  let isMerge (e : NodeId × NodeId) : Bool := (g.node e.1).tag == .merge
  (g.nodes.toList.map fun n =>
    match n.content with
    | .mapping entries => entries.countP isMerge
    | _ => 0).foldr (· + ·) 0

/-- Takes the first entry with a key `<<` out of a list: its value, and the other entries. -/
def splitMerge (g : Graph) : List (NodeId × NodeId) → Option (NodeId × List (NodeId × NodeId))
  | [] => none
  | (key, value) :: rest =>
    if (g.node key).tag = .merge then some (value, rest)
    else (splitMerge g rest).map fun (source, others) => (source, (key, value) :: others)

/-- Makes keys `=` plain strings. This is done when a mapping has no more key `<<`, and changes nodes of
the graph. -/
def plainKeys (g : Graph) (entries : List (NodeId × NodeId)) : Graph :=
  entries.foldl
    (fun g e =>
      let key := g.node e.1
      if key.tag = .value then g.set e.1 { key with tag := .str } else g)
    g

/-- The nodes whose entries the value of a key `<<` stands for, in the order in which the document has
them: a mapping itself, or the mappings in a sequence. `user` is the mapping that merges. -/
def mergeSources (g : Graph) (user source : NodeId) : Except Fault (List NodeId) :=
  match (g.node source).content with
  | .mapping _ => pure [source]
  | .sequence items => pure items
  | .scalar _ => g.refuseIn .mapping user source (.notMergeable .scalar)

/-- Ends the work on a mapping: its own keys become plain, and the entries taken over go in
front. -/
def finishMerge (g : Graph) (id : NodeId) (taken : List (NodeId × NodeId)) : Graph :=
  let own := g.entries id
  (g.plainKeys own).setEntries id (taken ++ own)

/-- Merges into the mapping `id`, which has taken over the entries `taken` already. The sources make their
own merges first. As the graph is changed on the way, a mapping that is used in several places has its
merges made once. -/
def mergeInto : Nat → Graph → NodeId → List (NodeId × NodeId) → Except Fault Graph
  | 0, g, id, taken => pure (g.finishMerge id taken)
  | fuel + 1, g, id, taken =>
    match g.splitMerge (g.entries id) with
    | none => pure (g.finishMerge id taken)
    | some (source, others) => do
      let g := g.setEntries id others
      let sources ← g.mergeSources id source
      let (g, found) ←
        sources.foldlM
          (fun (g, found) source => do
            match (g.node source).content with
            | .mapping _ =>
              let g ← mergeInto fuel g source []
              return (g, g.entries source :: found)
            | _ => g.refuseIn .mapping id source (.notMergeableItem (g.kind source)))
          (g, [])
      mergeInto fuel g id (taken ++ found.flatten)

/-- The graph in which the mapping `id` has taken over what it merges. The mapping of a node stays that
way, also for whatever is read from the node later. -/
def merged (g : Graph) (id : NodeId) : Except Fault Graph :=
  mergeInto g.mergeCount g id []

/-! ## What collections hold -/

/-- The items of a sequence. -/
def items (g : Graph) (id : NodeId) : Except Fault (List NodeId) :=
  match (g.node id).content with
  | .sequence items => pure items
  | _ => g.refuse id (.wrongKind .sequence (g.kind id))

/-- The entries of a mapping after its merges, and the graph with these carried out. -/
def mergedEntries (g : Graph) (id : NodeId) : Except Fault (List (NodeId × NodeId) × Graph) := do
  match (g.node id).content with
  | .mapping _ =>
    let g ← g.merged id
    return (g.entries id, g)
  | _ => g.refuse id (.wrongKind .mapping (g.kind id))

/-- What making the value of a list of pairs is called; a list whose keys are in order is one kind
of it. -/
def pairsActivity (g : Graph) (id : NodeId) : Activity :=
  if (g.node id).tag = .omap then .orderedMap else .pairs

/-- The items of a sequence of pairs. -/
def pairItems (g : Graph) (id : NodeId) : Except Fault (List NodeId) :=
  match (g.node id).content with
  | .sequence items => pure items
  | _ => g.refuseIn (g.pairsActivity id) id id (.notPairs (g.kind id))

/-- The key and the value of a pair, that is, of a mapping with one entry, in the sequence `around`. Its
merges are not made, so a key `<<` is a key here. -/
def singleEntry (g : Graph) (around id : NodeId) : Except Fault (NodeId × NodeId) :=
  match (g.node id).content with
  | .mapping [entry] => pure entry
  | .mapping entries =>
    g.refuseIn (g.pairsActivity around) around id (.pairSize entries.length)
  | _ => g.refuseIn (g.pairsActivity around) around id (.notPair (g.kind id))

end TermAudit.Yaml.Graph
