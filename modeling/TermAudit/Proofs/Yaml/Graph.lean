import TermAudit.Proofs.Yaml.Values

/-!
# `TermAudit.Proofs.Yaml.Graph`: the nodes that happenings give

A graph is built from events one by one, with the open collections on a stack. `Builder.Gives` says
what a part of a document adds to it, wherever the part stands: some nodes at the end, of which those
in `ids` go into the collection around. What the finished graph has at their places is a property of
the part alone, as nothing but the end of a collection changes a node, and that one is outside.
-/

set_option autoImplicit false

namespace TermAudit.Yaml

/-- The graph has these nodes from the place `first` on. Nodes before it are left open, as a part of a
document can stand anywhere. -/
def Graph.Has (g : Graph) (first : Nat) (nodes : Array Node) : Prop :=
  ∀ i, first ≤ i → i < nodes.size → g.nodes[i]? = nodes[i]?

/-- What is found at a place in the array is the node with this number. -/
theorem Graph.node_of_getElem? {g : Graph} {id : NodeId} {n : Node} (h : g.nodes[id]? = some n) :
    id < g.size ∧ g.node id = n := by
  constructor
  · exact (Array.getElem?_eq_some_iff.mp h).1
  · unfold Graph.node
    rw [Array.getD_eq_getD_getElem?, h]
    rfl

namespace Builder

variable {b : Builder} {happenings happenings' : List Happening}
  {P P' : Graph → Nat → List NodeId → Prop}

/-- Puts nodes into the innermost open collection, one after the other. -/
def attachAll (ids : List NodeId) (b : Builder) : Builder :=
  ids.foldl (fun b id => b.attach id) b

/-- Nodes are put in one after the other, so some and then others are all of them. -/
theorem attachAll_append (ids ids' : List NodeId) (b : Builder) :
    attachAll (ids ++ ids') b = attachAll ids' (attachAll ids b) :=
  List.foldl_append

/-- Putting nodes into a collection makes no nodes: it only notes their numbers. -/
theorem nodes_attachAll (ids : List NodeId) (b : Builder) : (attachAll ids b).nodes = b.nodes := by
  induction ids generalizing b with
  | nil => rfl
  | cons id ids ih =>
    show (attachAll ids (b.attach id)).nodes = _
    rw [ih]
    unfold attach
    split
    · rfl
    · rfl

/-- It does not matter when the nodes are there. -/
theorem attachAll_nodes (ids : List NodeId) (nodes : Array Node) (b : Builder) :
    { attachAll ids b with nodes := nodes } = attachAll ids { b with nodes := nodes } := by
  induction ids generalizing b with
  | nil => rfl
  | cons id ids ih =>
    show ({ attachAll ids (b.attach id) with nodes := nodes } : Builder) = _
    rw [ih]
    obtain ⟨ns, anchors, openCollections, root⟩ := b
    cases openCollections with
    | nil => rfl
    | cons c outer => rfl

/-- They are noted in the innermost open collection, the last one first. -/
theorem attachAll_open (ids : List NodeId) (nodes : Array Node) (anchors : List (Text × NodeId))
    (c : OpenCollection) (outer : List OpenCollection) (root : Option NodeId) :
    attachAll ids ⟨nodes, anchors, c :: outer, root⟩ =
      ⟨nodes, anchors, ⟨c.id, ids.reverse ++ c.children⟩ :: outer, root⟩ := by
  induction ids generalizing c with
  | nil => rfl
  | cons id ids ih =>
    show attachAll ids ⟨nodes, anchors, ⟨c.id, id :: c.children⟩ :: outer, root⟩ = _
    rw [ih, List.reverse_cons, List.append_assoc]
    rfl

/-- A part of a document adds nodes, of which `ids` go into the collection around. `P` is what the
finished graph has there, given where the new nodes begin. Nodes that were there before stay as they are,
so parts can be put together. -/
def Gives (happenings : List Happening) (P : Graph → Nat → List NodeId → Prop) : Prop :=
  ∀ (events : List Event) (b : Builder), events.map Event.happening = happenings →
    ∃ nodes ids, events.foldlM step b = .ok (attachAll ids { b with nodes := nodes }) ∧
      b.nodes.size ≤ nodes.size ∧ (∀ i, i < b.nodes.size → nodes[i]? = b.nodes[i]?) ∧
      ∀ g : Graph, g.Has b.nodes.size nodes → P g b.nodes.size ids

/-- A part that gives nodes with one property gives nodes with any that follows from it. -/
theorem Gives.mono (h : Gives happenings P)
    (himp : ∀ (g : Graph) (first : Nat) (ids : List NodeId), P g first ids → P' g first ids) :
    Gives happenings P' := by
  intro events b hevents
  obtain ⟨nodes, ids, hrun, hsize, hold, hP⟩ := h events b hevents
  exact ⟨nodes, ids, hrun, hsize, hold, fun g hg => himp g _ ids (hP g hg)⟩

/-- One part and then another. -/
theorem Gives.append (h : Gives happenings P) (h' : Gives happenings' P') :
    Gives (happenings ++ happenings') fun g first all =>
      ∃ ids ids' second, all = ids ++ ids' ∧ first ≤ second ∧ P g first ids ∧ P' g second ids' := by
  intro events b hevents
  obtain ⟨front, behind, rfl, hfront, hbehind⟩ := List.map_eq_append_iff.mp hevents
  obtain ⟨nodes, ids, hrun, hsize, hold, hP⟩ := h front b hfront
  obtain ⟨nodes', ids', hrun', hsize', hold', hP'⟩ :=
    h' behind (attachAll ids { b with nodes := nodes }) hbehind
  rw [nodes_attachAll] at hsize' hold' hP'
  refine ⟨nodes', ids ++ ids', ?_, Nat.le_trans hsize hsize', ?_, ?_⟩
  · rw [List.foldlM_append, hrun, attachAll_append, ← attachAll_nodes ids nodes']
    show List.foldlM step (attachAll ids { b with nodes := nodes }) behind = _
    rw [hrun', ← attachAll_nodes ids nodes]
  · -- The second part changes no node that the first has made.
    intro i hi
    rw [hold' i (Nat.lt_of_lt_of_le hi hsize), hold i hi]
  · -- A graph with the nodes of both has those of the first part at their places.
    intro g hg
    refine ⟨ids, ids', nodes.size, rfl, hsize, hP g fun i hfirst hi => ?_, hP' g fun i hfirst hi => ?_⟩
    · rw [hg i hfirst (Nat.lt_of_lt_of_le hi hsize'), hold' i hi]
    · exact hg i (Nat.le_trans hsize hfirst) hi

/-! ## Nodes -/

/-- A scalar is a node of its own. -/
theorem gives_scalar (form : ScalarForm) (content : Text) :
    Gives [.scalar ⟨none, none⟩ form content] fun g first ids => ids = [first] ∧ first < g.size ∧
      (g.node first).tag = scalarTag ⟨none, none⟩ form content ∧
      (g.node first).content = .scalar content := by
  intro events b hevents
  obtain ⟨event, rfl, hevent⟩ := List.map_eq_singleton_iff.mp hevents
  obtain ⟨happening, position⟩ := event
  dsimp only at hevent
  subst hevent
  refine ⟨b.nodes.push ⟨scalarTag ⟨none, none⟩ form content, position, .scalar content⟩,
    [b.nodes.size], rfl, ?_, ?_, ?_⟩
  · rw [Array.size_push]
    exact Nat.le_succ _
  · intro i hi
    rw [Array.getElem?_push_lt hi, Array.getElem?_eq_getElem hi]
  · intro g hg
    -- The new node is the last one, so its number was the number of nodes.
    have hnode := hg b.nodes.size (Nat.le_refl _) (by rw [Array.size_push]; exact Nat.lt_succ_self _)
    rw [Array.getElem?_push_size] at hnode
    obtain ⟨hlt, hnode⟩ := Graph.node_of_getElem? hnode
    rw [hnode]
    exact ⟨rfl, hlt, rfl, rfl⟩

/-- Fills a collection with nodes. The children of a mapping are keys and values in turn. -/
def filled (children : List NodeId) (n : Node) : Node :=
  match n.content with
  | .mapping _ => { n with content := .mapping (pairs children) }
  | _ => { n with content := .sequence children }

/-- The end of a collection fills its node with what has been noted, in the order of the document, and puts
it into the collection around. -/
theorem close_open (nodes : Array Node) (anchors : List (Text × NodeId)) (c : OpenCollection)
    (outer : List OpenCollection) (root : Option NodeId) :
    close ⟨nodes, anchors, c :: outer, root⟩ =
      attach c.id ⟨nodes.modify c.id (filled c.children.reverse), anchors, outer, root⟩ :=
  rfl

/-- A collection is the node that is opened, filled with the nodes inside. -/
theorem gives_collection {opening closing : Happening} {n : Position → Node}
    (hopen : ∀ (b : Builder) (position : Position), b.step ⟨opening, position⟩ =
      .ok { b with
        nodes := b.nodes.push (n position)
        openCollections := ⟨b.nodes.size, []⟩ :: b.openCollections })
    (hclose : ∀ (b : Builder) (position : Position), b.step ⟨closing, position⟩ = .ok b.close)
    (h : Gives happenings P) :
    Gives (opening :: happenings ++ [closing]) fun g first ids => ids = [first] ∧ first < g.size ∧
      ∃ position inside, g.node first = filled inside (n position) ∧ P g (first + 1) inside := by
  intro events b hevents
  obtain ⟨front, behind, rfl, hfront, hbehind⟩ := List.map_eq_append_iff.mp hevents
  obtain ⟨first, events, rfl, hfirst, hinside⟩ := List.map_eq_cons_iff.mp hfront
  obtain ⟨last, rfl, hlast⟩ := List.map_eq_singleton_iff.mp hbehind
  obtain ⟨happening, position⟩ := first
  obtain ⟨happening', position'⟩ := last
  dsimp only at hfirst hlast
  subst hfirst hlast
  obtain ⟨ns, anchors, openCollections, root⟩ := b
  -- The collection is pushed before what is inside of it, so its number is the first, and the nodes inside
  -- have the numbers behind it.
  obtain ⟨nodes, inside, hrun, hsize, hold, hP⟩ :=
    h events ⟨ns.push (n position), anchors, ⟨ns.size, []⟩ :: openCollections, root⟩ hinside
  dsimp only at hsize hold hP
  rw [Array.size_push] at hsize hold hP
  refine ⟨nodes.modify ns.size (filled inside), [ns.size], ?_, ?_, ?_, ?_⟩
  · -- Opening and closing are one step each around the steps for what is inside.
    rw [List.foldlM_append, List.foldlM_cons, hopen]
    show (List.foldlM step _ events >>= _) = _
    rw [hrun, attachAll_open]
    show List.foldlM step _ [⟨happening', position'⟩] = _
    rw [List.foldlM_cons, hclose, close_open, List.append_nil, List.reverse_reverse]
    rfl
  · dsimp only
    rw [Array.size_modify]
    exact Nat.le_of_succ_le hsize
  · intro i hi
    dsimp only at hi ⊢
    -- Closing changes only the node of the collection itself.
    rw [Array.getElem?_modify, if_neg (Nat.ne_of_gt hi), hold i (Nat.lt_succ_of_lt hi),
      Array.getElem?_push_lt hi, Array.getElem?_eq_getElem hi]
  · intro g hg
    dsimp only at hg ⊢
    have hnode := hg ns.size (Nat.le_refl _) (by rw [Array.size_modify]; exact hsize)
    rw [Array.getElem?_modify, if_pos rfl, hold _ (Nat.lt_succ_self _),
      Array.getElem?_push_size] at hnode
    obtain ⟨hlt, hnode⟩ := Graph.node_of_getElem? hnode
    refine ⟨rfl, hlt, position, inside, hnode, hP g fun i hfirst hi => ?_⟩
    rw [hg i (Nat.le_of_succ_le hfirst) (by rw [Array.size_modify]; exact hi),
      Array.getElem?_modify, if_neg (Nat.ne_of_lt hfirst)]

/-- A sequence without an anchor or a tag gives its own node and then those in it. It has the tag of
sequences, since no tag is written. -/
theorem gives_sequence (h : Gives happenings P) :
    Gives (.sequenceStart ⟨none, none⟩ :: happenings ++ [.sequenceEnd]) fun g first ids =>
      ids = [first] ∧ first < g.size ∧ (g.node first).tag = .seq ∧
      ∃ inside, (g.node first).content = .sequence inside ∧ P g (first + 1) inside := by
  refine (gives_collection (n := fun position => ⟨.seq, position, .sequence []⟩)
    (fun _ _ => rfl) (fun _ _ => rfl) h).mono ?_
  rintro g first ids ⟨hids, hlt, position, inside, hnode, hP⟩
  rw [hnode]
  exact ⟨hids, hlt, rfl, inside, rfl, hP⟩

/-- A mapping gives its own node and then those in it, which are taken as keys and values in turn. -/
theorem gives_mapping (h : Gives happenings P) :
    Gives (.mappingStart ⟨none, none⟩ :: happenings ++ [.mappingEnd]) fun g first ids =>
      ids = [first] ∧ first < g.size ∧ (g.node first).tag = .map ∧
      ∃ inside, (g.node first).content = .mapping (pairs inside) ∧ P g (first + 1) inside := by
  refine (gives_collection (n := fun position => ⟨.map, position, .mapping []⟩)
    (fun _ _ => rfl) (fun _ _ => rfl) h).mono ?_
  rintro g first ids ⟨hids, hlt, position, inside, hnode, hP⟩
  rw [hnode]
  exact ⟨hids, hlt, rfl, inside, rfl, hP⟩

/-- Nothing gives nothing. -/
theorem gives_nil : Gives [] fun _ _ ids => ids = [] := by
  intro events b hevents
  obtain rfl := List.map_eq_nil_iff.mp hevents
  exact ⟨b.nodes, [], rfl, Nat.le_refl _, fun _ _ => rfl, fun _ _ => rfl⟩

/-! ## Values -/

/-- The part is a node that shows the value. It is the first of its nodes, and all others are inside of
it. -/
def GivesValue (happenings : List Happening) (v : Value) : Prop :=
  Gives happenings fun g first ids => ∃ id, ids = [id] ∧ first ≤ id ∧ g.Shows id v

/-- The part is the items of a list. -/
def GivesItems (happenings : List Happening) (items : List Value) : Prop :=
  Gives happenings fun g first ids => ∀ around, around < first → g.ShowsItems around ids items

/-- The part is the entries of a mapping. -/
def GivesEntries (happenings : List Happening) (entries : List (Scalar × Value)) : Prop :=
  Gives happenings fun g first ids =>
    ∀ around, around < first → g.ShowsEntries around (pairs ids) entries

/-- Nothing at all is the items of the empty list. -/
theorem givesItems_nil : GivesItems [] [] :=
  gives_nil.mono fun _ _ _ hids _ _ => hids

/-- A value and then the items of a list are the items of a longer list. The nodes of the value come first,
so the others are behind the node around as well. -/
theorem givesItems_cons {v : Value} {items : List Value} (h : GivesValue happenings v)
    (h' : GivesItems happenings' items) : GivesItems (happenings ++ happenings') (v :: items) := by
  refine (Gives.append h h').mono ?_
  rintro g first all ⟨ids, ids', second, rfl, hle, ⟨id, rfl, hid, hv⟩, hitems⟩ around haround
  exact ⟨id, ids', rfl, Nat.lt_of_lt_of_le haround hid, hv,
    hitems around (Nat.lt_of_lt_of_le haround hle)⟩

/-- Nothing at all is the entries of the empty mapping. -/
theorem givesEntries_nil : GivesEntries [] [] := by
  refine gives_nil.mono fun g first ids hids around _ => ?_
  rw [hids]
  rfl

/-- A quoted key, its value, and then the entries of a mapping are the entries of a longer mapping. That the
key is quoted makes it a text, whatever is written between the marks. -/
theorem givesEntries_cons {key : Text} {v : Value} {entries : List (Scalar × Value)}
    (h : GivesValue happenings v) (h' : GivesEntries happenings' entries) :
    GivesEntries (.scalar ⟨none, none⟩ .string key :: happenings ++ happenings')
      ((.text key, v) :: entries) := by
  refine (((gives_scalar .string key).append h).append h').mono ?_
  rintro g first all ⟨ids, ids', third, rfl, hle, ⟨idk, idv, second, rfl, hle', hkey, hv⟩, hentries⟩
    around haround
  obtain ⟨rfl, hlt, htag, hcontent⟩ := hkey
  obtain ⟨id, rfl, hid, hv⟩ := hv
  exact ⟨first, id, pairs ids', key, rfl, rfl, haround, hlt, .text key htag hcontent,
    Nat.lt_of_lt_of_le haround (Nat.le_trans hle' hid), hv,
    hentries around (Nat.lt_of_lt_of_le haround hle)⟩

/-- The items between the marks of a sequence are a list. -/
theorem givesValue_list {items : List Value} (h : GivesItems happenings items) :
    GivesValue (.sequenceStart ⟨none, none⟩ :: happenings ++ [.sequenceEnd]) (.list items) := by
  refine (gives_sequence h).mono ?_
  rintro g first ids ⟨rfl, hlt, htag, inside, hcontent, hitems⟩
  exact ⟨first, rfl, Nat.le_refl _, hlt, htag, inside, hcontent,
    hitems first (Nat.lt_succ_self _)⟩

/-- The entries between the marks of a mapping are a mapping, if their keys are different. -/
theorem givesValue_mapping {entries : List (Scalar × Value)}
    (hnodup : (entries.map Prod.fst).Nodup) (h : GivesEntries happenings entries) :
    GivesValue (.mappingStart ⟨none, none⟩ :: happenings ++ [.mappingEnd]) (.mapping entries) := by
  refine (gives_mapping h).mono ?_
  rintro g first ids ⟨rfl, hlt, htag, inside, hcontent, hentries⟩
  exact ⟨first, rfl, Nat.le_refl _, hlt, htag, hnodup, pairs inside, hcontent,
    hentries first (Nat.lt_succ_self _)⟩

/-- A scalar that is no text, given what its tag makes of it. -/
theorem givesValue_scalar {form : ScalarForm} {content : Text} {s : Scalar}
    (h : ∀ (g : Graph) (id : NodeId), (g.node id).tag = scalarTag ⟨none, none⟩ form content →
      (g.node id).content = .scalar content → g.ShowsScalar id s) :
    GivesValue [.scalar ⟨none, none⟩ form content] (.scalar s) := by
  refine (gives_scalar form content).mono ?_
  rintro g first ids ⟨rfl, hlt, htag, hcontent⟩
  exact ⟨first, rfl, Nat.le_refl _, hlt, h g first htag hcontent⟩

end Builder

namespace Document

variable {events : Events}

/-- A document that happens without a fault is the value that its happenings give. -/
theorem exists_of_gives {happenings : List Happening} {v : Value}
    (h : Builder.GivesValue happenings v) (hfault : events.fault = none)
    (hevents : events.items.map Event.happening =
      .documentStart :: happenings ++ [.documentEnd, .streamEnd]) :
    ∃ d : Document, ofEvents events = .ok (some d) ∧ d.graph.Shows d.root v := by
  obtain ⟨items, fault⟩ := events
  dsimp only at hfault hevents
  subst hfault
  obtain ⟨front, behind, rfl, hfront, hbehind⟩ := List.map_eq_append_iff.mp hevents
  obtain ⟨⟨start, p₀⟩, inside, rfl, hstart, hinside⟩ := List.map_eq_cons_iff.mp hfront
  obtain ⟨⟨stop, p₁⟩, last, rfl, hstop, hlast⟩ := List.map_eq_cons_iff.mp hbehind
  obtain ⟨⟨final, p₂⟩, rfl, hfinal⟩ := List.map_eq_singleton_iff.mp hlast
  dsimp only at hstart hstop hfinal
  subst hstart hstop hfinal
  -- The value is built from nothing, and nothing is attached behind it.
  obtain ⟨nodes, ids, hrun, -, -, hshows⟩ := h inside ⟨#[], [], [], none⟩ hinside
  obtain ⟨id, rfl, -, hv⟩ := hshows ⟨nodes⟩ fun _ _ _ => rfl
  refine ⟨⟨⟨nodes⟩, id⟩, ?_, hv⟩
  unfold ofEvents
  rw [List.foldlM_append, List.foldlM_cons]
  show ((List.foldlM Builder.step _ inside >>= _) >>= _) = _
  rw [hrun]
  rfl

/-- There is no document in front of a fault. -/
theorem exists_error_of_fault (h : events.fault.isSome = true) :
    ∃ fault, ofEvents events = .error fault := by
  obtain ⟨fault, hfault⟩ := Option.isSome_iff_exists.mp h
  unfold ofEvents
  cases List.foldlM Builder.step ⟨#[], [], [], none⟩ events.items with
  | error fault => exact ⟨fault, rfl⟩
  | ok b =>
    rw [hfault]
    exact ⟨fault, rfl⟩

end Document

/-! ## Texts of scalars -/

/-- All scalars of the graph have texts with the property. It follows from the same statement about the
events. -/
def Graph.Over (P : Text → Prop) (g : Graph) : Prop :=
  ∀ id t, (g.node id).content = .scalar t → P t

namespace Builder

variable {P : Text → Prop} {b b' : Builder}

/-- A new node has the next number, and changes none of those before it. -/
theorem node_push (nodes : Array Node) (n : Node) (id : NodeId) :
    (⟨nodes.push n⟩ : Graph).node id =
      if id = nodes.size then n else (⟨nodes⟩ : Graph).node id := by
  unfold Graph.node
  rw [Array.getD_eq_getD_getElem?, Array.getD_eq_getD_getElem?, Array.getElem?_push]
  split
  · rfl
  · rfl

/-- A new node adds no other texts than its own. -/
theorem over_push {nodes : Array Node} {n : Node} (h : Graph.Over P ⟨nodes⟩)
    (hn : ∀ t, n.content = .scalar t → P t) : Graph.Over P ⟨nodes.push n⟩ := by
  intro id t ht
  rw [node_push] at ht
  split at ht
  · exact hn t ht
  · exact h id t ht

/-- A node with its properties adds no other texts than its own: an anchor and a tag are no texts of the
graph. -/
theorem over_add {p : Properties} {n : Node} {id : NodeId} (h : Graph.Over P ⟨b.nodes⟩)
    (hn : ∀ t, n.content = .scalar t → P t) (hadd : b.add p n = .ok (id, b')) :
    Graph.Over P ⟨b'.nodes⟩ := by
  unfold add at hadd
  split at hadd
  · cases hadd
    exact over_push h hn
  · dsimp only at hadd
    split at hadd
    · cases hadd
    · cases hadd
      exact over_push h hn

/-- Putting a node into the collection around changes no node. -/
theorem nodes_attach (id : NodeId) (b : Builder) : (b.attach id).nodes = b.nodes := by
  unfold attach
  split
  · rfl
  · rfl

/-- Closing a collection changes no scalar. -/
theorem over_close (h : Graph.Over P ⟨b.nodes⟩) : Graph.Over P ⟨b.close.nodes⟩ := by
  unfold close
  split
  · exact h
  · rename_i c outer _
    dsimp only
    rw [nodes_attach]
    -- Closing fills one node with a collection, so it makes no scalar.
    intro id t ht
    unfold Graph.node at ht
    rw [Array.getD_eq_getD_getElem?, Array.getElem?_modify] at ht
    split at ht
    · cases hnode : b.nodes[id]? with
      | none =>
        rw [hnode] at ht
        refine h id t ?_
        unfold Graph.node
        rw [Array.getD_eq_getD_getElem?, hnode]
        exact ht
      | some n =>
        rw [hnode] at ht
        dsimp only [Option.map_some, Option.getD_some] at ht
        split at ht
        · cases ht
        · cases ht
    · refine h id t ?_
      unfold Graph.node
      rw [Array.getD_eq_getD_getElem?]
      exact ht

/-- A step adds no text but that of its event. -/
theorem over_step {e : Event} (h : Graph.Over P ⟨b.nodes⟩)
    (he : ∀ p form content, e.happening = .scalar p form content → P content)
    (hstep : b.step e = .ok b') : Graph.Over P ⟨b'.nodes⟩ := by
  -- Sequences and mappings are opened as nodes without a text.
  have hopen {p : Properties} {n : Node} (hn : ∀ t, n.content = .scalar t → P t)
      (hstep : b.openCollection p n = .ok b') : Graph.Over P ⟨b'.nodes⟩ := by
    unfold openCollection at hstep
    obtain ⟨⟨id, b₁⟩, hadd, hstep⟩ := bind_eq_ok_iff.mp hstep
    cases hstep
    have hb₁ : Graph.Over P ⟨b₁.nodes⟩ := over_add h hn hadd
    exact hb₁
  unfold step at hstep
  split at hstep
  · split at hstep
    · cases hstep
    · cases hstep
      exact h
  · cases hstep
    exact h
  · cases hstep
    exact h
  · split at hstep
    · cases hstep
      rw [nodes_attach]
      exact h
    · cases hstep
  · rename_i p form content heq
    obtain ⟨⟨id, b₁⟩, hadd, hstep⟩ := bind_eq_ok_iff.mp hstep
    cases hstep
    rw [nodes_attach]
    -- A scalar has the text of its event.
    have hcontent : ∀ t, Content.scalar content = .scalar t → P t := by
      intro t ht
      cases ht
      exact he p form content heq
    exact over_add h hcontent hadd
  · exact hopen (fun t ht => by cases ht) hstep
  · exact hopen (fun t ht => by cases ht) hstep
  · cases hstep
    exact over_close h
  · cases hstep
    exact over_close h

end Builder

/-- The events go one by one, and none makes a text that is not its own. -/
theorem Builder.over_foldlM {P : Text → Prop} {items : List Event} {b b' : Builder}
    (hb : Graph.Over P ⟨b.nodes⟩)
    (h : ∀ e ∈ items, ∀ p form content, e.happening = .scalar p form content → P content)
    (hrun : items.foldlM Builder.step b = .ok b') : Graph.Over P ⟨b'.nodes⟩ := by
  induction items generalizing b with
  | nil =>
    cases hrun
    exact hb
  | cons e items ih =>
    rw [List.foldlM_cons] at hrun
    obtain ⟨b₁, hstep, hrun⟩ := bind_eq_ok_iff.mp hrun
    exact ih (Builder.over_step hb (h e List.mem_cons_self) hstep)
      (fun e he => h e (List.mem_cons_of_mem _ he)) hrun

/-- The texts of the scalars of a document are those in its events. -/
theorem Document.over_ofEvents {P : Text → Prop} {events : Events} {d : Document} (hnil : P [])
    (h : ∀ e ∈ events.items, ∀ p form content, e.happening = .scalar p form content → P content)
    (hd : ofEvents events = .ok (some d)) : d.graph.Over P := by
  unfold ofEvents at hd
  obtain ⟨b, hrun, hd⟩ := bind_eq_ok_iff.mp hd
  split at hd
  · cases hd
  · obtain ⟨root, -, rfl⟩ := Option.map_eq_some_iff.mp (Except.ok.inj hd)
    refine Builder.over_foldlM (fun id t ht => ?_) h hrun
    -- A graph without nodes has only the node that stands for none, whose text is empty.
    cases ht
    exact hnil

end TermAudit.Yaml
