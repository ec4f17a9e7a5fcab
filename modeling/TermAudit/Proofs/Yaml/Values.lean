import TermAudit.Proofs.OrderedMap
import TermAudit.Proofs.Result
import TermAudit.Yaml.Values

/-!
# `TermAudit.Proofs.Yaml.Values`: the value that a graph shows

A graph of nodes shows a value at a node if the nodes from there on are the value, written out. It is
meant for documents without aliases and merges, in which the keys of mappings are different texts:
`Graph.Shows` asks for no more of their graphs than that a node comes before the nodes in it.

* `Graph.Shows.unique`: a node shows at most one value;
* `Evaluation.value_of_shows`: the value that is made of a node is the one that it shows, and making
  it leaves the graph as it is.
-/

set_option autoImplicit false

namespace TermAudit.Yaml

namespace Graph

/-! ## Graphs that show values -/

/-- The node is a scalar. The texts are those that have the tag of strings, and all other scalars have a
tag that says how their text is read. -/
inductive ShowsScalar (g : Graph) (id : NodeId) : Scalar → Prop
  | text (t : Text) (htag : (g.node id).tag = .str) (hcontent : (g.node id).content = .scalar t) :
    ShowsScalar g id (.text t)
  | other (s : Scalar) (t : Text) (hs : ∀ t', s ≠ .text t') (htag : (g.node id).tag ≠ .str)
    (hcontent : (g.node id).content = .scalar t) (hscalar : g.scalar? id = some (.ok s)) :
    ShowsScalar g id s

mutual

/-- The node and the nodes in it are the value. Each node comes before those in it, so a value that is
shown ends. Tuples and sets are never shown, as the documents that this is meant for have none. -/
def Shows (g : Graph) (id : NodeId) : Value → Prop
  | .scalar s => id < g.size ∧ g.ShowsScalar id s
  | .list items => id < g.size ∧ (g.node id).tag = .seq ∧
    ∃ ids, (g.node id).content = .sequence ids ∧ g.ShowsItems id ids items
  | .mapping entries => id < g.size ∧ (g.node id).tag = .map ∧ (entries.map Prod.fst).Nodup ∧
    ∃ ids, (g.node id).content = .mapping ids ∧ g.ShowsEntries id ids entries
  | .tuple _ | .set _ => False

/-- The nodes in the node `around` are the values. -/
def ShowsItems (g : Graph) (around : NodeId) (ids : List NodeId) : List Value → Prop
  | [] => ids = []
  | item :: items => ∃ id rest, ids = id :: rest ∧ around < id ∧ g.Shows id item ∧
    g.ShowsItems around rest items

/-- The nodes in the node `around` are the entries, whose keys are texts. -/
def ShowsEntries (g : Graph) (around : NodeId) (ids : List (NodeId × NodeId)) :
    List (Scalar × Value) → Prop
  | [] => ids = []
  | (key, item) :: entries => ∃ keyId id rest t, ids = (keyId, id) :: rest ∧ key = .text t ∧
    around < keyId ∧ keyId < g.size ∧ g.ShowsScalar keyId (.text t) ∧
    around < id ∧ g.Shows id item ∧ g.ShowsEntries around rest entries

end

variable {g : Graph} {id : NodeId}

/-- A node shows a text exactly if it has the tag of strings and that text. The second constructor is closed
to texts, so that a date or a number whose text looks like one is none. -/
theorem ShowsScalar.text_iff {t : Text} : g.ShowsScalar id (.text t) ↔
    (g.node id).tag = .str ∧ (g.node id).content = .scalar t := by
  constructor
  · intro h
    cases h with
    | text t htag hcontent => exact ⟨htag, hcontent⟩
    | other s t hs => exact absurd rfl (hs _)
  · rintro ⟨htag, hcontent⟩
    exact .text t htag hcontent

/-- A node with the tag of strings has its own text as value. -/
theorem scalar?_of_str {t : Text} (htag : (g.node id).tag = .str)
    (hcontent : (g.node id).content = .scalar t) : g.scalar? id = some (.ok (.text t)) := by
  unfold scalar? text?
  rw [htag, hcontent]
  rfl

/-- What a node shows as a scalar is what is made of it. For texts this is computed, for the rest the
constructor asks for it. -/
theorem ShowsScalar.scalar?_eq {s : Scalar} (h : g.ShowsScalar id s) :
    g.scalar? id = some (.ok s) := by
  cases h with
  | text t htag hcontent => exact scalar?_of_str htag hcontent
  | other _ t _ _ _ hscalar => exact hscalar

/-- Nothing scalar is made of a node with the tag of sequences or mappings, whatever it holds. -/
theorem scalar?_of_tag (h : (g.node id).tag = .seq ∨ (g.node id).tag = .map) :
    g.scalar? id = none := by
  unfold scalar?
  rcases h with h | h
  · rw [h]
  · rw [h]

/-- A node shows at most one scalar, since what is made of it is a function of the graph. -/
theorem ShowsScalar.unique {s s' : Scalar} (h : g.ShowsScalar id s) (h' : g.ShowsScalar id s') :
    s = s' := by
  have heq := h.scalar?_eq.symm.trans h'.scalar?_eq
  cases heq
  rfl

/-- A node that shows something is there. Making a value counts on this: its fuel is the number of nodes. -/
theorem Shows.lt {v : Value} (h : g.Shows id v) : id < g.size := by
  cases v with
  | scalar s => exact h.1
  | list items => exact h.1
  | mapping entries => exact h.1
  | tuple => exact h.elim
  | set => exact h.elim

/-- What a collection holds tells it from a scalar and from the other kind of collection. -/
theorem ShowsScalar.exists_content {s : Scalar} (h : g.ShowsScalar id s) :
    ∃ t, (g.node id).content = .scalar t := by
  cases h with
  | text t _ hcontent => exact ⟨t, hcontent⟩
  | other _ t _ _ hcontent _ => exact ⟨t, hcontent⟩

/-- A scalar is no list. The content tells them apart and not the tag, because a scalar other than a text
may have any tag that is not the one of strings. -/
theorem ShowsScalar.not_shows_list {s : Scalar} {items : List Value} (h : g.ShowsScalar id s) :
    ¬g.Shows id (.list items) := by
  rintro ⟨-, -, ids, hcontent', -⟩
  obtain ⟨t, hcontent⟩ := h.exists_content
  rw [hcontent] at hcontent'
  cases hcontent'

/-- A scalar is no mapping either, for the same reason. -/
theorem ShowsScalar.not_shows_mapping {s : Scalar} {entries : List (Scalar × Value)}
    (h : g.ShowsScalar id s) : ¬g.Shows id (.mapping entries) := by
  rintro ⟨-, -, -, ids, hcontent', -⟩
  obtain ⟨t, hcontent⟩ := h.exists_content
  rw [hcontent] at hcontent'
  cases hcontent'

mutual

/-- A node shows at most one value. So what a document is read as does not depend on how its reading was
found. -/
theorem Shows.unique {id : NodeId} {v w : Value} (h : g.Shows id v) (h' : g.Shows id w) : v = w := by
  match v, w with
  | .scalar s, .scalar s' => rw [h.2.unique h'.2]
  | .list items, .list items' =>
    obtain ⟨-, -, ids, hcontent, hitems⟩ := h
    obtain ⟨-, -, ids', hcontent', hitems'⟩ := h'
    rw [hcontent] at hcontent'
    cases hcontent'
    rw [hitems.unique hitems']
  | .mapping entries, .mapping entries' =>
    obtain ⟨-, -, -, ids, hcontent, hentries⟩ := h
    obtain ⟨-, -, -, ids', hcontent', hentries'⟩ := h'
    rw [hcontent] at hcontent'
    cases hcontent'
    rw [hentries.unique hentries']
  | .scalar s, .list items => exact absurd h' h.2.not_shows_list
  | .scalar s, .mapping entries => exact absurd h' h.2.not_shows_mapping
  | .list items, .scalar s => exact absurd h h'.2.not_shows_list
  | .mapping entries, .scalar s => exact absurd h h'.2.not_shows_mapping
  -- The tag tells lists and mappings apart.
  | .list items, .mapping entries =>
    have heq := h.2.1.symm.trans h'.2.1
    cases heq
  | .mapping entries, .list items =>
    have heq := h.2.1.symm.trans h'.2.1
    cases heq
  | .tuple _, _ => exact h.elim
  | .set _, _ => exact h.elim
  | _, .tuple _ => exact h'.elim
  | _, .set _ => exact h'.elim

/-- The nodes of a sequence show one list of values, item by item. -/
theorem ShowsItems.unique {around : NodeId} {ids : List NodeId} {vs ws : List Value}
    (h : g.ShowsItems around ids vs) (h' : g.ShowsItems around ids ws) : vs = ws := by
  match vs, ws with
  | [], [] => rfl
  | v :: vs, w :: ws =>
    obtain ⟨id, rest, rfl, -, hv, hvs⟩ := h
    obtain ⟨id', rest', heq, -, hw, hws⟩ := h'
    cases heq
    rw [hv.unique hw, hvs.unique hws]
  | [], w :: ws =>
    obtain ⟨id, rest, rfl, -⟩ := h'
    cases h
  | v :: vs, [] =>
    obtain ⟨id, rest, rfl, -⟩ := h
    cases h'

/-- The nodes of a mapping show one list of entries. The keys are texts, and a node is one text. -/
theorem ShowsEntries.unique {around : NodeId} {ids : List (NodeId × NodeId)}
    {vs ws : List (Scalar × Value)} (h : g.ShowsEntries around ids vs)
    (h' : g.ShowsEntries around ids ws) : vs = ws := by
  match vs, ws with
  | [], [] => rfl
  | (k, v) :: vs, (l, w) :: ws =>
    obtain ⟨keyId, id, rest, t, rfl, rfl, -, -, hk, -, hv, hvs⟩ := h
    obtain ⟨keyId', id', rest', t', heq, rfl, -, -, hl, -, hw, hws⟩ := h'
    cases heq
    rw [hk.unique hl, hv.unique hw, hvs.unique hws]
  | [], (l, w) :: ws =>
    obtain ⟨keyId, id, rest, t, rfl, -⟩ := h'
    cases h
  | (k, v) :: vs, [] =>
    obtain ⟨keyId, id, rest, t, rfl, -⟩ := h
    cases h'

end

/-! ## Mappings without merges -/

section NoMerges

variable {ids : List (NodeId × NodeId)}

/-- The keys of the entries are no keys `<<` and no keys `=`. Then making the value of their mapping
merges nothing. -/
def HasPlainKeys (g : Graph) (ids : List (NodeId × NodeId)) : Prop :=
  ∀ e ∈ ids, (g.node e.1).tag ≠ .merge ∧ (g.node e.1).tag ≠ .value

/-- Among plain keys there is none that asks for a merge. -/
theorem splitMerge_of_plain (h : g.HasPlainKeys ids) : g.splitMerge ids = none := by
  induction ids with
  | nil => rfl
  | cons e ids ih =>
    obtain ⟨key, value⟩ := e
    unfold splitMerge
    rw [if_neg (h _ List.mem_cons_self).1, ih fun e he => h e (List.mem_cons_of_mem _ he)]
    rfl

/-- There is no key `=` to be given the tag of strings, so the graph stays as it is. -/
theorem plainKeys_of_plain (h : g.HasPlainKeys ids) : g.plainKeys ids = g := by
  unfold plainKeys
  induction ids with
  | nil => rfl
  | cons e ids ih =>
    rw [List.foldl_cons]
    dsimp only
    rw [if_neg (h e List.mem_cons_self).2]
    exact ih fun e he => h e (List.mem_cons_of_mem _ he)

/-- Setting the entries that are there already changes nothing. -/
theorem setEntries_self (hcontent : (g.node id).content = .mapping ids) :
    g.setEntries id ids = g := by
  obtain ⟨nodes⟩ := g
  -- The node is put back as it was.
  have hnode : { Graph.node ⟨nodes⟩ id with content := .mapping ids } = Graph.node ⟨nodes⟩ id := by
    rw [← hcontent]
  unfold setEntries set
  rw [hnode]
  congr 1
  unfold node
  apply Array.ext
  · exact Array.size_setIfInBounds
  · intro i hi hi'
    rw [Array.getElem_setIfInBounds hi']
    split
    · rename_i heq
      subst heq
      rw [Array.getD_eq_getD_getElem?, Array.getElem?_eq_getElem hi']
      rfl
    · rfl

/-- A mapping without keys `<<` and keys `=` has the entries that it was given. -/
theorem mergedEntries_of_plain (hcontent : (g.node id).content = .mapping ids)
    (h : g.HasPlainKeys ids) : g.mergedEntries id = .ok (ids, g) := by
  have hentries : g.entries id = ids := by
    unfold entries
    rw [hcontent]
  -- With no key to make plain and nothing taken over, the end of a merge changes nothing.
  have hfinish : g.finishMerge id [] = g := by
    unfold finishMerge
    rw [hentries]
    dsimp only
    rw [plainKeys_of_plain h]
    exact setEntries_self hcontent
  have hmerged : g.merged id = .ok g := by
    unfold merged
    -- There may be keys `<<` elsewhere in the graph, but none in this mapping.
    cases g.mergeCount with
    | zero =>
      unfold mergeInto
      rw [hfinish]
      rfl
    | succ n =>
      unfold mergeInto
      rw [hentries, splitMerge_of_plain h]
      dsimp only
      rw [hfinish]
      rfl
  unfold mergedEntries
  rw [hcontent]
  dsimp only
  rw [hmerged]
  show Except.ok (g.entries id, g) = _
  rw [hentries]

end NoMerges

/-- The keys of entries are strings. -/
theorem ShowsEntries.hasPlainKeys {around : NodeId} {ids : List (NodeId × NodeId)}
    {entries : List (Scalar × Value)} (h : g.ShowsEntries around ids entries) : g.HasPlainKeys ids := by
  induction entries generalizing ids with
  | nil =>
    obtain rfl : ids = [] := h
    intro e he
    cases he
  | cons entry entries ih =>
    obtain ⟨keyId, id, rest, t, rfl, -, -, -, hk, -, -, hrest⟩ := h
    intro e he
    rcases List.mem_cons.mp he with rfl | he
    · rw [(ShowsScalar.text_iff.mp hk).1]
      exact ⟨Tag.noConfusion, Tag.noConfusion⟩
    · exact ih hrest e he

end Graph

/-! ## Making values -/

namespace Evaluation

variable {g : Graph} {s : Evaluation} {fuel : Nat} {around : List NodeId} {id : NodeId}

/-- Only values that the graph shows have been made of it, and the graph is as it was. It is the invariant
of making values in such documents. -/
structure Faithful (s : Evaluation) (g : Graph) : Prop where
  graph : s.graph = g
  known : ∀ e ∈ s.known, g.Shows e.1 e.2

/-- Nothing has been made yet, so nothing is wrong. -/
theorem faithful_start (g : Graph) : (start g).Faithful g where
  graph := rfl
  known _ he := absurd he List.not_mem_nil

/-- A value together with what is known when it has been made. It is the last step of making the value of
a node. -/
def remembered (id : NodeId) (r : Value × Evaluation) : Value × Evaluation :=
  (r.1, { r.2 with known := (id, r.1) :: r.2.known })

/-- What is remembered of a node may be added if the graph shows it there. -/
theorem Faithful.remembered {r : Value × Evaluation} (h : r.2.Faithful g) (hv : g.Shows id r.1) :
    (remembered id r).2.Faithful g where
  graph := h.graph
  known e he := by
    rcases List.mem_cons.mp he with rfl | he
    · exact hv
    · exact h.known e he

/-- A value that has been made is not made again. -/
theorem valueIn_of_known {v : Value} (h : s.known.lookup id = some v) :
    (valueIn (fuel + 1) around id).run s = .ok (v, s) := by
  unfold valueIn
  rw [StateT.run_bind, StateT.run_get, pure_bind]
  dsimp only
  rw [h]
  rfl

/-- A scalar that is not known yet is made and remembered. That the node is not among those around it says
that it is no part of itself. -/
theorem valueIn_of_scalar {x : Scalar} (h : s.known.lookup id = none) (haround : id ∉ around)
    (hx : s.graph.scalar? id = some (.ok x)) :
    (valueIn (fuel + 1) around id).run s = .ok (remembered id (.scalar x, s)) := by
  unfold valueIn
  rw [StateT.run_bind, StateT.run_get, pure_bind]
  dsimp only
  rw [h]
  dsimp only
  rw [if_neg (by simpa using haround), hx]
  rfl

/-- A collection that is not known yet is made of what is in it, with the node itself among those around,
and remembered. -/
theorem valueIn_of_collection {r : Value × Evaluation} (h : s.known.lookup id = none)
    (haround : id ∉ around) (hnone : s.graph.scalar? id = none)
    (hr : (collection (valueIn fuel (id :: around)) id).run s = .ok r) :
    (valueIn (fuel + 1) around id).run s = .ok (remembered id r) := by
  unfold valueIn
  rw [StateT.run_bind, StateT.run_get, pure_bind]
  dsimp only
  rw [h]
  dsimp only
  rw [if_neg (by simpa using haround), hnone]
  show ((collection (valueIn fuel (id :: around)) id).run s >>= _) = _
  rw [hr]
  rfl

section Makes

variable {α β : Type}

/-- The computation gives the result on every state that is faithful, and leaves it so. It includes that
there is a result at all. -/
def Makes (g : Graph) (x : Evaluating α) (a : α) : Prop :=
  ∀ s : Evaluation, s.Faithful g → ∃ s' : Evaluation, x.run s = .ok (a, s') ∧ s'.Faithful g

/-- A result that is there already needs no state. -/
theorem makes_pure (g : Graph) (a : α) : Makes g (pure a) a :=
  fun s hs => ⟨s, rfl, hs⟩

/-- One computation after the other: the first leaves a faithful state for the second. -/
theorem Makes.bind {x : Evaluating α} {f : α → Evaluating β} {a : α} {b : β} (hx : Makes g x a)
    (hf : Makes g (f a) b) : Makes g (x >>= f) b := by
  intro s hs
  obtain ⟨s₁, hrun, hs₁⟩ := hx s hs
  obtain ⟨s₂, hrun', hs₂⟩ := hf s₁ hs₁
  refine ⟨s₂, ?_, hs₂⟩
  rw [StateT.run_bind, hrun]
  exact hrun'

end Makes

/-- A value has to be made only where it is not known. -/
theorem makes_valueIn {v : Value} (hshows : g.Shows id v)
    (h : ∀ s : Evaluation, s.Faithful g → s.known.lookup id = none → ∃ s' : Evaluation,
      (valueIn (fuel + 1) around id).run s = .ok (remembered id (v, s')) ∧ s'.Faithful g) :
    Makes g (valueIn (fuel + 1) around id) v := by
  intro s hs
  cases hlookup : s.known.lookup id with
  | some w =>
    have hw : g.Shows id w := hs.known (id, w) (mem_of_lookup hlookup)
    rw [hshows.unique hw]
    exact ⟨s, valueIn_of_known hlookup, hs⟩
  | none =>
    obtain ⟨s', hrun, hs'⟩ := h s hs hlookup
    exact ⟨_, hrun, hs'.remembered hshows⟩

/-- A scalar that the graph shows is made of its node. -/
theorem makes_scalar {x : Scalar} (hshows : g.Shows id (.scalar x)) (haround : id ∉ around) :
    Makes g (valueIn (fuel + 1) around id) (.scalar x) := by
  refine makes_valueIn hshows fun s hs hlookup => ⟨s, valueIn_of_scalar hlookup haround ?_, hs⟩
  rw [hs.graph]
  exact hshows.2.scalar?_eq

/-- A collection that the graph shows is made of its node if it is made of what is in the node. -/
theorem makes_collection {v : Value} (hshows : g.Shows id v) (haround : id ∉ around)
    (hnone : g.scalar? id = none)
    (h : Makes g (collection (valueIn fuel (id :: around)) id) v) :
    Makes g (valueIn (fuel + 1) around id) v := by
  refine makes_valueIn hshows fun s hs hlookup => ?_
  obtain ⟨s', hrun, hs'⟩ := h s hs
  exact ⟨s', valueIn_of_collection hlookup haround (by rw [hs.graph]; exact hnone) hrun, hs'⟩

section Collections

variable {value : NodeId → Evaluating Value}

/-- The list is made item by item, in order. -/
theorem makes_list {ids : List NodeId} {items : List Value} (htag : (g.node id).tag = .seq)
    (hcontent : (g.node id).content = .sequence ids) (h : Makes g (ids.mapM value) items) :
    Makes g (collection value id) (.list items) := by
  intro s hs
  obtain ⟨s', hrun, hs'⟩ := h s hs
  refine ⟨s', ?_, hs'⟩
  have hitems : g.items id = .ok ids := by
    unfold Graph.items
    rw [hcontent]
    rfl
  -- The tag decides which kind of collection is made.
  unfold collection
  rw [StateT.run_bind, StateT.run_get, pure_bind]
  dsimp only
  rw [hs.graph, htag]
  dsimp only
  rw [hitems]
  show ((ids.mapM value).run s >>= _) = _
  rw [hrun]
  rfl

/-- Puts an entry with the value of a node into a mapping. It is the body of the loop over the entries,
given a name. -/
def putItem (around : NodeId) (value : NodeId → Evaluating Value) (made : List (Scalar × Value))
    (e : NodeId × NodeId) : Evaluating (List (Scalar × Value)) := do
  match ← value e.1 with
  | .scalar k => return Value.putEntry made k (← value e.2)
  | _ => (← get).graph.refuseIn .mapping around e.1 .unhashableKey

/-- The mapping is made entry by entry, in order. Nothing is merged into it, so the entries are those that
were written and the graph stays as it is. -/
theorem makes_mapping {ids : List (NodeId × NodeId)} {entries : List (Scalar × Value)}
    (htag : (g.node id).tag = .map) (hmerged : g.mergedEntries id = .ok (ids, g))
    (h : Makes g (ids.foldlM (putItem id value) []) entries) :
    Makes g (collection value id) (.mapping entries) := by
  intro s hs
  obtain ⟨s', hrun, hs'⟩ := h s hs
  refine ⟨s', ?_, hs'⟩
  have hmapping : (mapping value id).run s = .ok (entries, s') := by
    show (mergedEntries id >>= fun ids => ids.foldlM (putItem id value) []).run s = _
    -- Nothing is merged, so the graph stays as it is.
    have hids : (mergedEntries id).run s = .ok (ids, s) := by
      obtain ⟨graph, known⟩ := s
      obtain rfl : graph = g := hs.graph
      unfold mergedEntries
      rw [StateT.run_bind, StateT.run_get, pure_bind]
      dsimp only
      rw [hmerged]
      rfl
    rw [StateT.run_bind, hids]
    exact hrun
  unfold collection
  rw [StateT.run_bind, StateT.run_get, pure_bind]
  dsimp only
  rw [hs.graph, htag]
  dsimp only
  rw [StateT.run_bind, hmapping]
  rfl

/-- An entry with a new key goes to the end. -/
theorem put_of_new {β : Type} {made : List (Scalar × β)} {t : Text} {v : β}
    (htexts : ∀ e ∈ made, ∃ t', e.1 = .text t') (hnew : Scalar.text t ∉ made.map Prod.fst) :
    Entries.put Scalar.sameKey (.text t) v made = made ++ [(.text t, v)] := by
  refine Entries.put_of_other fun e he => ?_
  obtain ⟨t', ht'⟩ := htexts e he
  -- Two texts are the same key only if they are the same text.
  rw [ht']
  show (t' == t) = false
  rw [beq_eq_false_iff_ne]
  rintro rfl
  exact hnew (ht' ▸ List.mem_map_of_mem he)

end Collections

/-- There is fuel for one more node: fuel and number together are more than there are nodes. -/
theorem exists_fuel {size fuel n : Nat} (h : size < fuel + n) (hn : n < size) :
    ∃ k, fuel = k + 1 :=
  ⟨fuel - 1, by omega⟩

/-- A node behind all that are around is not one of them. -/
theorem not_mem_of_lt (h : ∀ a ∈ around, a < id) : id ∉ around :=
  fun hmem => Nat.lt_irrefl _ (h id hmem)

mutual

/-- The value that is made of a node is the one that it shows. There is fuel for every node that
comes behind it. -/
theorem makes_of_shows (v : Value) {fuel : Nat} {around : List NodeId} {id : NodeId}
    (h : g.Shows id v) (hfuel : g.size < fuel + id) (haround : ∀ a ∈ around, a < id) :
    Makes g (valueIn fuel around id) v := by
  have hnot := not_mem_of_lt haround
  obtain ⟨fuel, rfl⟩ := exists_fuel hfuel h.lt
  -- What is inside has larger numbers than what is around, so no node is met inside of itself.
  have hinside : ∀ a ∈ id :: around, a ≤ id := by
    intro a ha
    rcases List.mem_cons.mp ha with rfl | ha
    · exact Nat.le_refl _
    · exact Nat.le_of_lt (haround a ha)
  have hshows := h
  match v with
  | .scalar x => exact makes_scalar h hnot
  | .list items =>
    obtain ⟨-, htag, ids, hcontent, hitems⟩ := h
    refine makes_collection hshows hnot (Graph.scalar?_of_tag (Or.inl htag))
      (makes_list htag hcontent ?_)
    exact makes_items items hitems (by omega) hinside
  | .mapping entries =>
    obtain ⟨-, htag, hnodup, ids, hcontent, hentries⟩ := h
    refine makes_collection hshows hnot (Graph.scalar?_of_tag (Or.inr htag))
      (makes_mapping htag (Graph.mergedEntries_of_plain hcontent hentries.hasPlainKeys) ?_)
    exact makes_entries entries hentries (by omega) hinside [] (fun _ he => absurd he List.not_mem_nil)
      hnodup
  | .tuple _ => exact h.elim
  | .set _ => exact h.elim

/-- The items of a list are made in order. Each of them comes behind the node that they are in, so the fuel
lasts for it. -/
theorem makes_items (items : List Value) {fuel : Nat} {around : List NodeId} {id : NodeId}
    {ids : List NodeId} (h : g.ShowsItems id ids items) (hfuel : g.size < fuel + (id + 1))
    (haround : ∀ a ∈ around, a ≤ id) : Makes g (ids.mapM (valueIn fuel around)) items := by
  match items with
  | [] =>
    obtain rfl : ids = [] := h
    exact makes_pure g []
  | item :: items =>
    obtain ⟨first, rest, rfl, hlt, hitem, hrest⟩ := h
    rw [List.mapM_cons]
    have hfirst : g.size < fuel + first := Nat.lt_of_lt_of_le hfuel (Nat.add_le_add_left hlt fuel)
    exact (makes_of_shows item hitem hfirst fun a ha => Nat.lt_of_le_of_lt (haround a ha) hlt).bind
      ((makes_items items hrest hfuel haround).bind (makes_pure g _))

/-- The entries of a mapping are made in order, behind the entries that have been `made`. Their keys are
different texts, so none of them takes the place of another one. -/
theorem makes_entries (entries : List (Scalar × Value)) {fuel : Nat} {around : List NodeId}
    {id : NodeId} {ids : List (NodeId × NodeId)} (h : g.ShowsEntries id ids entries)
    (hfuel : g.size < fuel + (id + 1)) (haround : ∀ a ∈ around, a ≤ id)
    (made : List (Scalar × Value)) (htexts : ∀ e ∈ made, ∃ t, e.1 = .text t)
    (hnodup : ((made ++ entries).map Prod.fst).Nodup) :
    Makes g (ids.foldlM (putItem id (valueIn fuel around)) made) (made ++ entries) := by
  match entries with
  | [] =>
    obtain rfl : ids = [] := h
    rw [List.append_nil]
    exact makes_pure g made
  | (key, item) :: entries =>
    obtain ⟨keyId, itemId, rest, t, rfl, rfl, hkeyLt, hkeySize, hkey, hitemLt, hitem, hrest⟩ := h
    have hless {n : NodeId} (hn : id < n) : ∀ a ∈ around, a < n :=
      fun a ha => Nat.lt_of_le_of_lt (haround a ha) hn
    have henough {n : NodeId} (hn : id < n) : g.size < fuel + n :=
      Nat.lt_of_lt_of_le hfuel (Nat.add_le_add_left hn fuel)
    have hnew : Scalar.text t ∉ made.map Prod.fst := by
      rw [List.map_append, List.nodup_append] at hnodup
      exact fun hmem => hnodup.2.2 _ hmem _ (List.mem_cons_self ..) rfl
    -- The key is made as well as the item, and both lie behind the mapping.
    have hput : Makes g (putItem id (valueIn fuel around) made (keyId, itemId))
        (made ++ [(.text t, item)]) := by
      obtain ⟨fuel, rfl⟩ := exists_fuel (henough hkeyLt) hkeySize
      refine (makes_scalar ⟨hkeySize, hkey⟩ (not_mem_of_lt (hless hkeyLt))).bind
        ((makes_of_shows item hitem (henough hitemLt) (hless hitemLt)).bind ?_)
      rw [Value.putEntry, put_of_new htexts hnew]
      exact makes_pure g _
    rw [List.foldlM_cons]
    refine hput.bind ?_
    -- The entry that has been made is among those before the rest.
    have hall := makes_entries entries hrest hfuel haround (made ++ [(.text t, item)])
    rw [← List.append_cons] at hall
    refine hall (fun e he => ?_) hnodup
    rcases List.mem_append.mp he with he | he
    · exact htexts e he
    · rw [List.mem_singleton.mp he]
      exact ⟨t, rfl⟩

end

/-- The value of a node is the one that the graph shows. Induction on the value, whose parts are nodes
further on in the graph, so the fuel lasts. -/
theorem value_of_shows {v : Value} (h : g.Shows id v) : Makes g (value id) v := by
  intro s hs
  obtain ⟨s', hrun, hs'⟩ := makes_of_shows v h (by omega : g.size < g.size + 1 + id)
    (fun _ ha => absurd ha List.not_mem_nil) s hs
  refine ⟨s', ?_, hs'⟩
  unfold value
  rw [StateT.run_bind, StateT.run_get, pure_bind]
  dsimp only
  rw [hs.graph]
  exact hrun

end Evaluation

end TermAudit.Yaml
