import Mathlib.Data.Finset.Card
import TermAudit.Proofs.Model.Tree

/-!
# `TermAudit.Proofs.Model.KeyOrder`: the keys of a document from front to back

`Document.keys` lists the keys of all mappings in a document in the order in which they are written. Keys
are collected down to a depth, because in a graph with cycles there is no end. In a document without
aliases there are no cycles (`Document.IsTree.not_inside`), and what is in a node has fewer nodes in it
than the node, so a depth of as many levels as there are nodes is enough:

* `Document.IsTree.keysWithin_eq`: at a greater depth there are no more keys;
* `Document.IsTree.keysIn_mapping`: the keys in a mapping are each key with what is in it and in its
  value.
-/

set_option autoImplicit false

namespace TermAudit.Yaml

/-- A position is before another one: in a line before, or before it in the line. -/
def Position.Before (p q : Position) : Prop :=
  p.line < q.line ∨ p.line = q.line ∧ p.column < q.column

/-- Which position is before another one can be computed. -/
instance (p q : Position) : Decidable (p.Before q) :=
  inferInstanceAs (Decidable (_ ∨ _))

/-- The keys of the mappings in a node, down to a depth: in a mapping each key, then the keys in this key,
and then those in its value. This is the order in which they are written, as a key stands before its
value. -/
def Graph.keysWithin (g : Graph) : Nat → NodeId → List NodeId
  | 0, _ => []
  | depth + 1, id =>
    match (g.node id).content with
    | .scalar _ => []
    | .sequence items => items.flatMap (g.keysWithin depth)
    | .mapping entries => entries.flatMap fun entry =>
      entry.1 :: (g.keysWithin depth entry.1 ++ g.keysWithin depth entry.2)

/-- The keys of the mappings in a node. The size of the graph is depth enough in a document without
aliases, where no node is inside of itself. -/
def Graph.keysIn (g : Graph) (id : NodeId) : List NodeId :=
  g.keysWithin g.size id

/-- All keys of the document, in the order in which they are written. -/
def Document.keys (d : Document) : List NodeId :=
  d.graph.keysIn d.root

/-- Each key of the document begins before the next one. So it is for documents in which no key is written
twice over, and it can be checked for a document at hand by evaluation. -/
def Document.KeysIncrease (d : Document) : Prop :=
  d.keys.Pairwise fun key next => (d.graph.node key).position.Before (d.graph.node next).position

/-- Whether the keys of a document increase can be computed. -/
instance (d : Document) : Decidable d.KeysIncrease :=
  inferInstanceAs (Decidable (List.Pairwise _ _))

/-- A node with nothing in it has no keys in it. -/
theorem Graph.keysWithin_of_children_eq_nil {g : Graph} {id : NodeId}
    (h : (g.node id).content.children = []) (depth : Nat) : g.keysWithin depth id = [] := by
  cases depth with
  | zero => rfl
  | succ depth =>
    rw [keysWithin]
    cases hcontent : (g.node id).content with
    | scalar text => rfl
    | sequence items =>
      rw [hcontent] at h
      subst h
      rfl
    | mapping entries =>
      rw [hcontent] at h
      cases entries with
      | nil => rfl
      | cons entry rest => cases h

open scoped Classical in
/-- The nodes of the graph that are in a node. Their number gets smaller on the way down, which bounds the
depth. -/
noncomputable def Graph.inner (g : Graph) (id : NodeId) : Finset NodeId :=
  (Finset.range g.size).filter (g.Inside id)

/-- The nodes in a node are those of the graph that are inside of it. -/
theorem Graph.mem_inner {g : Graph} {id other : NodeId} :
    other ∈ g.inner id ↔ other < g.size ∧ g.Inside id other := by
  classical
  unfold inner
  rw [Finset.mem_filter, Finset.mem_range]

/-- There are no more of them than nodes. -/
theorem Graph.card_inner_le (g : Graph) (id : NodeId) : (g.inner id).card ≤ g.size := by
  classical
  exact (Finset.card_filter_le _ _).trans (Finset.card_range g.size).le

section Tree

variable {d : Document} (hd : d.IsTree) {id child : NodeId}

include hd

/-- A node is not in what is in it. Around each node there is one other at most, so going outward from a
cycle one could never come to the root. -/
theorem Document.IsTree.not_inside (hid : d.graph.Inside d.root id)
    (hchild : child ∈ (d.graph.node id).content.children) : ¬ d.graph.Inside child id := by
  -- Down from the root: a cycle leads back to the node around the first one, or to the root.
  induction hid generalizing child with
  | refl =>
    intro hback
    rcases hback.cases_tail with heq | ⟨p, hp, hroot⟩
    · exact hd.root d.root .refl (heq ▸ hchild)
    · exact hd.root p ((Relation.ReflTransGen.refl.tail hchild).trans hp) hroot
  | @tail p id hp hid ih =>
    intro hback
    have hself : d.graph.Inside d.root id := hp.tail hid
    refine ih hid ?_
    rcases hback.cases_tail with heq | ⟨q, hq, hidq⟩
    · rw [← heq] at hchild
      rw [hd.around hp hself hid hchild]
      exact .refl
    · have hinner : d.graph.Inside id q := (Relation.ReflTransGen.refl.tail hchild).trans hq
      rwa [hd.around hp (hself.trans hinner) hid hidq]

/-- There are fewer nodes in what is in a node. -/
theorem Document.IsTree.card_inner_lt (hid : d.graph.Inside d.root id)
    (hchild : child ∈ (d.graph.node id).content.children) :
    (d.graph.inner child).card < (d.graph.inner id).card := by
  have hsubset : d.graph.inner child ⊆ d.graph.inner id := by
    intro other hother
    obtain ⟨hlt, hinside⟩ := Graph.mem_inner.mp hother
    exact Graph.mem_inner.mpr ⟨hlt, (Relation.ReflTransGen.refl.tail hchild).trans hinside⟩
  -- The node itself is one of those in it.
  have hself : id ∈ d.graph.inner id := Graph.mem_inner.mpr ⟨lt_size_of_mem_children hchild, .refl⟩
  have hnot : id ∉ d.graph.inner child := fun h => hd.not_inside hid hchild (Graph.mem_inner.mp h).2
  exact Finset.card_lt_card ((Finset.ssubset_iff_of_subset hsubset).mpr ⟨id, hself, hnot⟩)

/-- One level more brings no more keys where there are no more levels than nodes. -/
theorem Document.IsTree.keysWithin_succ {depth : Nat} (hid : d.graph.Inside d.root id)
    (hdepth : (d.graph.inner id).card ≤ depth) :
    d.graph.keysWithin (depth + 1) id = d.graph.keysWithin depth id := by
  induction depth generalizing id with
  | zero =>
    cases hchildren : (d.graph.node id).content.children with
    | nil => exact Graph.keysWithin_of_children_eq_nil hchildren 1
    | cons child rest =>
      -- Something is inside of a node with children, so one level at least was left for it.
      have hlt := hd.card_inner_lt hid (hchildren ▸ List.mem_cons_self)
      omega
  | succ depth ih =>
    have hinner {child : NodeId} (hchild : child ∈ (d.graph.node id).content.children) :
        d.graph.keysWithin (depth + 1) child = d.graph.keysWithin depth child := by
      refine ih (hid.tail hchild) ?_
      have hlt := hd.card_inner_lt hid hchild
      omega
    rw [Graph.keysWithin, Graph.keysWithin]
    cases hcontent : (d.graph.node id).content with
    | scalar text => rfl
    | sequence items =>
      rw [hcontent] at hinner
      exact List.flatMap_congr fun item hitem => hinner hitem
    | mapping entries =>
      rw [hcontent] at hinner
      refine List.flatMap_congr fun entry hentry => ?_
      obtain ⟨hkey, hvalue⟩ := Content.mem_children_of_mem hentry
      rw [hinner hkey, hinner hvalue]

/-- As many levels as there are nodes bring all keys. Each level goes down to a node with fewer nodes in
it. -/
theorem Document.IsTree.keysWithin_eq {depth : Nat} (hid : d.graph.Inside d.root id)
    (hdepth : d.graph.size ≤ depth) : d.graph.keysWithin depth id = d.graph.keysIn id := by
  induction depth, hdepth using Nat.le_induction with
  | base => rfl
  | succ depth hdepth ih => rw [hd.keysWithin_succ hid ((d.graph.card_inner_le id).trans hdepth), ih]

/-- The keys in a mapping are each of its keys, with the keys in this key and in its value. The depth is
gone here, so it can be used as an equation. -/
theorem Document.IsTree.keysIn_mapping {entries : List (NodeId × NodeId)}
    (hid : d.graph.Inside d.root id) (h : (d.graph.node id).content = .mapping entries) :
    d.graph.keysIn id = entries.flatMap fun entry =>
      entry.1 :: (d.graph.keysIn entry.1 ++ d.graph.keysIn entry.2) := by
  rw [← hd.keysWithin_eq hid (Nat.le_succ _), Graph.keysWithin, h]
  rfl

end Tree

end TermAudit.Yaml
