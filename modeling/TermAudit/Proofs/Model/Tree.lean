import Mathlib.Data.List.Nodup
import Mathlib.Data.List.Pairwise
import TermAudit.Proofs.Model.Sharing

/-!
# `TermAudit.Proofs.Model.Tree`: documents without aliases

In a document without aliases every node occurs once (`Document.IsTree`). Then its values are apart
(`ModelReader.apart_of_isTree`): a node of the structure is in no value, and one in a value is in no
other.
-/

set_option autoImplicit false

namespace TermAudit

namespace Yaml

variable {d : Document} {id other child : NodeId}

/-- Of the nodes of the document, none occurs in two nodes, or twice in one, and the root in none. This is
what the absence of aliases comes to, and it rules out cycles as well. -/
structure Document.IsTree (d : Document) : Prop where
  root : ∀ id, d.graph.Inside d.root id → d.root ∉ (d.graph.node id).content.children
  around : ∀ {id other child}, d.graph.Inside d.root id → d.graph.Inside d.root other →
    child ∈ (d.graph.node id).content.children → child ∈ (d.graph.node other).content.children →
    id = other
  nodup : ∀ id, d.graph.Inside d.root id → (d.graph.node id).content.children.Nodup

/-- A node with others in it is one of the graph. -/
theorem lt_size_of_mem_children {g : Graph} (h : child ∈ (g.node id).content.children) : id < g.size := by
  by_contra hnot
  unfold Graph.node at h
  rw [Array.getD_eq_getD_getElem?, Array.getElem?_eq_none (Nat.le_of_not_lt hnot)] at h
  cases h

/-- The value of an entry is a node in the mapping. -/
theorem Graph.value_mem_children {g : Graph} {keyNode value : NodeId}
    (h : (keyNode, value) ∈ g.entries id) : value ∈ (g.node id).content.children :=
  (Graph.mem_children_of_mem_entries h).2

/-- Lists that are parts of a list without repetitions have nothing in common. -/
theorem eq_of_nodup_flatMap {α β : Type} {f : α → List β} {l : List α} (h : (l.flatMap f).Nodup)
    {a a' : α} (ha : a ∈ l) (ha' : a' ∈ l) {b : β} (hb : b ∈ f a) (hb' : b ∈ f a') : a = a' := by
  obtain ⟨-, hapart⟩ := List.nodup_flatMap.mp h
  have hsymm : Std.Symm (Function.onFun List.Disjoint f) := ⟨fun _ _ h => List.disjoint_symm h⟩
  by_contra hne
  exact hapart.forall ha ha' hne hb hb'

/-- All occurrences of nodes: the root, and those in the nodes of the graph. If no node is among them
twice the document is a tree, which can be checked by evaluation. -/
def Document.occurrences (d : Document) : List NodeId :=
  d.root :: (List.range d.graph.size).flatMap fun id => (d.graph.node id).content.children

/-- A document in which no node is met twice is a tree. This can be computed. -/
theorem Document.isTree_of_nodup (h : d.occurrences.Nodup) : d.IsTree := by
  obtain ⟨hroot, hnodup⟩ := List.nodup_cons.mp h
  have hrange {id child : NodeId} (hchild : child ∈ (d.graph.node id).content.children) :
      id ∈ List.range d.graph.size := List.mem_range.mpr (lt_size_of_mem_children hchild)
  constructor
  · exact fun id _ hchild => hroot (List.mem_flatMap.mpr ⟨id, hrange hchild, hchild⟩)
  · intro id other child _ _ hchild hchild'
    exact eq_of_nodup_flatMap hnodup (hrange hchild) (hrange hchild') hchild hchild'
  · intro id _
    cases hchildren : (d.graph.node id).content.children with
    | nil => exact List.nodup_nil
    | cons first rest =>
      have hfirst : first ∈ (d.graph.node id).content.children := hchildren ▸ List.mem_cons_self
      exact hchildren ▸ (List.nodup_flatMap.mp hnodup).1 id (hrange hfirst)

section Tree

variable (hd : d.IsTree)

include hd

/-- Of two nodes with one in common, one is inside of the other. -/
theorem Document.IsTree.inside_or {v v' : NodeId} (hv : d.graph.Inside d.root v)
    (hv' : d.graph.Inside d.root v') (h : d.graph.Inside v id) (h' : d.graph.Inside v' id) :
    d.graph.Inside v v' ∨ d.graph.Inside v' v := by
  -- The paths down to the common node end with the same steps until one of them is used up.
  induction h with
  | refl => exact Or.inr h'
  | @tail p id hp hchild ih =>
    rcases h'.cases_tail with rfl | ⟨p', hp', hchild'⟩
    · exact Or.inl (hp.tail hchild)
    · exact ih (hd.around (hv'.trans hp') (hv.trans hp) hchild' hchild ▸ hp')

/-- A value in a mapping has one key. -/
theorem Document.IsTree.key_unique {keyNode keyNode' value : NodeId} (hid : d.graph.Inside d.root id)
    (h : (keyNode, value) ∈ d.graph.entries id) (h' : (keyNode', value) ∈ d.graph.entries id) :
    keyNode = keyNode' := by
  have hnodup := hd.nodup id hid
  unfold Graph.entries at h h'
  split at h
  · rename_i entries hcontent
    rw [hcontent] at hnodup h'
    have hmem (key : NodeId) : value ∈ [key, value] := List.mem_cons_of_mem _ List.mem_cons_self
    exact congrArg Prod.fst (eq_of_nodup_flatMap hnodup h h' (hmem _) (hmem _))
  · cases h

end Tree

end Yaml

namespace ModelReader

open Yaml

variable {d : Document} {place place' : Place} {id v : NodeId}

/-- The structure is inside of the root. -/
theorem Role.inside_root (h : Role d place id) : d.graph.Inside d.root id := by
  induction h with
  | root => exact .refl
  | inside _ hentry _ _ ih => exact ih.tail (Graph.value_mem_children hentry)

section Tree

variable (hd : d.IsTree)

include hd

/-- The reader takes a node in one way. -/
theorem Role.unique (h : Role d place id) (h' : Role d place' id) : place = place' := by
  induction h generalizing place' with
  | root =>
    cases h' with
    | root => rfl
    | inside hrole hentry => exact absurd (Graph.value_mem_children hentry) (hd.root _ hrole.inside_root)
  | inside hrole hentry hkey hplace ih =>
    cases h' with
    | root => exact absurd (Graph.value_mem_children hentry) (hd.root _ hrole.inside_root)
    | inside hrole' hentry' hkey' hplace' =>
      obtain rfl := hd.around hrole.inside_root hrole'.inside_root (Graph.value_mem_children hentry)
        (Graph.value_mem_children hentry')
      obtain rfl := hd.key_unique hrole.inside_root hentry hentry'
      -- Mapping and key are the same, and they tell the place.
      cases ih hrole'
      rw [hkey] at hkey'
      cases hkey'
      rw [hplace] at hplace'
      exact Option.some.inj hplace'

/-- In a value, the reader takes no node but the value itself. -/
theorem Role.eq_of_inside_value (h : Role d place id) (hv : Role d .value v) (hid : d.graph.Inside v id) :
    id = v := by
  induction h with
  | root =>
    rcases hid.cases_tail with heq | ⟨p, hp, hchild⟩
    · exact heq
    · exact absurd hchild (hd.root p (hv.inside_root.trans hp))
  | @inside part place id _ value _ hrole hentry _ _ ih =>
    rcases hid.cases_tail with heq | ⟨p, hp, hchild⟩
    · exact heq
    · -- The mapping around would be the value.
      obtain rfl := hd.around hrole.inside_root (hv.inside_root.trans hp)
        (Graph.value_mem_children hentry) hchild
      obtain rfl := ih hp
      cases hrole.unique hd hv

/-- Without aliases, values are apart. A node that two values share would have two ways to the root, and
so would one of the structure that is in a value. -/
theorem apart_of_isTree : Apart d where
  value hv hv' hid hid' _ := by
    rcases hd.inside_or hv.inside_root hv'.inside_root hid hid' with h | h
    · exact (hv'.eq_of_inside_value hd hv h).symm
    · exact hv.eq_of_inside_value hd hv' h
  structural hrole hplace hv hid _ := by
    obtain rfl := hrole.eq_of_inside_value hd hv hid
    exact hplace (hrole.unique hd hv)

end Tree

end ModelReader

end TermAudit
