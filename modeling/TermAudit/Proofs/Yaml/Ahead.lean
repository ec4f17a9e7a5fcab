import TermAudit.Proofs.Yaml.Completion
import TermAudit.Proofs.Yaml.Sharing

/-!
# `TermAudit.Proofs.Yaml.Ahead`: merges that are made ahead

The merges in a set of nodes that is completable can as well be made ahead of everything else.
`Graph.Completes` relates a graph, in which some of these merges have been made, to the one in which all of
them have been. Both look alike to whoever makes a value (`Graph.Completes.looksAlike`), and merging goes
alike in both (`Graph.Completes.mergedEntries`).

So the values of a document are the same if merges in it have been made ahead: each value is made in both
states, or in none, and in the end the one is ahead of the other by what is left of these merges
(`Evaluation.simulates_completes`).
-/

set_option autoImplicit false

namespace TermAudit.Yaml

namespace Graph

variable {o g g' : Graph} {T : Set NodeId} {fuel : Nat} {id : NodeId}
  {es taken : List (NodeId × NodeId)}

/-! ## Merging alike -/

/-- The node after its merges. Its tag stays, and so does its place. What is in it is told from the graph
as it was written. -/
def fullNode (o : Graph) (id : NodeId) : Node :=
  match (o.node id).content with
  | .mapping _ => { o.node id with content := .mapping (o.fullEntries o.size id) }
  | _ => o.node id

/-- A mapping has all its entries in the node after its merges. -/
theorem fullNode_of_kind (h : o.kind id = .mapping) :
    o.fullNode id = { o.node id with content := .mapping (o.fullEntries o.size id) } := by
  obtain ⟨es, hes⟩ := kind_eq_mapping_iff.mp h
  unfold fullNode
  rw [hes]

/-- Other nodes have nothing to merge. -/
theorem fullNode_of_kind_ne (h : o.kind id ≠ .mapping) : o.fullNode id = o.node id := by
  unfold fullNode
  split
  · rename_i es hes
    exact absurd (kind_eq_mapping_iff.mpr ⟨es, hes⟩) h
  · rfl

/-- `g'` is the graph `g` after all merges in the set. Some of them may have been made in `g` already, so
the relation holds from the start of an evaluation to its end. -/
structure Completes (o : Graph) (T : Set NodeId) (g g' : Graph) : Prop where
  staged : StagedBut o T ∅ g
  size : g'.size = g.size
  full : ∀ id ∈ T, g'.node id = o.fullNode id
  same : ∀ id, id ∉ T → g'.node id = g.node id

namespace Completes

variable (h : Completes o T g g')

include h

/-- A node in which nothing is merged is the same, and one that has been merged has all its entries. -/
theorem node_eq_or (id : NodeId) : g'.node id = g.node id ∨
    id ∈ T ∧ g.kind id = .mapping ∧
      g'.node id = { g.node id with content := .mapping (o.fullEntries o.size id) } := by
  by_cases hid : id ∈ T
  · rw [h.full id hid, h.staged.kind hid]
    by_cases hkind : o.kind id = .mapping
    · refine Or.inr ⟨hid, hkind, ?_⟩
      rw [fullNode_of_kind hkind]
      rcases h.staged.node id hid with heq | ⟨-, es, heq, -⟩ <;> rw [heq]
    · rw [fullNode_of_kind_ne hkind]
      rcases h.staged.node id hid with heq | ⟨hmapping, -⟩
      · exact Or.inl heq.symm
      · exact absurd hmapping hkind
  · exact Or.inl (h.same id hid)

/-- Tags are the same. -/
theorem tag (id : NodeId) : (g'.node id).tag = (g.node id).tag := by
  rcases h.node_eq_or id with heq | ⟨-, -, heq⟩ <;> rw [heq]

/-- Places are the same. -/
theorem position (id : NodeId) : (g'.node id).position = (g.node id).position := by
  rcases h.node_eq_or id with heq | ⟨-, -, heq⟩ <;> rw [heq]

/-- Mappings are the same, but for what they hold. -/
theorem content (id : NodeId) : (g'.node id).content = (g.node id).content ∨
    ∃ es es', (g.node id).content = .mapping es ∧ (g'.node id).content = .mapping es' := by
  rcases h.node_eq_or id with heq | ⟨-, hkind, heq⟩
  · rw [heq]
    exact Or.inl rfl
  · obtain ⟨es, hes⟩ := kind_eq_mapping_iff.mp hkind
    exact Or.inr ⟨es, _, hes, by rw [heq]⟩

/-- Scalars stay scalars, with their texts. -/
theorem scalar_iff {text : Text} :
    (g'.node id).content = .scalar text ↔ (g.node id).content = .scalar text := by
  rcases h.content id with heq | ⟨es, es', hes, hes'⟩
  · rw [heq]
  · rw [hes, hes']
    exact iff_of_false (fun heq => nomatch heq) fun heq => nomatch heq

/-- So kinds are the same. -/
theorem kind (id : NodeId) : g'.kind id = g.kind id := by
  unfold Graph.kind
  rcases h.content id with heq | ⟨es, es', hes, hes'⟩
  · rw [heq]
  · rw [hes, hes']

/-- A node is refused alike. -/
theorem refuse {α : Type} (id : NodeId) (problem : Problem) :
    g'.refuse (α := α) id problem = g.refuse id problem := by
  unfold Graph.refuse
  rw [h.position]

/-- So is a node inside of another one. -/
theorem refuseIn {α : Type} (activity : Activity) (around id : NodeId) (problem : Problem) :
    g'.refuseIn (α := α) activity around id problem = g.refuseIn activity around id problem := by
  unfold Graph.refuseIn
  rw [h.position, h.position]

/-- Whatever a node holds that is no mapping is the same. -/
theorem mergeSources (user source : NodeId) : g'.mergeSources user source = g.mergeSources user source := by
  unfold Graph.mergeSources
  rw [h.refuseIn]
  rcases h.content source with heq | ⟨es, es', hes, hes'⟩
  · rw [heq]
  · rw [hes, hes']

/-- The first key `<<` is the same one. -/
theorem splitMerge (es : List (NodeId × NodeId)) : g'.splitMerge es = g.splitMerge es := by
  induction es with
  | nil => rfl
  | cons e es ih =>
    obtain ⟨key, value⟩ := e
    unfold Graph.splitMerge
    rw [h.tag, ih]

/-- A mapping that is not in the set holds the same entries. -/
theorem entries (hid : id ∉ T) : g'.entries id = g.entries id := by
  unfold Graph.entries
  rw [h.same id hid]

/-- A node that is not in the set may be changed in both graphs. -/
theorem set (hid : id ∉ T) (n : Node) : Completes o T (g.set id n) (g'.set id n) where
  staged := by
    refine ⟨(size_set _ _ _).trans h.staged.size, fun other hother => ?_⟩
    have hne : other ≠ id := ne_of_mem_of_not_mem hother hid
    rw [node_set, if_neg fun heq => hne heq.1]
    exact h.staged.node other hother
  size := by rw [size_set, size_set, h.size]
  full other hother := by
    have hne : other ≠ id := ne_of_mem_of_not_mem hother hid
    rw [node_set, if_neg fun heq => hne heq.1]
    exact h.full other hother
  same other hother := by
    rw [node_set, node_set, h.size, h.same other hother]

/-- Keys `=` are made plain in both graphs: there are none in the set. -/
theorem plainKeys (hT : Completable o T) (es : List (NodeId × NodeId)) :
    Completes o T (g.plainKeys es) (g'.plainKeys es) := by
  unfold Graph.plainKeys
  induction es generalizing g g' with
  | nil => exact h
  | cons e es ih =>
    rw [List.foldl_cons, List.foldl_cons]
    refine ih ?_
    dsimp only
    rw [h.tag]
    split
    · rename_i hvalue
      have hout : e.1 ∉ T := fun hmem => hT.tag e.1 hmem (h.staged.tag hmem ▸ hvalue)
      rw [h.same e.1 hout]
      exact h.set hout _
    · exact h

/-- So it may be given the same entries in both. -/
theorem setEntries (hid : id ∉ T) (es : List (NodeId × NodeId)) :
    Completes o T (g.setEntries id es) (g'.setEntries id es) := by
  unfold Graph.setEntries
  rw [h.same id hid]
  exact h.set hid _

/-- The end of a merge into a mapping that is not in the set. -/
theorem finishMerge (hT : Completable o T) (hid : id ∉ T) (taken : List (NodeId × NodeId)) :
    Completes o T (g.finishMerge id taken) (g'.finishMerge id taken) := by
  unfold Graph.finishMerge
  rw [h.entries hid]
  exact (h.plainKeys hT _).setEntries hid _

/-- In the second graph nothing is left to merge into a mapping of the set. -/
theorem mergeInto_self (hT : Completable o T) (hid : id ∈ T) (hkind : o.kind id = .mapping) (fuel : Nat) :
    Graph.mergeInto fuel g' id [] = .ok g' ∧ g'.entries id = o.fullEntries o.size id := by
  have hcontent : (g'.node id).content = .mapping (o.fullEntries o.size id) := by
    rw [h.full id hid, fullNode_of_kind hkind]
  have hentries : g'.entries id = o.fullEntries o.size id := by
    unfold Graph.entries
    rw [hcontent]
  have hin := entriesIn_fullEntries hT.closed o.size hid
  have hsettled := settled_fullEntries o o.size id
  have hplain : g'.HasPlainKeys (o.fullEntries o.size id) := fun e he => by
    rw [h.tag]
    exact h.staged.hasPlainKeys hT hin hsettled e he
  -- No key is `<<` or `=`, so nothing is split off and the entries are put back as they are.
  refine ⟨?_, hentries⟩
  rw [mergeInto_of_settled]
  · unfold Graph.finishMerge
    rw [hentries]
    dsimp only
    rw [plainKeys_of_plain hplain]
    exact congrArg Except.ok (setEntries_self hcontent)
  · rw [hentries]
    exact splitMerge_of_plain hplain

/-- Merging a mapping of the set makes some of the merges that have been made ahead. -/
theorem mergeInto_of_mem (hT : Completable o T) (hid : id ∈ T) (hkind : g.kind id = .mapping)
    (hfuel : g.mergeCount ≤ fuel) :
    EndAlike (fun k k' => Completes o T k k' ∧ k'.entries id = k.entries id)
      (Graph.mergeInto fuel g id []) (Graph.mergeInto fuel g' id []) := by
  have hkind := (h.staged.kind hid).symm.trans hkind
  obtain ⟨k, hrun, hentries, hcarries⟩ := merges_of_mem hT hid (hT.ends id hid hkind)
    (fun _ hmem => absurd hmem (Set.notMem_empty _)) fuel g h.staged hfuel
  obtain ⟨hrun', hentries'⟩ := h.mergeInto_self hT hid hkind fuel
  rw [hrun, hrun']
  refine endAlike_ok ⟨⟨hcarries.staged, ?_, h.full, fun other hother => ?_⟩, hentries'.trans hentries.symm⟩
  · rw [h.size, h.staged.size, hcarries.staged.size]
  · rw [h.same other hother, hcarries.frame other fun hmem => hother hmem.1]

/-- Merges go alike in both graphs. -/
theorem mergeInto (hT : Completable o T) (htaken : id ∈ T → g.kind id = .mapping ∧ taken = [])
    (hfuel : g.mergeCount ≤ fuel) :
    EndAlike (fun k k' => Completes o T k k' ∧ k'.entries id = k.entries id)
      (Graph.mergeInto fuel g id taken) (Graph.mergeInto fuel g' id taken) := by
  induction fuel generalizing g g' id taken with
  | zero =>
    by_cases hid : id ∈ T
    · rw [(htaken hid).2]
      exact h.mergeInto_of_mem hT hid (htaken hid).1 hfuel
    · have hfinish := h.finishMerge hT hid taken
      exact endAlike_ok ⟨hfinish, hfinish.entries hid⟩
  | succ fuel ih =>
    by_cases hid : id ∈ T
    · rw [(htaken hid).2]
      exact h.mergeInto_of_mem hT hid (htaken hid).1 hfuel
    unfold Graph.mergeInto
    rw [h.entries hid, h.splitMerge]
    cases hsplit : g.splitMerge (g.entries id) with
    | none =>
      have hfinish := h.finishMerge hT hid taken
      exact endAlike_ok ⟨hfinish, hfinish.entries hid⟩
    | some r =>
      obtain ⟨source, others⟩ := r
      have hcount := mergeCount_takeOut hsplit
      have hset := h.setEntries hid others
      dsimp only
      rw [hset.mergeSources]
      refine (endAlike_rfl _).bind ?_
      rintro sources _ rfl
      refine EndAlike.bind (R := fun r r' => Completes o T r.1 r'.1 ∧ r'.2 = r.2 ∧
        r.1.mergeCount ≤ fuel) ?_ ?_
      · have hle : (g.setEntries id others).mergeCount ≤ fuel := by omega
        refine endAlike_foldlM ?_ ⟨hset, rfl, hle⟩
        rintro source - ⟨k, found⟩ ⟨k', _⟩ ⟨hk, rfl, hle⟩
        dsimp only at hk hle ⊢
        -- A source in the set is merged ahead, and any other one as the mapping itself.
        by_cases hkind : k.kind source = .mapping
        · obtain ⟨own, hown⟩ := kind_eq_mapping_iff.mp hkind
          obtain ⟨own', hown'⟩ := kind_eq_mapping_iff.mp ((hk.kind source).trans hkind)
          rw [hown, hown']
          dsimp only
          refine ((ih hk (fun _ => ⟨hkind, rfl⟩) hle).and fun k₁ hrun =>
            (mergesTo_of_mergeInto hle settled_nil hrun).count).bind ?_
          rintro k₁ k₁' ⟨⟨hk₁, hentries⟩, hcount'⟩
          exact endAlike_ok ⟨hk₁, by rw [hentries], Nat.le_trans hcount' hle⟩
        · rw [hk.kind, hk.refuseIn]
          rcases hk.content source with heq | ⟨own, _, hown, -⟩
          · rw [heq]
            split
            · rename_i own hown
              exact absurd (kind_eq_mapping_iff.mpr ⟨own, hown⟩) hkind
            · exact Or.inl ⟨_, rfl, rfl⟩
          · exact absurd (kind_eq_mapping_iff.mpr ⟨own, hown⟩) hkind
      · rintro ⟨k, found⟩ ⟨k', _⟩ ⟨hk, rfl, hle⟩
        exact ih hk (fun hmem => absurd hmem hid) hle

/-- The entries of a node after its merges are the same, whether the other merges of the set have been
made or not. Inside of the set this is what the set is for, and outside of it both graphs are equal. -/
theorem mergedEntries (hT : Completable o T) (id : NodeId) :
    EndAlike (fun r r' => r'.1 = r.1 ∧ Completes o T r.2 r'.2) (g.mergedEntries id)
      (g'.mergedEntries id) := by
  unfold Graph.mergedEntries
  by_cases hkind : g.kind id = .mapping
  · obtain ⟨own, hown⟩ := kind_eq_mapping_iff.mp hkind
    obtain ⟨own', hown'⟩ := kind_eq_mapping_iff.mp ((h.kind id).trans hkind)
    rw [hown, hown']
    dsimp only
    rw [merged_eq_mergeInto (Nat.le_max_left g.mergeCount g'.mergeCount),
      merged_eq_mergeInto (Nat.le_max_right g.mergeCount g'.mergeCount)]
    refine (h.mergeInto hT (fun _ => ⟨hkind, rfl⟩) (Nat.le_max_left _ _)).bind ?_
    rintro k k' ⟨hk, hentries⟩
    exact endAlike_ok ⟨hentries, hk⟩
  · rw [h.kind, h.refuse]
    rcases h.content id with heq | ⟨own, _, hown, -⟩
    · rw [heq]
      split
      · rename_i own hown
        exact absurd (kind_eq_mapping_iff.mpr ⟨own, hown⟩) hkind
      · exact Or.inl ⟨_, rfl, rfl⟩
    · exact absurd (kind_eq_mapping_iff.mpr ⟨own, hown⟩) hkind

/-! ### What else is looked at -/

/-- The entries of a mapping in the set have their keys and values there, before its merges and after. -/
theorem entriesIn (hT : Completable o T) (hid : id ∈ T) :
    EntriesIn T (g.entries id) ∧ EntriesIn T (g'.entries id) := by
  have hfull := entriesIn_fullEntries hT.closed o.size hid
  have hown := hT.closed.entriesIn hid
  -- A mapping has its own entries as long as its merges have not been made, and all of them after.
  have hentries : g.entries id = o.entries id ∨ g.entries id = o.fullEntries o.size id := by
    unfold Graph.entries
    rcases h.staged.node id hid with heq | ⟨-, es, heq, hes⟩
    · rw [heq]
      exact Or.inl rfl
    · rw [heq]
      exact Or.inr (hes (Set.notMem_empty id))
  have hin : EntriesIn T (g.entries id) := by
    rcases hentries with heq | heq <;> rw [heq] <;> assumption
  refine ⟨hin, ?_⟩
  rcases h.node_eq_or id with heq | ⟨-, -, heq⟩
  · unfold Graph.entries at hin ⊢
    rw [heq]
    exact hin
  · unfold Graph.entries
    rw [heq]
    exact hfull

/-- No key of such a mapping is a key `=`. -/
theorem find?_value (hT : Completable o T) (hes : EntriesIn T es) :
    (es.find? fun e => (g.node e.1).tag == .value) = none := by
  refine List.find?_eq_none.mpr fun e he => ?_
  rw [h.staged.tag (hes e he).1]
  exact fun heq => hT.tag e.1 (hes e he).1 (beq_iff_eq.mp heq)

/-- The text of a node is the same. In a mapping of the set there is no key `=` to look behind. -/
theorem text? (hT : Completable o T) (fuel : Nat) (id : NodeId) : g'.text? fuel id = g.text? fuel id := by
  induction fuel generalizing id with
  | zero => rfl
  | succ fuel ih =>
    unfold Graph.text?
    simp only [h.tag, h.refuse, ih]
    by_cases hid : id ∈ T
    · obtain ⟨hin, hin'⟩ := h.entriesIn hT hid
      rcases h.content id with heq | ⟨es, es', hes, hes'⟩
      · rw [heq]
      · unfold Graph.entries at hin hin'
        rw [hes] at hin
        rw [hes'] at hin'
        rw [hes, hes']
        dsimp only
        rw [h.find?_value hT hin, h.find?_value hT hin']
    · rw [h.same id hid]

/-- What is made of a scalar node is the same. -/
theorem scalar? (hT : Completable o T) (id : NodeId) : g'.scalar? id = g.scalar? id := by
  have hscalar : g'.isScalar id = g.isScalar id := by
    unfold isScalar
    rcases h.content id with heq | ⟨es, es', hes, hes'⟩
    · rw [heq]
    · rw [hes, hes']
  unfold Graph.scalar?
  rw [h.tag, h.size, h.text? hT, hscalar]
  simp only [h.refuse]

/-- A mapping without a key `<<` is the same in both graphs, in the set as well. -/
theorem node_eq (hT : Completable o T) (hnot : id ∈ T → ¬ o.Loose id) : g'.node id = g.node id := by
  rcases h.node_eq_or id with heq | ⟨hid, hkind, heq⟩
  · exact heq
  have hkind' := (h.staged.kind hid).symm.trans hkind
  have hsettled : o.Settled (o.entries id) := fun e he =>
    Bool.eq_false_iff.mpr fun hkey => hnot hid (Or.inr ⟨e, he, hkey⟩)
  have hfull := (hT.takenOver_entries hid hkind').symm.trans (takenOver_of_settled hsettled)
  rw [heq, hfull]
  rcases h.staged.node id hid with hsame | ⟨-, es, hsame, hes⟩
  · rw [hsame, ← node_eq_of_kind hkind']
  · rw [hsame, hes (Set.notMem_empty id), hfull]

end Completes

/-- Both graphs look alike to whoever makes a value. -/
theorem Completes.looksAlike (hT : Completable o T) (h : Completes o T g g') (hfrom : g.MergedFrom o) :
    LooksAlike Set.univ {id | id ∈ T → ¬ o.Loose id} g g' where
  tag id _ := h.tag id
  position id _ := h.position id
  scalar? id _ := h.scalar? hT id
  items id _ := by
    unfold Graph.items
    rw [h.kind, h.refuse]
    rcases h.content id with heq | ⟨es, es', hes, hes'⟩
    · rw [heq]
      refine (endAlike_rfl _).mono ?_
      rintro ids _ rfl
      exact ⟨rfl, fun _ _ => Set.mem_univ _⟩
    · rw [hes, hes']
      exact Or.inl ⟨_, rfl, rfl⟩
  pairItems id _ htag := by
    unfold Graph.pairItems Graph.pairsActivity
    rw [h.kind, h.refuseIn, h.tag]
    rcases h.content id with heq | ⟨es, es', hes, hes'⟩
    · rw [heq]
      split
      · rename_i items hitems
        refine endAlike_ok ⟨rfl, hT.pairs id items ?_ (hfrom.sequence id items hitems)⟩
        -- The tag is no string, so it is the one that was written.
        rcases hfrom.tag id with heq | ⟨-, hstr⟩
        · rwa [heq] at htag
        · rw [hstr] at htag
          rcases htag with htag | htag <;> cases htag
      · exact Or.inl ⟨_, rfl, rfl⟩
    · rw [hes, hes']
      exact Or.inl ⟨_, rfl, rfl⟩
  singleEntry around _ id hid := by
    unfold Graph.singleEntry Graph.pairsActivity
    rw [h.node_eq hT hid, h.kind, h.tag]
    simp only [h.refuseIn]
    refine (endAlike_rfl _).mono ?_
    rintro e _ rfl
    exact ⟨rfl, Set.mem_univ _, Set.mem_univ _⟩

/-- All merges in a set can be made ahead of everything else. -/
theorem exists_completes (o : Graph) (T : Set NodeId) : ∃ g', Completes o T o g' := by
  classical
  have hnode (id : NodeId) : Graph.node ⟨o.nodes.mapIdx fun id n => if id ∈ T then o.fullNode id else n⟩ id =
      if id ∈ T then o.fullNode id else o.node id := by
    unfold Graph.node
    rw [Array.getD_eq_getD_getElem?, Array.getElem?_mapIdx]
    by_cases hlt : id < o.nodes.size
    · rw [Array.getElem?_eq_getElem hlt, Array.getD_eq_getD_getElem?, Array.getElem?_eq_getElem hlt]
      rfl
    · -- A number without a node has nothing to merge.
      have hkind : o.kind id ≠ .mapping := fun hkind => hlt (lt_size_of_kind hkind)
      have hdefault := node_of_size_le (Nat.le_of_not_lt hlt)
      rw [Array.getElem?_eq_none (Nat.le_of_not_lt hlt), fullNode_of_kind_ne hkind]
      show (⟨.null, .start, .scalar []⟩ : Node) = if id ∈ T then o.node id else o.node id
      rw [ite_self, hdefault]
  refine ⟨⟨o.nodes.mapIdx fun id n => if id ∈ T then o.fullNode id else n⟩, ⟨rfl, fun _ _ => Or.inl rfl⟩,
    Array.size_mapIdx, fun id hid => ?_, fun id hid => ?_⟩
  · rw [hnode, if_pos hid]
  · rw [hnode, if_neg hid]

end Graph

namespace Evaluation

open Yaml.Graph (LooksAlike Completable)

/-- States that are related go through merges alike, and graphs look alike besides. These are the
conditions under which making a value goes alike in both, whatever the relation is. -/
structure Simulates (I : Set NodeId) (R : Evaluation → Evaluation → Prop) : Prop where
  looksAlike : ∀ {s s'}, R s s' → LooksAlike Set.univ I s.graph s'.graph
  size : ∀ {s s'}, R s s' → s'.graph.size = s.graph.size
  known : ∀ {s s'}, R s s' → s'.known = s.known
  merges : ∀ {s s' id es t}, R s s' → (mergedEntries id).run s = .ok (es, t) →
    ∃ t', (mergedEntries id).run s' = .ok (es, t') ∧ R t t'
  remember : ∀ {s s'} id v, R s s' → R (s.remember id v) (s'.remember id v)

variable {I T : Set NodeId} {R : Evaluation → Evaluation → Prop} {o : Graph} {s s' t : Evaluation}
  {id : NodeId} {v : Value}

/-- Then values are made alike, step by step. -/
theorem Simulates.valueIn (h : Simulates I R) {fuel : Nat} {around : List NodeId} (hs : R s s')
    (hrun : (valueIn fuel around id).run s = .ok (v, t)) :
    ∃ t', (valueIn fuel around id).run s' = .ok (v, t') ∧ R t t' := by
  induction fuel generalizing around id s s' v t with
  | zero => cases hrun
  | succ fuel ih =>
    rcases run_valueIn_eq_ok_iff.mp hrun with ⟨hknown, rfl⟩ | ⟨hnew, hnot, t, hmake, rfl⟩
    · exact ⟨s', run_valueIn_eq_ok_iff.mpr (Or.inl ⟨h.known hs ▸ hknown, rfl⟩), hs⟩
    -- The two runs are in lockstep on this level, with the induction hypothesis for the values inside.
    have hlockstep : Lockstep Set.univ I (fun s => ∃ s', R s s') R :=
      ⟨fun _ ⟨_, hs⟩ => (h.looksAlike hs).refl_of, fun _ _ _ hs => h.looksAlike hs⟩
    have hvalue : ∀ x ∈ Set.univ, Follows (fun s => ∃ s', R s s') (fun _ => True) R (fun _ => True)
        (Evaluation.valueIn fuel (id :: around) x) (Evaluation.valueIn fuel (id :: around) x) :=
      fun x _ => follows_of_forall fun _ _ _ _ hs hrun => ⟨trivial, ih hs hrun⟩
    have hmerge : Follows (fun s => ∃ s', R s s') (fun _ => True) R (Graph.EntriesIn Set.univ)
        (mergedEntries id) (mergedEntries id) :=
      follows_of_forall fun _ _ _ _ hs hrun =>
        ⟨fun _ _ => ⟨Set.mem_univ _, Set.mem_univ _⟩, h.merges hs hrun⟩
    have hfollows := follows_fresh hlockstep hvalue (Set.mem_univ id) hmerge
    obtain ⟨-, -, hfollows⟩ := hfollows s v t ⟨s', hs⟩ hmake
    obtain ⟨t', hmake', ht'⟩ := (hfollows trivial).2 s' hs
    exact ⟨_, run_valueIn_eq_ok_iff.mpr (Or.inr ⟨h.known hs ▸ hnew, hnot, t', hmake', rfl⟩),
      h.remember id v ht'⟩

/-- So they are with the fuel that the program gives them. -/
theorem Simulates.value (h : Simulates I R) (hs : R s s') (hrun : (value id).run s = .ok (v, t)) :
    ∃ t', (value id).run s' = .ok (v, t') ∧ R t t' := by
  rw [run_value] at hrun ⊢
  rw [h.size hs]
  exact h.valueIn hs hrun

/-- The second state is the first one after all merges in the set. The same values are known in both, as
merges make none. -/
structure Completes (o : Graph) (T : Set NodeId) (s s' : Evaluation) : Prop where
  graph : Graph.Completes o T s.graph s'.graph
  mergedFrom : s.graph.MergedFrom o
  known : s'.known = s.known

/-- Merges go alike in both states. -/
theorem Completes.mergedEntries (hT : Completable o T) (h : Completes o T s s') (id : NodeId) :
    EndAlike (fun r r' => r'.1 = r.1 ∧ Completes o T r.2 r'.2) ((mergedEntries id).run s)
      ((mergedEntries id).run s') := by
  have hgraphs : EndAlike (fun r r' => r'.1 = r.1 ∧ Graph.Completes o T r.2.graph r'.2.graph ∧
      r'.2.known = r.2.known) ((Evaluation.mergedEntries id).run s)
      ((Evaluation.mergedEntries id).run s') := by
    rw [run_mergedEntries, run_mergedEntries]
    refine (h.graph.mergedEntries hT id).bind ?_
    rintro ⟨es, g⟩ ⟨_, g'⟩ ⟨rfl, hg⟩
    exact endAlike_ok ⟨rfl, hg, h.known⟩
  have hfrom : ∀ r, (Evaluation.mergedEntries id).run s = .ok r → r.2.graph.MergedFrom o :=
    fun r hrun => (maintains_mergedEntries_mergedFrom o id s r.1 r.2 h.mergedFrom hrun).1
  refine (hgraphs.and hfrom).mono ?_
  rintro r r' ⟨⟨hentries, hgraph, hknown⟩, hfrom⟩
  exact ⟨hentries, hgraph, hfrom, hknown⟩

/-- Values that can be made of the first state can be made of the second one. It puts together that the
graphs look alike and that merges go alike. -/
theorem simulates_completes (hT : Completable o T) :
    Simulates {id | id ∈ T → ¬ o.Loose id} (Completes o T) where
  looksAlike hs := hs.graph.looksAlike hT hs.mergedFrom
  size hs := hs.graph.size
  known hs := hs.known
  merges {s s' id es t} hs hrun := by
    rcases hs.mergedEntries hT id with ⟨e, herror, -⟩ | ⟨r, ⟨es', t'⟩, hok, hok', hes, ht⟩
    · rw [hrun] at herror
      cases herror
    · rw [hrun] at hok
      cases hok
      obtain rfl : es' = es := hes
      exact ⟨t', hok', ht⟩
  remember id v hs := ⟨hs.graph, hs.mergedFrom, by unfold remember; rw [hs.known]⟩

/-- And the other way round. -/
theorem simulates_completes_flip (hT : Completable o T) :
    Simulates {id | id ∈ T → ¬ o.Loose id} (fun s' s => Completes o T s s') where
  looksAlike hs := (hs.graph.looksAlike hT hs.mergedFrom).symm
  size hs := hs.graph.size.symm
  known hs := hs.known.symm
  merges {s' s id es t} hs hrun := by
    rcases hs.mergedEntries hT id with ⟨e, -, herror⟩ | ⟨⟨es', t'⟩, r, hok, hok', hes, ht⟩
    · rw [hrun] at herror
      cases herror
    · rw [hrun] at hok'
      cases hok'
      obtain rfl : es = es' := hes
      exact ⟨t', hok, ht⟩
  remember id v hs := ⟨hs.graph, hs.mergedFrom, by unfold remember; rw [hs.known]⟩

end Evaluation

end TermAudit.Yaml
