import TermAudit.Proofs.Yaml.Records
import TermAudit.Proofs.Yaml.Taken

/-!
# `TermAudit.Proofs.Yaml.Completion`: what a mapping has after its merges

A mapping that is merged into others changes as soon as one of them is made. What it takes over does not
depend on when this happens, if its merges lead through mappings alone and come to an end
(`Graph.MergesEnd`): it then has the entries `Graph.fullEntries`, which can be told from the graph as it was
written.

* `Graph.Fickle` tells the nodes for which this is not so, and a set without such nodes is
  `Graph.Completable`;
* `Graph.merges_of_mem`: merging a node of the set gives it these entries, whichever merges in the set have
  been made before, and changes nothing but nodes that it merges.
-/

set_option autoImplicit false

namespace TermAudit.Yaml

namespace Graph

variable {o g g' : Graph} {S T U : Set NodeId} {n m fuel : Nat} {id : NodeId}
  {es others taken : List (NodeId × NodeId)} {full full' : NodeId → List (NodeId × NodeId)}

/-! ## Kinds of nodes -/

/-- A node is a mapping if it holds entries. -/
theorem kind_eq_mapping_iff : g.kind id = .mapping ↔ ∃ es, (g.node id).content = .mapping es := by
  unfold kind
  cases (g.node id).content <;> simp

/-- A mapping is one of the nodes. -/
theorem lt_size_of_kind (h : g.kind id = .mapping) : id < g.size := by
  by_contra hlt
  unfold kind at h
  rw [node_of_size_le (Nat.le_of_not_lt hlt)] at h
  cases h

/-- A node with entries is a mapping. -/
theorem kind_of_mem_entries {e : NodeId × NodeId} (h : e ∈ g.entries id) : g.kind id = .mapping := by
  unfold entries at h
  split at h
  · rename_i es hes
    exact kind_eq_mapping_iff.mpr ⟨es, hes⟩
  · cases h

/-- The node that holds the entries of a mapping. -/
theorem node_eq_of_kind (h : g.kind id = .mapping) :
    g.node id = { g.node id with content := .mapping (g.entries id) } := by
  obtain ⟨es, hes⟩ := kind_eq_mapping_iff.mp h
  unfold entries
  rw [hes]
  dsimp only
  rw [← hes]

/-- Giving a mapping other entries changes no other node. -/
theorem node_setEntries_of_ne {other : NodeId} (h : other ≠ id) :
    (g.setEntries id es).node other = g.node other := by
  unfold setEntries
  rw [node_set, if_neg fun heq => h heq.1]

/-! ## Entries after merges -/

/-- The nodes whose entries the value of a key `<<` stands for; a scalar stands for none. -/
def sources (g : Graph) (source : NodeId) : List NodeId :=
  match (g.node source).content with
  | .mapping _ => [source]
  | .sequence items => items
  | .scalar _ => []

/-- Merging the node, and what it merges, goes through mappings alone and comes to an end in so many
steps. A merge that leads back to itself has no such number, and neither has one that comes to a
scalar. -/
def MergesEnd (g : Graph) : Nat → NodeId → Prop
  | 0, _ => False
  | n + 1, id =>
    g.kind id = .mapping ∧ ∀ e ∈ g.entries id, g.isMergeKey e.1 = true →
      g.kind e.2 ≠ .scalar ∧ ∀ source ∈ g.sources e.2, g.MergesEnd n source

/-- Whether merges end in so many steps can be computed. -/
instance decidableMergesEnd (g : Graph) : (n : Nat) → (id : NodeId) → Decidable (g.MergesEnd n id)
  | 0, _ => inferInstanceAs (Decidable False)
  | n + 1, id =>
    have (source : NodeId) : Decidable (g.MergesEnd n source) := decidableMergesEnd g n source
    inferInstanceAs (Decidable (_ ∧ ∀ e ∈ g.entries id, _ → _ ∧ ∀ source ∈ g.sources e.2, _))

/-- What the entries of a mapping become by its merges, given what its sources have: the entries taken over
come first, key `<<` by key `<<`, and of each such key those of its last source. -/
def takenOver (g : Graph) (full : NodeId → List (NodeId × NodeId)) (es : List (NodeId × NodeId)) :
    List (NodeId × NodeId) :=
  (es.filter fun e => g.isMergeKey e.1).flatMap (fun e => (g.sources e.2).reverse.flatMap full) ++
    es.filter fun e => !g.isMergeKey e.1

/-- The entries of a mapping after its merges. The number bounds how far these lead from one mapping to
the next, and any bound that is large enough gives the same entries. -/
def fullEntries (g : Graph) : Nat → NodeId → List (NodeId × NodeId)
  | 0, _ => []
  | n + 1, id => g.takenOver (g.fullEntries n) (g.entries id)

/-- The node is a mapping. -/
theorem MergesEnd.kind (h : g.MergesEnd n id) : g.kind id = .mapping := by
  cases n with
  | zero => exact h.elim
  | succ n => exact h.1

/-- More steps than are needed are enough. -/
theorem MergesEnd.mono (h : g.MergesEnd n id) (hle : n ≤ m) : g.MergesEnd m id := by
  induction n generalizing m id with
  | zero => exact h.elim
  | succ n ih =>
    obtain ⟨m, rfl⟩ := Nat.exists_eq_add_of_le' (Nat.lt_of_lt_of_le n.succ_pos hle)
    exact ⟨h.1, fun e he hkey => ⟨(h.2 e he hkey).1, fun source hsource =>
      ih ((h.2 e he hkey).2 source hsource) (Nat.le_of_succ_le_succ hle)⟩⟩

/-- What is taken over depends on the entries of the sources alone. -/
theorem takenOver_congr (h : ∀ e ∈ es, g.isMergeKey e.1 = true → ∀ source ∈ g.sources e.2,
    full source = full' source) : g.takenOver full es = g.takenOver full' es := by
  unfold takenOver
  congr 1
  refine List.flatMap_congr fun e he => ?_
  obtain ⟨he, hkey⟩ := List.mem_filter.mp he
  exact List.flatMap_congr fun source hsource => h e he hkey source (List.mem_reverse.mp hsource)

/-- Without a key `<<` the entries stay as they are. -/
theorem takenOver_of_settled (h : g.Settled es) : g.takenOver full es = es := by
  unfold takenOver
  rw [List.filter_eq_nil_iff.mpr fun e he => by simp [h e he],
    List.filter_eq_self.mpr fun e he => by simp [h e he]]
  rfl

/-- What is split off is the first entry with a key `<<`, and all others stay in their order. -/
theorem filter_of_splitMerge {source : NodeId} (h : g.splitMerge es = some (source, others)) :
    (∃ key, (es.filter fun e => g.isMergeKey e.1) =
      (key, source) :: others.filter fun e => g.isMergeKey e.1) ∧
      (es.filter fun e => !g.isMergeKey e.1) = others.filter fun e => !g.isMergeKey e.1 := by
  induction es generalizing others with
  | nil => cases h
  | cons e es ih =>
    obtain ⟨key, value⟩ := e
    unfold splitMerge at h
    split at h
    · rename_i hkey
      cases h
      have hmerge : g.isMergeKey key = true := beq_iff_eq.mpr hkey
      exact ⟨⟨key, by simp [hmerge]⟩, by simp [hmerge]⟩
    · rename_i hkey
      obtain ⟨⟨source', others'⟩, hsplit, heq⟩ := Option.map_eq_some_iff.mp h
      cases heq
      have hmerge : g.isMergeKey key = false := beq_eq_false_iff_ne.mpr hkey
      obtain ⟨⟨first, hfirst⟩, hrest⟩ := ih hsplit
      exact ⟨⟨first, by simp [hmerge, hfirst]⟩, by simp [hmerge, hrest]⟩

/-- So the sources of the first key `<<` are the first ones that are taken over. -/
theorem takenOver_of_splitMerge {source : NodeId} (h : g.splitMerge es = some (source, others)) :
    g.takenOver full es = (g.sources source).reverse.flatMap full ++ g.takenOver full others := by
  obtain ⟨⟨key, hmerges⟩, hothers⟩ := filter_of_splitMerge h
  unfold takenOver
  rw [hmerges, hothers, List.flatMap_cons, List.append_assoc]

/-- The entries do not depend on the number of steps, if there are enough. -/
theorem MergesEnd.fullEntries_eq (h : g.MergesEnd n id) (h' : g.MergesEnd m id) :
    g.fullEntries n id = g.fullEntries m id := by
  induction n generalizing m id with
  | zero => exact h.elim
  | succ n ih =>
    cases m with
    | zero => exact h'.elim
    | succ m =>
      exact takenOver_congr fun e he hkey source hsource =>
        ih ((h.2 e he hkey).2 source hsource) ((h'.2 e he hkey).2 source hsource)

/-- No key `<<` is left among them. -/
theorem settled_fullEntries (g : Graph) (n : Nat) (id : NodeId) : g.Settled (g.fullEntries n id) := by
  induction n generalizing id with
  | zero => exact settled_nil
  | succ n ih =>
    unfold fullEntries takenOver
    refine Settled.append (fun e he => ?_) fun e he => ?_
    · obtain ⟨_, -, he⟩ := List.mem_flatMap.mp he
      obtain ⟨source, -, he⟩ := List.mem_flatMap.mp he
      exact ih source e he
    · simpa using (List.mem_filter.mp he).2

/-- The sources of a key `<<` are in the set. -/
theorem mem_of_mem_sources (hclosed : Same T o o) (hid : id ∈ T) :
    ∀ source ∈ o.sources id, source ∈ T := by
  have hchildren := hclosed.closed id hid
  unfold sources
  cases hcontent : (o.node id).content with
  | scalar _ => exact fun _ h => absurd h List.not_mem_nil
  | mapping _ => exact List.forall_mem_singleton.mpr hid
  | sequence items =>
    rw [hcontent] at hchildren
    exact hchildren

/-- What a mapping of the set takes over has its keys and values there too. -/
theorem entriesIn_takenOver (hclosed : Same T o o) (hes : EntriesIn T es)
    (hfull : ∀ source ∈ T, EntriesIn T (full source)) : EntriesIn T (o.takenOver full es) := by
  unfold takenOver
  refine EntriesIn.append (fun e he => ?_) fun e he => hes e (List.mem_filter.mp he).1
  obtain ⟨merge, hmerge, he⟩ := List.mem_flatMap.mp he
  obtain ⟨source, hsource, he⟩ := List.mem_flatMap.mp he
  have hvalue := (hes merge (List.mem_filter.mp hmerge).1).2
  exact hfull source (mem_of_mem_sources hclosed hvalue source (List.mem_reverse.mp hsource)) e he

/-- So have the entries that it has after its merges. -/
theorem entriesIn_fullEntries (hclosed : Same T o o) (n : Nat) (hid : id ∈ T) :
    EntriesIn T (o.fullEntries n id) := by
  induction n generalizing id with
  | zero => exact entriesIn_nil
  | succ n ih => exact entriesIn_takenOver hclosed (hclosed.entriesIn hid) fun source hsource => ih hsource

/-! ## Nodes that depend on what has been merged -/

/-- What the program makes of the node can depend on what it has merged before: the node is a key `=`, its
merges do not come to an end, or it is merged while it is an item of a list of pairs. A list of pairs
takes the entries of its items as it finds them, without merging them first. -/
def Fickle (g : Graph) (id : NodeId) : Prop :=
  g.Loose id ∧ ((g.node id).tag = .value ∨ ¬ g.MergesEnd g.size id ∨
    ∃ around items, ((g.node around).tag = .omap ∨ (g.node around).tag = .pairs) ∧
      (g.node around).content = .sequence items ∧ id ∈ items)

/-- What can be computed of each node tells that none of them is fickle. -/
theorem not_fickle_of_forall_lt (h : ∀ id < g.size, ((g.node id).tag ≠ .omap ∧ (g.node id).tag ≠ .pairs) ∧
    (g.Loose id → (g.node id).tag ≠ .value ∧ g.MergesEnd g.size id)) (id : NodeId) : ¬ g.Fickle id := by
  have hlt {other : NodeId} (hother : (g.node other).tag ≠ .null) : other < g.size := by
    by_contra hle
    exact hother (by rw [node_of_size_le (Nat.le_of_not_lt hle)])
  rintro ⟨hloose, hvalue | hends | ⟨around, items, htag, -⟩⟩
  · exact ((h id (hlt (hvalue ▸ nofun))).2 hloose).1 hvalue
  · have hid : id < g.size := by
      rcases hloose with hvalue | ⟨e, he, -⟩
      · exact hlt (hvalue ▸ nofun)
      · exact lt_size_of_kind (kind_of_mem_entries he)
    exact hends ((h id hid).2 hloose).2
  · rcases htag with htag | htag
    · exact (h around (hlt (htag ▸ nofun))).1.1 htag
    · exact (h around (hlt (htag ▸ nofun))).1.2 htag

/-- The merges in the set can be made ahead. They come to an end, no key `=` is touched, and the mappings
that they change are not looked at as they are written, which is what a list of pairs does with its
items. -/
structure Completable (o : Graph) (T : Set NodeId) : Prop where
  closed : Same T o o
  tag : ∀ id ∈ T, (o.node id).tag ≠ .value
  ends : ∀ id ∈ T, o.kind id = .mapping → o.MergesEnd o.size id
  pairs : ∀ around items, (o.node around).tag = .omap ∨ (o.node around).tag = .pairs →
    (o.node around).content = .sequence items → ∀ id ∈ items, id ∈ T → ¬ o.Loose id

/-- In a set without such nodes all merges can be made ahead. -/
theorem completable_of_not_fickle (hclosed : Same T o o) (hT : ∀ id ∈ T, ¬ o.Fickle id) :
    Completable o T where
  closed := hclosed
  tag id hid hvalue := hT id hid ⟨Or.inl hvalue, Or.inl hvalue⟩
  ends id hid hkind := by
    by_contra hnot
    by_cases hloose : o.Loose id
    · exact hT id hid ⟨hloose, Or.inr (Or.inl hnot)⟩
    · obtain ⟨k, hk⟩ := Nat.exists_eq_succ_of_ne_zero (Nat.ne_zero_of_lt (lt_size_of_kind hkind))
      rw [hk] at hnot
      exact hnot ⟨hkind, fun e he hkey => absurd (Or.inr ⟨e, he, hkey⟩) hloose⟩
  pairs around items htag hitems id hmem hid hloose :=
    hT id hid ⟨hloose, Or.inr (Or.inr ⟨around, items, htag, hitems, hmem⟩)⟩

/-- What the mapping takes over from sources after their merges is what it has after its own. -/
theorem Completable.takenOver_entries (hT : Completable o T) (hid : id ∈ T) (hkind : o.kind id = .mapping) :
    o.takenOver (o.fullEntries o.size) (o.entries id) = o.fullEntries o.size id := by
  have hends := hT.ends id hid hkind
  obtain ⟨k, hk⟩ := Nat.exists_eq_succ_of_ne_zero (Nat.ne_zero_of_lt (lt_size_of_kind hkind))
  rw [hk] at hends ⊢
  refine takenOver_congr fun e he hkey source hsource => ?_
  have hend := (hends.2 e he hkey).2 source hsource
  exact (hend.mono k.le_succ).fullEntries_eq hend

/-! ## Graphs in which some merges have been made -/

/-- The nodes of the set are as they were written, but for mappings in which merges have been made. They
have all been made there, unless the mapping is in `U`. These are the mappings that a merge which is going
on has opened and not finished. -/
structure StagedBut (o : Graph) (T U : Set NodeId) (g : Graph) : Prop where
  size : g.size = o.size
  node : ∀ id ∈ T, g.node id = o.node id ∨ o.kind id = .mapping ∧
    ∃ es, g.node id = { o.node id with content := .mapping es } ∧
      (id ∉ U → es = o.fullEntries o.size id)

namespace StagedBut

variable (h : StagedBut o T U g) (hid : id ∈ T)

include h hid

/-- Tags are as they were written. -/
theorem tag : (g.node id).tag = (o.node id).tag := by
  rcases h.node id hid with heq | ⟨-, es, heq, -⟩ <;> rw [heq]

/-- So are the kinds of nodes. -/
theorem kind : g.kind id = o.kind id := by
  rcases h.node id hid with heq | ⟨hkind, es, heq, -⟩
  · unfold Graph.kind
    rw [heq]
  · rw [hkind]
    unfold Graph.kind
    rw [heq]

/-- The same nodes are keys `<<`. -/
theorem isMergeKey : g.isMergeKey id = o.isMergeKey id := by
  unfold Graph.isMergeKey
  rw [h.tag hid]

/-- The value of a key `<<` stands for the same nodes. -/
theorem sources : g.sources id = o.sources id := by
  rcases h.node id hid with heq | ⟨hkind, es, heq, -⟩
  · unfold Graph.sources
    rw [heq]
  · obtain ⟨own, hown⟩ := kind_eq_mapping_iff.mp hkind
    unfold Graph.sources
    rw [heq, hown]

end StagedBut

/-- Less nodes may be out of order. -/
theorem StagedBut.mono {U' : Set NodeId} (h : StagedBut o T U g) (hsubset : U ⊆ U') :
    StagedBut o T U' g where
  size := h.size
  node id hid := by
    rcases h.node id hid with heq | ⟨hkind, es, heq, hfull⟩
    · exact Or.inl heq
    · exact Or.inr ⟨hkind, es, heq, fun hnot => hfull fun hmem => hnot (hsubset hmem)⟩

/-- A mapping of the set may be given entries, if it is none of those that must be in order. -/
theorem StagedBut.setEntries (h : StagedBut o T U g) (hid : id ∈ T) (hkind : o.kind id = .mapping)
    (hes : id ∉ U → es = o.fullEntries o.size id) : StagedBut o T U (g.setEntries id es) where
  size := (size_set _ _ _).trans h.size
  node other hother := by
    unfold Graph.setEntries
    rw [node_set]
    split
    · rename_i heq
      obtain ⟨rfl, -⟩ := heq
      refine Or.inr ⟨hkind, es, ?_, hes⟩
      rcases h.node other hid with hsame | ⟨-, own, hsame, -⟩ <;> rw [hsame]
    · exact h.node other hother

/-- The mapping is in order again when it has all its entries. -/
theorem StagedBut.of_insert (h : StagedBut o T (insert id U) g)
    (hentries : g.entries id = o.fullEntries o.size id) : StagedBut o T U g where
  size := h.size
  node other hother := by
    rcases h.node other hother with heq | ⟨hkind, es, heq, hfull⟩
    · exact Or.inl heq
    · refine Or.inr ⟨hkind, es, heq, fun hnot => ?_⟩
      by_cases hself : other = id
      · subst hself
        rw [← hentries]
        unfold Graph.entries
        rw [heq]
      · exact hfull fun hmem => hmem.elim hself hnot

/-- The entries of a mapping in the set have their keys and values there, and no key is `=`. -/
theorem StagedBut.hasPlainKeys (hT : Completable o T) (h : StagedBut o T U g) (hes : EntriesIn T es)
    (hsettled : o.Settled es) : g.HasPlainKeys es := by
  intro e he
  rw [h.tag (hes e he).1]
  exact ⟨beq_eq_false_iff_ne.mp (hsettled e he), hT.tag e.1 (hes e he).1⟩

/-- The first key `<<` is the one that was written. -/
theorem StagedBut.splitMerge (h : StagedBut o T U g) (hes : EntriesIn T es) :
    g.splitMerge es = o.splitMerge es := by
  induction es with
  | nil => rfl
  | cons e es ih =>
    obtain ⟨he, hrest⟩ := List.forall_mem_cons.mp hes
    obtain ⟨key, value⟩ := e
    unfold Graph.splitMerge
    rw [h.tag he.1, ih hrest]

/-- The end of a merge only puts the entries taken over in front. -/
theorem StagedBut.finishMerge (hT : Completable o T) (h : StagedBut o T U g)
    (hes : EntriesIn T (g.entries id)) (hsettled : o.Settled (g.entries id)) :
    g.finishMerge id taken = g.setEntries id (taken ++ g.entries id) := by
  unfold Graph.finishMerge
  dsimp only
  rw [plainKeys_of_plain (h.hasPlainKeys hT hes hsettled)]

/-- The value of a key `<<` is a mapping, or a list of nodes, as it was written. -/
theorem StagedBut.mergeSources (h : StagedBut o T U g) {user source : NodeId} (hsource : source ∈ T)
    (hkind : o.kind source ≠ .scalar) : g.mergeSources user source = .ok (o.sources source) := by
  have hkind' := (h.kind hsource).trans_ne hkind
  rw [← h.sources hsource]
  unfold Graph.mergeSources Graph.sources
  unfold Graph.kind at hkind'
  cases hcontent : (g.node source).content with
  | scalar _ =>
    rw [hcontent] at hkind'
    exact absurd rfl hkind'
  | sequence _ => rfl
  | mapping _ => rfl

/-! ## Merging -/

/-- `g'` is made of `g` by merging nodes of the set from which merges end in `n` steps. All other nodes
are left alone, which is what lets one merge follow another. -/
structure Carries (o : Graph) (T U : Set NodeId) (n : Nat) (g g' : Graph) : Prop where
  staged : StagedBut o T U g'
  frame : ∀ id, ¬ (id ∈ T ∧ o.MergesEnd n id) → g'.node id = g.node id
  count : g'.mergeCount ≤ g.mergeCount

/-- Merges one after the other. -/
theorem Carries.trans {g'' : Graph} (h : Carries o T U n g g') (h' : Carries o T U n g' g'') :
    Carries o T U n g g'' where
  staged := h'.staged
  frame id hid := (h'.frame id hid).trans (h.frame id hid)
  count := Nat.le_trans h'.count h.count

/-- Nodes from which merges lead further are left alone as well. -/
theorem Carries.mono (h : Carries o T U n g g') (hle : n ≤ m) : Carries o T U m g g' :=
  { h with frame := fun id hid => h.frame id fun hmem => hid ⟨hmem.1, hmem.2.mono hle⟩ }

/-- What a merge in the graph comes to, for a node from which merges end in `n` steps. It is said of all
graphs in which some merges have been made, as these are the graphs that a merge can meet. -/
def Merges (o : Graph) (T U : Set NodeId) (n fuel : Nat) (source : NodeId) : Prop :=
  ∀ g, StagedBut o T U g → g.mergeCount ≤ fuel →
    ∃ g', mergeInto fuel g source [] = .ok g' ∧ g'.entries source = o.fullEntries o.size source ∧
      Carries o T U n g g'

/-- The sources of a key `<<` are merged one after the other, and the entries of the last one come first. -/
theorem merges_sources (user : NodeId) (found : List (List (NodeId × NodeId))) {sources : List NodeId}
    (hsources : ∀ source ∈ sources, source ∈ T ∧ o.kind source = .mapping ∧ Merges o T U n fuel source)
    (hg : StagedBut o T U g) (hfuel : g.mergeCount ≤ fuel) :
    ∃ g', sources.foldlM (m := Except Fault)
        (fun (g, found) source => do
          match (g.node source).content with
          | .mapping _ =>
            let g ← mergeInto fuel g source []
            return (g, g.entries source :: found)
          | _ => g.refuseIn .mapping user source (.notMergeableItem (g.kind source)))
        (g, found) =
          .ok (g', (sources.map (o.fullEntries o.size)).reverse ++ found) ∧ Carries o T U n g g' := by
  induction sources generalizing g found with
  | nil => exact ⟨g, rfl, hg, fun _ _ => rfl, Nat.le_refl _⟩
  | cons source sources ih =>
    obtain ⟨⟨hmem, hkind, hmerges⟩, hrest⟩ := List.forall_mem_cons.mp hsources
    obtain ⟨g₁, hrun, hentries, hcarries⟩ := hmerges g hg hfuel
    -- The other sources are merged into the graph that the first one leaves, which is staged as well.
    obtain ⟨g₂, hrun', hcarries'⟩ := ih (g₁.entries source :: found) hrest hcarries.staged
      (Nat.le_trans hcarries.count hfuel)
    refine ⟨g₂, ?_, hcarries.trans hcarries'⟩
    obtain ⟨own, hown⟩ := kind_eq_mapping_iff.mp ((hg.kind hmem).trans hkind)
    rw [List.foldlM_cons]
    dsimp only
    rw [hown]
    dsimp only
    rw [hrun]
    refine hrun'.trans ?_
    rw [hentries, List.map_cons, List.reverse_cons, List.append_assoc]
    rfl

/-- What is left of a merge into the mapping `id` of the set: it takes over what the sources of its keys
`<<` have after their merges, and only nodes from which merges end in `n` steps are changed besides. It is
the statement for a merge half-way, and the one for its start has nothing taken. -/
def Finishes (o : Graph) (T U : Set NodeId) (n fuel : Nat) (g : Graph) (id : NodeId)
    (taken : List (NodeId × NodeId)) : Prop :=
  ∃ g', mergeInto fuel g id taken = .ok g' ∧
    g'.entries id = taken ++ o.takenOver (o.fullEntries o.size) (g.entries id) ∧
    StagedBut o T (insert id U) g' ∧
    ∀ other, other ≠ id → ¬ (other ∈ T ∧ o.MergesEnd n other) → g'.node other = g.node other

/-- Without a key `<<` the merge is at its end. -/
theorem finishes_of_settled (hT : Completable o T) (hid : id ∈ T) (hkind : o.kind id = .mapping)
    (hes : EntriesIn T (g.entries id)) (hg : StagedBut o T (insert id U) g)
    (hsplit : g.splitMerge (g.entries id) = none) : Finishes o T U n fuel g id taken := by
  have hlt : id < g.size := by
    rw [hg.size]
    exact lt_size_of_kind hkind
  have hsettled : o.Settled (g.entries id) :=
    splitMerge_eq_none_iff.mp ((hg.splitMerge hes).symm.trans hsplit)
  refine ⟨_, mergeInto_of_settled hsplit, ?_⟩
  rw [hg.finishMerge hT hes hsettled, entries_setEntries hlt, takenOver_of_settled hsettled]
  exact ⟨rfl, hg.setEntries hid hkind fun hout => absurd (Set.mem_insert id U) hout,
    fun other hne _ => node_setEntries_of_ne hne⟩

/-- Merges into a mapping of the set, some of which may have been made before. The keys `<<` that are left
lead to nodes from which merges end in `n` steps, and from the mapping itself they do not. So no source leads
back to it. -/
theorem finishes_of_rest (hT : Completable o T) (hid : id ∈ T) (hkind : o.kind id = .mapping)
    (hnot : ¬ o.MergesEnd n id)
    (hmerges : ∀ fuel, ∀ source ∈ T, o.MergesEnd n source → Merges o T (insert id U) n fuel source)
    (hsources : ∀ e ∈ o.entries id, o.isMergeKey e.1 = true →
      o.kind e.2 ≠ .scalar ∧ ∀ source ∈ o.sources e.2, o.MergesEnd n source)
    (hrest : g.entries id ⊆ o.entries id) (hg : StagedBut o T (insert id U) g)
    (hfuel : g.mergeCount ≤ fuel) : Finishes o T U n fuel g id taken := by
  induction fuel generalizing g taken with
  | zero =>
    cases hsplit : g.splitMerge (g.entries id) with
    | none =>
      exact finishes_of_settled hT hid hkind (fun e he => hT.closed.entriesIn hid e (hrest he)) hg hsplit
    | some r =>
      have hcount := mergeCount_takeOut hsplit
      omega
  | succ fuel ih =>
    have hes : EntriesIn T (g.entries id) := fun e he => hT.closed.entriesIn hid e (hrest he)
    cases hsplit : g.splitMerge (g.entries id) with
    | none => exact finishes_of_settled hT hid hkind hes hg hsplit
    | some r =>
      obtain ⟨source, others⟩ := r
      have hcount := mergeCount_takeOut hsplit
      have hlt : id < g.size := by
        rw [hg.size]
        exact lt_size_of_kind hkind
      -- The key `<<` is one that was written, and so its sources are known.
      have hsplit' := (hg.splitMerge hes).symm.trans hsplit
      obtain ⟨key, hmem, hkey⟩ := exists_key_of_splitMerge hsplit'
      obtain ⟨hscalar, hends⟩ := hsources _ (hrest hmem) hkey
      have hsource : source ∈ T := (hes _ hmem).2
      have hset : StagedBut o T (insert id U) (g.setEntries id others) :=
        hg.setEntries hid hkind fun hout => absurd (Set.mem_insert id U) hout
      obtain ⟨g₁, hrun, hcarries⟩ := merges_sources id [] (fun s hs =>
          have hsT := mem_of_mem_sources hT.closed hsource s hs
          ⟨hsT, (hends s hs).kind, hmerges fuel s hsT (hends s hs)⟩) hset (by omega)
      -- Merging the sources has left the mapping alone.
      have hentries : g₁.entries id = others := by
        have hsame := hcarries.frame id fun hmem => hnot hmem.2
        unfold Graph.entries
        rw [hsame]
        exact entries_setEntries hlt
      have hothers := (splitMerge_eq_some hsplit).2.1
      have hle := hcarries.count
      obtain ⟨g₂, hrun', hentries', hstaged, hframe⟩ := @ih g₁
        (taken ++ ((o.sources source).map (o.fullEntries o.size)).reverse.flatten)
        (hentries ▸ fun e he => hrest (hothers he)) hcarries.staged (by omega)
      refine ⟨g₂, ?_, ?_, hstaged, fun other hne hout => ?_⟩
      · unfold mergeInto
        rw [hsplit]
        dsimp only
        rw [hset.mergeSources hsource hscalar]
        refine bind_eq_ok_iff.mpr ⟨_, rfl, bind_eq_ok_iff.mpr ⟨_, hrun, ?_⟩⟩
        dsimp only
        rw [List.append_nil]
        exact hrun'
      · rw [hentries', hentries, takenOver_of_splitMerge hsplit', List.append_assoc, ← List.map_reverse,
          ← List.flatMap_def]
      · rw [hframe other hne hout, hcarries.frame other hout]
        exact node_setEntries_of_ne hne

/-- Merging a node of the set from which merges end gives it all its entries, and merges nothing but such
nodes. Induction on the number of steps: if one less is not enough for the node, its sources do not lead back
to it, and so it may be out of order while they are merged. -/
theorem merges_of_mem (hT : Completable o T) (hid : id ∈ T) (hends : o.MergesEnd n id)
    (hU : ∀ other ∈ U, ¬ o.MergesEnd n other) (fuel : Nat) : Merges o T U n fuel id := by
  induction n generalizing id U fuel with
  | zero => exact hends.elim
  | succ n ih =>
    intro g hg hfuel
    have hU' : ∀ other ∈ U, ¬ o.MergesEnd n other := fun other hother hmem =>
      hU other hother (hmem.mono n.le_succ)
    by_cases hless : o.MergesEnd n id
    · obtain ⟨g', hrun, hentries, hcarries⟩ := ih hid hless hU' fuel g hg hfuel
      exact ⟨g', hrun, hentries, hcarries.mono n.le_succ⟩
    have hkind := hends.kind
    -- With the mapping out of order, its sources can still be merged.
    have hmerges (fuel : Nat) (source : NodeId) (hsource : source ∈ T) (hend : o.MergesEnd n source) :
        Merges o T (insert id U) n fuel source :=
      ih hsource hend (Set.forall_mem_insert.mpr ⟨hless, hU'⟩) fuel
    have hfinishes : Finishes o T U n fuel g id [] ∧
        o.takenOver (o.fullEntries o.size) (g.entries id) = o.fullEntries o.size id := by
      have hbut := hg.mono (Set.subset_insert id U)
      rcases hg.node id hid with heq | ⟨-, es, heq, hes⟩
      · have hentries : g.entries id = o.entries id := by
          unfold Graph.entries
          rw [heq]
        refine ⟨finishes_of_rest hT hid hkind hless hmerges hends.2 (hentries ▸ List.Subset.refl _) hbut
          hfuel, ?_⟩
        rw [hentries]
        exact hT.takenOver_entries hid hkind
      · -- All merges have been made here before, so nothing is left to do.
        have hfull : g.entries id = o.fullEntries o.size id := by
          rw [← hes fun hmem => hU id hmem hends]
          unfold Graph.entries
          rw [heq]
        have hsettled := settled_fullEntries o o.size id
        have hin := entriesIn_fullEntries hT.closed o.size hid
        rw [← hfull] at hsettled hin
        refine ⟨finishes_of_settled hT hid hkind hin hbut ?_, (takenOver_of_settled hsettled).trans hfull⟩
        exact (hbut.splitMerge hin).trans (splitMerge_eq_none_iff.mpr hsettled)
    obtain ⟨⟨g', hrun, hentries, hstaged, hframe⟩, hfull⟩ := hfinishes
    have hentries' : g'.entries id = o.fullEntries o.size id := hentries.trans hfull
    refine ⟨g', hrun, hentries', hstaged.of_insert hentries', fun other hout => ?_, ?_⟩
    · exact hframe other (fun heq => hout (heq ▸ ⟨hid, hends⟩)) fun hmem =>
        hout ⟨hmem.1, hmem.2.mono n.le_succ⟩
    · exact (mergesTo_of_mergeInto hfuel settled_nil hrun).count

end Graph

end TermAudit.Yaml
