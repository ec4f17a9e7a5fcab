import TermAudit.Proofs.Yaml.Ahead
import TermAudit.Proofs.Yaml.Parts

/-!
# `TermAudit.Proofs.Yaml.Shuffled`: mappings with their entries in another order

Two graphs can be the same but for the order of entries whose keys are different strings
(`Graph.Shuffled`). Of a steady node, the same value is made of both up to the order of keys
(`Evaluation.exists_value_of_shuffled`): what is recorded of the one graph can be recorded of the other, and
each record is alike.

Merges keep this up. A mapping takes over the same entries in both graphs, as the keys `<<` themselves
stay in their order, and those of a source may be swapped (`Graph.Shuffled.fullEntries`). So the graphs are
still the same but for order when merges have been made ahead (`Graph.Shuffled.completes`).
-/

set_option autoImplicit false

namespace TermAudit.Yaml

/-! ## Graphs with entries in another order -/

namespace Graph

/-- The keys of the two entries are different strings. Keys `<<` and `=` are no strings, so entries with
such keys stay in their order. -/
def DifferentStrings (g : Graph) (e e' : NodeId × NodeId) : Prop :=
  ((g.node e.1).tag = .str ∧ (g.node e'.1).tag = .str) ∧
    ∃ s t, (g.node e.1).content = .scalar s ∧ (g.node e'.1).content = .scalar t ∧ s ≠ t

variable {S T : Set NodeId} {g g' : Graph} {id : NodeId}

/-- Strings are different if what their nodes hold is different. -/
theorem differentStrings_iff {e e' : NodeId × NodeId} : g.DifferentStrings e e' ↔
    ((g.node e.1).tag = .str ∧ (g.node e'.1).tag = .str) ∧
      (g.isScalar e.1 = true ∧ g.isScalar e'.1 = true) ∧
        (g.node e.1).content ≠ (g.node e'.1).content := by
  unfold DifferentStrings Graph.isScalar
  refine and_congr_right fun _ => ?_
  cases (g.node e.1).content <;> cases (g.node e'.1).content <;> simp

/-- So this can be computed. -/
instance (g : Graph) (e e' : NodeId × NodeId) : Decidable (g.DifferentStrings e e') :=
  decidable_of_iff _ differentStrings_iff.symm

/-- Keys that are strings ask for no merge. -/
theorem DifferentStrings.isMergeKey {e e' : NodeId × NodeId} (hdiffer : g.DifferentStrings e e') :
    g.isMergeKey e.1 = false ∧ g.isMergeKey e'.1 = false := by
  obtain ⟨⟨htag, htag'⟩, -⟩ := hdiffer
  unfold Graph.isMergeKey
  rw [htag, htag']
  exact ⟨rfl, rfl⟩

/-- Which of the two entries comes first is no matter. -/
theorem DifferentStrings.symm {e e' : NodeId × NodeId} (hdiffer : g.DifferentStrings e e') :
    g.DifferentStrings e' e := by
  obtain ⟨⟨htag, htag'⟩, s, t, hs, ht, hne⟩ := hdiffer
  exact ⟨⟨htag', htag⟩, t, s, ht, hs, hne.symm⟩

/-- Merges make no string of another. -/
theorem Completes.differentStrings (h : Completes g T g g') {e e' : NodeId × NodeId}
    (hdiffer : g.DifferentStrings e e') : g'.DifferentStrings e e' := by
  obtain ⟨⟨htag, htag'⟩, s, t, hs, ht, hne⟩ := hdiffer
  exact ⟨⟨(h.tag _).trans htag, (h.tag _).trans htag'⟩, s, t, h.scalar_iff.mpr hs, h.scalar_iff.mpr ht,
    hne⟩

/-- The second graph has what the first one has in the set, and nothing leads out of it. Entries with
different strings may have been swapped. Everything else is at its place, so the same nodes have the same
meaning in both. -/
structure Shuffled (g : Graph) (S : Set NodeId) (g' : Graph) : Prop where
  size : g'.size = g.size
  tag : ∀ id ∈ S, (g'.node id).tag = (g.node id).tag
  position : ∀ id ∈ S, (g'.node id).position = (g.node id).position
  content : ∀ id ∈ S, (g'.node id).content = (g.node id).content ∨
    ∃ es es', (g.node id).content = .mapping es ∧ (g'.node id).content = .mapping es' ∧
      Swapped g.DifferentStrings es es'
  closed : Same S g g

namespace Shuffled

variable (h : g.Shuffled S g')

section Nodes

variable (hid : id ∈ S)

include h hid

/-- Entries have been swapped, if anything. -/
theorem entries : Swapped g.DifferentStrings (g.entries id) (g'.entries id) := by
  unfold Graph.entries
  rcases h.content id hid with heq | ⟨es, es', hes, hes', hswapped⟩
  · rw [heq]
    exact .refl _
  · rw [hes, hes']
    exact hswapped

/-- Scalars are the same. -/
theorem scalar_iff {text : Text} :
    (g'.node id).content = .scalar text ↔ (g.node id).content = .scalar text := by
  rcases h.content id hid with heq | ⟨es, es', hes, hes', -⟩
  · rw [heq]
  · rw [hes, hes']
    exact iff_of_false (fun heq => nomatch heq) fun heq => nomatch heq

/-- A mapping stays a mapping. -/
theorem exists_mapping {es : List (NodeId × NodeId)} (hcontent : (g.node id).content = .mapping es) :
    ∃ es', (g'.node id).content = .mapping es' ∧ Swapped g.DifferentStrings es es' := by
  rcases h.content id hid with heq | ⟨own, es', hown, hes', hswapped⟩
  · exact ⟨es, heq.trans hcontent, .refl es⟩
  · rw [hown] at hcontent
    cases hcontent
    exact ⟨es', hes', hswapped⟩

/-- Sequences are the same. -/
theorem sequence {items : List NodeId} (hcontent : (g.node id).content = .sequence items) :
    (g'.node id).content = .sequence items := by
  rcases h.content id hid with heq | ⟨es, es', hes, -⟩
  · exact heq.trans hcontent
  · rw [hes] at hcontent
    cases hcontent

/-- The same nodes are in the node. -/
theorem mem_children_iff {child : NodeId} :
    child ∈ (g'.node id).content.children ↔ child ∈ (g.node id).content.children := by
  rcases h.content id hid with heq | ⟨es, es', hes, hes', hswapped⟩
  · rw [heq]
  · rw [hes, hes']
    exact (hswapped.perm.flatMap_right _).mem_iff.symm

/-- The same nodes are keys `<<`. -/
theorem isMergeKey : g'.isMergeKey id = g.isMergeKey id := by
  unfold Graph.isMergeKey
  rw [h.tag id hid]

/-- A key `<<` has the same sources. -/
theorem sources : g'.sources id = g.sources id := by
  unfold Graph.sources
  rcases h.content id hid with heq | ⟨es, es', hes, hes', -⟩
  · rw [heq]
  · rw [hes, hes']

/-- The same nodes are loose. -/
theorem loose_iff : g'.Loose id ↔ g.Loose id := by
  unfold Loose
  rw [h.tag id hid]
  refine or_congr_right (exists_congr fun e => ?_)
  rw [(h.entries hid).perm.mem_iff.symm]
  refine and_congr_right fun he => ?_
  rw [h.isMergeKey (h.closed.entriesIn hid e he).1]

/-- A node is refused alike. -/
theorem refuse {α : Type} (problem : Problem) :
    (g'.refuse id problem : Except Fault α) = g.refuse id problem := by
  unfold Graph.refuse
  rw [h.position id hid]

end Nodes

section Steady

variable (hS : Evaluation.IsSteady S g)

include h hS

/-- Nothing leads out of the set in the second graph, and its nodes are steady there too. -/
theorem isSteady : Evaluation.IsSteady S g' where
  closed := ⟨rfl, fun _ _ => rfl, fun id hid child hchild =>
    h.closed.closed id hid child ((h.mem_children_iff hid).mp hchild)⟩
  not_loose id hid := (h.loose_iff hid).not.mpr (hS.not_loose id hid)

/-- No entry of a steady mapping has a key `=`. -/
theorem find?_value {es : List (NodeId × NodeId)} (hes : EntriesIn S es) :
    (es.find? fun e => (g.node e.1).tag == .value) = none ∧
      (es.find? fun e => (g'.node e.1).tag == .value) = none := by
  have hnot {e : NodeId × NodeId} (he : e ∈ es) : ¬ ((g.node e.1).tag == .value) = true := fun heq =>
    hS.not_loose e.1 (hes e he).1 (Or.inl (beq_iff_eq.mp heq))
  refine ⟨List.find?_eq_none.mpr fun e he => hnot he, List.find?_eq_none.mpr fun e he => ?_⟩
  rw [h.tag e.1 (hes e he).1]
  exact hnot he

/-- So the text of a node is the same, as there is nothing to look behind. -/
theorem text? (hid : id ∈ S) (fuel : Nat) : g'.text? fuel id = g.text? fuel id := by
  cases fuel with
  | zero => rfl
  | succ fuel =>
    have hin := h.closed.entriesIn hid
    have hin' := (h.isSteady hS).closed.entriesIn hid
    unfold Graph.text?
    unfold Graph.entries at hin hin'
    simp only [h.refuse hid]
    rcases h.content id hid with heq | ⟨es, es', hes, hes', -⟩
    · rw [heq]
      split
      · rfl
      · rfl
      · rename_i es hes
        rw [hes] at hin
        obtain ⟨hnone, hnone'⟩ := h.find?_value hS hin
        rw [hnone, hnone']
    · rw [hes] at hin
      rw [hes'] at hin'
      rw [hes, hes']
      dsimp only
      rw [(h.find?_value hS hin).1, (h.find?_value hS hin').2]

/-- What is made of a scalar node is the same. -/
theorem scalar? (hid : id ∈ S) : g'.scalar? id = g.scalar? id := by
  have hscalar : g'.isScalar id = g.isScalar id := by
    unfold isScalar
    rcases h.content id hid with heq | ⟨es, es', hes, hes', -⟩
    · rw [heq]
    · rw [hes, hes']
  unfold Graph.scalar?
  rw [h.tag id hid, h.size, h.text? hS hid, hscalar]
  simp only [h.refuse hid]

end Steady

/-! ### Merges -/

section Merges

include h

/-- What a mapping takes over is swapped as its sources are, and the keys `<<` themselves stay in their
order. -/
theorem takenOver {full full' : NodeId → List (NodeId × NodeId)} {es es' : List (NodeId × NodeId)}
    (hes : EntriesIn S es) (hswapped : Swapped g.DifferentStrings es es')
    (hfull : ∀ source ∈ S, Swapped g.DifferentStrings (full source) (full' source)) :
    Swapped g.DifferentStrings (g.takenOver full es) (g'.takenOver full' es') := by
  have hes' : EntriesIn S es' := fun e he => hes e (hswapped.perm.mem_iff.mpr he)
  have hkeys : (es'.filter fun e => g'.isMergeKey e.1) = es.filter fun e => g.isMergeKey e.1 := by
    rw [← hswapped.filter_eq fun e e' => DifferentStrings.isMergeKey]
    exact List.filter_congr fun e he => h.isMergeKey (hes' e he).1
  have hothers : (es'.filter fun e => !g'.isMergeKey e.1) = es'.filter fun e => !g.isMergeKey e.1 :=
    List.filter_congr fun e he => by rw [h.isMergeKey (hes' e he).1]
  unfold Graph.takenOver
  rw [hkeys, hothers]
  refine Swapped.append (Swapped.flatMap fun e he => ?_) (hswapped.filter _)
  have hvalue := (hes e (List.mem_filter.mp he).1).2
  rw [h.sources hvalue]
  exact Swapped.flatMap fun source hsource =>
    hfull source (mem_of_mem_sources h.closed hvalue source (List.mem_reverse.mp hsource))

/-- So are the entries of a mapping after its merges. -/
theorem fullEntries (n : Nat) (hid : id ∈ S) :
    Swapped g.DifferentStrings (g.fullEntries n id) (g'.fullEntries n id) := by
  induction n generalizing id with
  | zero => exact .nil
  | succ n ih =>
    exact h.takenOver (h.closed.entriesIn hid) (h.entries hid) fun source hsource => ih hsource

/-- When the merges in the set have been made ahead, the two graphs are still the same but for order. What
a mapping takes over comes in front of its own entries, in both graphs. -/
theorem completes {T T' : Set NodeId} {full full' : Graph} (hS : S ⊆ T) (hS' : S ⊆ T')
    (hfull : Completes g T g full) (hfull' : Completes g' T' g' full') : full.Shuffled S full' where
  size := by rw [hfull'.size, hfull.size, h.size]
  tag id hid := by rw [hfull'.tag, hfull.tag, h.tag id hid]
  position id hid := by rw [hfull'.position, hfull.position, h.position id hid]
  content id hid := by
    rw [hfull.full id (hS hid), hfull'.full id (hS' hid)]
    -- A mapping has all its entries, swapped like those before the merges. Other nodes are kept.
    by_cases hkind : g.kind id = .mapping
    · obtain ⟨es, hes⟩ := kind_eq_mapping_iff.mp hkind
      obtain ⟨es', hes', -⟩ := h.exists_mapping hid hes
      rw [fullNode_of_kind hkind, fullNode_of_kind (kind_eq_mapping_iff.mpr ⟨es', hes'⟩), h.size]
      exact Or.inr ⟨_, _, rfl, rfl, (h.fullEntries g.size hid).imp fun e e' => hfull.differentStrings⟩
    · have hcontent := (h.content id hid).resolve_right fun ⟨es, _, hes, _⟩ =>
        hkind (kind_eq_mapping_iff.mpr ⟨es, hes⟩)
      have hkind' : g'.kind id ≠ .mapping := by
        unfold Graph.kind at hkind ⊢
        rwa [hcontent]
      rw [fullNode_of_kind_ne hkind, fullNode_of_kind_ne hkind']
      exact Or.inl hcontent
  closed := ⟨rfl, fun _ _ => rfl, fun id hid child hchild => by
    rw [hfull.full id (hS hid)] at hchild
    by_cases hkind : g.kind id = .mapping
    · rw [fullNode_of_kind hkind] at hchild
      obtain ⟨e, he, hmem⟩ := List.mem_flatMap.mp hchild
      obtain ⟨hkey, hvalue⟩ := entriesIn_fullEntries h.closed g.size hid e he
      rcases List.mem_cons.mp hmem with rfl | hmem
      · exact hkey
      · rw [List.mem_singleton.mp hmem]
        exact hvalue
    · rw [fullNode_of_kind_ne hkind] at hchild
      exact h.closed.closed id hid child hchild⟩

end Merges

end Shuffled

end Graph

namespace Evaluation

open Yaml.Graph (Shuffled)

section Shuffled

variable {S : Set NodeId} {g g' : Graph} {id : NodeId} {known known' : List (NodeId × Value)} {v : Value}

/-- What is known of a string is its text. -/
theorem lookup_of_string (hS : IsSteady S g) (hid : id ∈ S) (h : Recorded g known) {text : Text}
    (htag : (g.node id).tag = .str) (hcontent : (g.node id).content = .scalar text)
    (hlookup : known.lookup id = some v) : v = .scalar (.text text) := by
  obtain ⟨before, -, hmade⟩ := h.madeFrom_of_lookup hlookup (hS.steady hid)
  have hmade := (madeFrom_iff hS hid).mp hmade
  unfold MadeOf at hmade
  rw [Graph.scalar?_of_str htag hcontent] at hmade
  obtain ⟨x, hx, rfl⟩ := hmade
  cases hx
  rfl

/-- Of the nodes in the set, the same values are known, but for order. It is what two evaluations of
shuffled graphs have in common at all times. -/
def KnowsAlike (S : Set NodeId) (known known' : List (NodeId × Value)) : Prop :=
  ∀ id ∈ S, Option.Rel Value.Alike (known.lookup id) (known'.lookup id)

/-- The value that is known on the other side. -/
theorem KnowsAlike.exists_lookup (h : KnowsAlike S known known') (hid : id ∈ S)
    (hv : known.lookup id = some v) : ∃ v', known'.lookup id = some v' ∧ v.Alike v' := by
  have hrel := h id hid
  rw [hv] at hrel
  generalize known'.lookup id = r at hrel
  cases hrel with
  | some halike => exact ⟨_, rfl, halike⟩

/-- The items of a sequence are made alike if each one of them is. What an item is made of differs: an item of
a list is any known value, one of an `!!omap` or of `!!pairs` is a mapping with a single entry. -/
theorem exists_items (h : g.Shuffled S g') (hid : id ∈ S) {items : List NodeId}
    (hcontent : (g.node id).content = .sequence items) {Made Made' : NodeId → Value → Prop}
    (halike : ∀ item ∈ S, ∀ w, Made item w → ∃ w', Made' item w' ∧ w.Alike w') {vs : List Value}
    (hvalues : List.Forall₂ Made items vs) :
    ∃ vs', (g'.node id).content = .sequence items ∧ List.Forall₂ Made' items vs' ∧
      (Value.list vs).Alike (.list vs') := by
  have hchildren := h.closed.closed id hid
  rw [hcontent] at hchildren
  obtain ⟨vs', hvalues', hvs⟩ := exists_forall₂_of_mem hvalues fun item hitem w hw =>
    halike item (hchildren item hitem) w hw
  exact ⟨vs', h.sequence hid hcontent, hvalues', .list hvs⟩

section Knows

variable (hknown : KnowsAlike S known known')

include hknown

/-- An entry whose key and value are known on one side is known on the other, with the same key. -/
theorem KnowsAlike.entryOf {e : NodeId × NodeId} (he : e.1 ∈ S ∧ e.2 ∈ S) {made : Scalar × Value}
    (hmade : EntryOf known e made) :
    ∃ made', EntryOf known' e made' ∧ made'.1 = made.1 ∧ made.2.Alike made'.2 := by
  obtain ⟨k, hk, hkalike⟩ := hknown.exists_lookup he.1 hmade.1
  obtain ⟨w, hw, hwalike⟩ := hknown.exists_lookup he.2 hmade.2
  cases hkalike
  exact ⟨(made.1, w), ⟨hk, hw⟩, rfl, hwalike⟩

variable (h : g.Shuffled S g') (hS : IsSteady S g)

include h

/-- A pair stays a pair, since a single entry cannot be swapped. -/
theorem KnowsAlike.pairOf (hid : id ∈ S) (hpair : PairOf g known id v) :
    ∃ v', PairOf g' known' id v' ∧ v.Alike v' := by
  obtain ⟨e, k, w, hcontent, hk, hw, rfl⟩ := hpair
  obtain ⟨es', hcontent', hswapped⟩ := h.exists_mapping hid hcontent
  obtain rfl := List.singleton_perm.mp hswapped.perm
  have he := h.closed.closed id hid
  rw [hcontent] at he
  obtain ⟨hkey, hvalue⟩ := Content.mem_children_of_mem (List.mem_singleton_self e)
  obtain ⟨k', hk', hkalike⟩ := hknown.exists_lookup (he _ hkey) hk
  obtain ⟨w', hw', hwalike⟩ := hknown.exists_lookup (he _ hvalue) hw
  exact ⟨_, ⟨e, k', w', hcontent', hk', hw', rfl⟩, .tuple (.cons hkalike (.cons hwalike .nil))⟩

/-- An `!!omap` and `!!pairs` are made alike, each as the list of its pairs. -/
theorem KnowsAlike.ofPairs (hid : id ∈ S)
    (hmade : ∃ items vs, (g.node id).content = .sequence items ∧ List.Forall₂ (PairOf g known) items vs ∧
      v = .list vs) :
    ∃ v', (∃ items vs, (g'.node id).content = .sequence items ∧ List.Forall₂ (PairOf g' known') items vs ∧
      v' = .list vs) ∧ v.Alike v' := by
  obtain ⟨items, vs, hcontent, hvalues, rfl⟩ := hmade
  obtain ⟨vs', hcontent', hvalues', halike⟩ := exists_items h hid hcontent
    (fun _ hitem _ hw => hknown.pairOf h hitem hw) hvalues
  exact ⟨_, ⟨items, vs', hcontent', hvalues', rfl⟩, halike⟩

include hS

/-- The entries of a mapping are made with the same keys first, and then swapped as their nodes are. -/
theorem KnowsAlike.entries (hrecorded : Recorded g' known') (hid : id ∈ S) {es : List (NodeId × NodeId)}
    (hcontent : (g.node id).content = .mapping es) {made : List (Scalar × Value)}
    (hmade : List.Forall₂ (EntryOf known) es made) :
    ∃ es' between made', (g'.node id).content = .mapping es' ∧ List.Forall₂ (EntryOf known') es' made' ∧
      Value.SameKeys (Value.putEntries [] made) (Value.putEntries [] between) ∧
      Swapped Value.DifferentTexts (Value.putEntries [] between) (Value.putEntries [] made') := by
  obtain ⟨es', hcontent', hswapped⟩ := h.exists_mapping hid hcontent
  have hin := h.closed.entriesIn hid
  unfold Graph.entries at hin
  rw [hcontent] at hin
  obtain ⟨between, hbetween, hsame⟩ := exists_forall₂_of_mem hmade fun e he made hmade =>
    hknown.entryOf (hin e he) hmade
  -- Entries that may pass each other have different strings as keys, which are made to their texts.
  have hdiffer : ∀ e e', g.DifferentStrings e e' → ∀ x x',
      (e.1 ∈ S ∧ e.2 ∈ S) ∧ EntryOf known' e x → (e'.1 ∈ S ∧ e'.2 ∈ S) ∧ EntryOf known' e' x' →
      Value.DifferentTexts x x' := by
    rintro e e' ⟨⟨htag, htag'⟩, s, t, hs, ht, hne⟩ x x' ⟨he, hx⟩ ⟨he', hx'⟩
    rw [← h.scalar_iff he.1] at hs
    rw [← h.scalar_iff he'.1] at ht
    have hkey := lookup_of_string (h.isSteady hS) he.1 hrecorded ((h.tag _ he.1).trans htag) hs hx.1
    have hkey' := lookup_of_string (h.isSteady hS) he'.1 hrecorded ((h.tag _ he'.1).trans htag') ht hx'.1
    exact ⟨s, t, Value.scalar.inj hkey, Value.scalar.inj hkey', hne⟩
  obtain ⟨made', hmade', hswapped'⟩ := hswapped.exists_forall₂
    ((List.forall₂_and_left _ _).mpr ⟨hin, hbetween⟩) hdiffer
  exact ⟨es', between, made', hcontent', hmade'.imp fun _ _ he => he.2, Value.SameKeys.putEntries .nil hsame,
    Value.swapped_putEntries hswapped' []⟩

/-- What is made of a node is alike, if what is known of the nodes in it is. -/
theorem KnowsAlike.madeOf (hrecorded : Recorded g' known') (hid : id ∈ S) (hmade : MadeOf g known id v) :
    ∃ v', MadeOf g' known' id v' ∧ v.Alike v' := by
  unfold MadeOf at hmade ⊢
  rw [h.scalar? hS hid]
  split at hmade
  · obtain ⟨x, hx, rfl⟩ := hmade
    exact ⟨_, ⟨x, hx, rfl⟩, .scalar x⟩
  unfold CollectionOf at hmade ⊢
  rw [h.tag id hid]
  split at hmade
  · obtain ⟨items, vs, hcontent, hvalues, rfl⟩ := hmade
    obtain ⟨vs', hcontent', hvalues', halike⟩ := exists_items h hid hcontent
      (fun _ hitem _ hw => hknown.exists_lookup hitem hw) hvalues
    exact ⟨_, ⟨items, vs', hcontent', hvalues', rfl⟩, halike⟩
  · obtain ⟨es, made, hcontent, hmade, rfl⟩ := hmade
    obtain ⟨es', between, made', hcontent', hmade', hsame, hswapped⟩ :=
      hknown.entries h hS hrecorded hid hcontent hmade
    exact ⟨_, ⟨es', made', hcontent', hmade', rfl⟩, hsame.alike hswapped⟩
  · -- Of the entries of a set only the keys are kept, and those are permuted.
    obtain ⟨es, made, hcontent, hmade, rfl⟩ := hmade
    obtain ⟨es', between, made', hcontent', hmade', hsame, hswapped⟩ :=
      hknown.entries h hS hrecorded hid hcontent hmade
    exact ⟨_, ⟨es', made', hcontent', hmade', rfl⟩, .set (hsame.keys ▸ hswapped.perm.map Prod.fst)⟩
  · exact hknown.ofPairs h hid hmade
  · exact hknown.ofPairs h hid hmade
  · exact hmade.elim

end Knows

variable (h : g.Shuffled S g') (hS : IsSteady S g)

include h hS

/-- What is recorded of the one graph can be recorded of the other. -/
theorem exists_recorded (hrecorded : Recorded g known) :
    ∃ known', Recorded g' known' ∧ KnowsAlike S known known' := by
  induction hrecorded with
  | nil => exact ⟨[], .nil, fun _ _ => .none⟩
  | @cons known id v hrecorded hnew hmade ih =>
    obtain ⟨known', hrecorded', hknown⟩ := ih
    by_cases hid : id ∈ S
    · obtain ⟨v', hmade', halike⟩ := hknown.madeOf h hS hrecorded' hid
        ((madeFrom_iff hS hid).mp (hmade (hS.steady hid)))
      have hnew' : known'.lookup id = none := by
        have hrel := hknown id hid
        rw [hnew] at hrel
        generalize known'.lookup id = r at hrel
        cases hrel
        rfl
      refine ⟨(id, v') :: known', .cons hrecorded' hnew' fun _ =>
        (madeFrom_iff (h.isSteady hS) hid).mpr hmade', fun other hother => ?_⟩
      rw [List.lookup_cons, List.lookup_cons]
      split
      · exact .some halike
      · exact hknown other hother
    · -- Nothing need be recorded of nodes outside of the set.
      refine ⟨known', hrecorded', fun other hother => ?_⟩
      rw [List.lookup_cons, beq_false_of_ne (ne_of_mem_of_not_mem hother hid)]
      exact hknown other hother

/-- The value of a node is made of both graphs or of none, and it is the same but for order. The record of
making it in the one graph is followed through the other. -/
theorem exists_value_of_shuffled (hid : id ∈ S) {t : Evaluation}
    (hrun : (value id).run (start g) = .ok (v, t)) :
    ∃ v' t', (value id).run (start g') = .ok (v', t') ∧ v.Alike v' := by
  rw [run_value] at hrun
  obtain ⟨hadds, hlookup⟩ := valueIn_records hS hid h.closed .nil (fun _ _ => rfl) hrun
  obtain ⟨known', hrecorded', hknown⟩ := exists_recorded h hS hadds.recorded
  obtain ⟨v', hv', halike⟩ := hknown.exists_lookup hid hlookup
  have hS' := h.isSteady hS
  obtain ⟨t', hrun'⟩ := valueIn_of_recorded hS' hS'.closed hrecorded' hid hv' (s := start g') hS'.closed .nil
    (fun a ha => absurd ha List.not_mem_nil) (lasts_nil g'.size)
  exact ⟨v', t', (run_value id (start g')).trans hrun', halike⟩

end Shuffled

end Evaluation

end TermAudit.Yaml
