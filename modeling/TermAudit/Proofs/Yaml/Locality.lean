import Mathlib.Data.List.Find
import Mathlib.Data.Set.Defs
import TermAudit.Proofs.Yaml.Merges
import TermAudit.Proofs.Yaml.Values

/-!
# `TermAudit.Proofs.Yaml.Locality`: merges in parts of a graph

Whatever is looked up from a node is found in the nodes inside of it, and merges change no others. So two
graphs that are the same in a set of nodes, out of which nothing leads, give the same there and stay the
same when both are merged (`Graph.Twins.mergedEntries`).

Of the nodes inside, merges change only some: mappings with a key `<<` and keys `=`. `Graph.Loose` tells
these from all others, and `Graph.ChangedIn` says what a change leaves alone.
-/

set_option autoImplicit false

namespace TermAudit.Yaml

/-- The nodes in a node. Of a mapping these are its keys as well as its values. -/
def Content.children : Content → List NodeId
  | .scalar _ => []
  | .sequence items => items
  | .mapping entries => entries.flatMap fun e => [e.1, e.2]

/-- Both parts of an entry are nodes in the mapping. -/
theorem Content.mem_children_of_mem {entries : List (NodeId × NodeId)} {e : NodeId × NodeId}
    (h : e ∈ entries) :
    e.1 ∈ (Content.mapping entries).children ∧ e.2 ∈ (Content.mapping entries).children :=
  ⟨List.mem_flatMap.mpr ⟨e, h, List.mem_cons_self⟩,
    List.mem_flatMap.mpr ⟨e, h, List.mem_cons_of_mem _ List.mem_cons_self⟩⟩

namespace Graph

variable {S C : Set NodeId} {g₀ g₀' g g' : Graph} {id : NodeId} {es : List (NodeId × NodeId)}

/-- A merge may change the node: it is a mapping with a key `<<`, or a key `=`, whose tag becomes that of
strings when its mapping is merged. -/
def Loose (g : Graph) (id : NodeId) : Prop :=
  (g.node id).tag = .value ∨ ∃ e ∈ g.entries id, g.isMergeKey e.1 = true

/-- Whether a node is loose can be computed. -/
instance (g : Graph) (id : NodeId) : Decidable (g.Loose id) :=
  inferInstanceAs (Decidable (_ ∨ ∃ e ∈ g.entries id, _))

/-- `g` is made of `g₀` by changes in the set. Nodes stay at their places, and all but mappings keep what
they hold. It says nothing about the new entries of a mapping. -/
structure ChangedIn (C : Set NodeId) (g₀ g : Graph) : Prop where
  size : g.size = g₀.size
  node : ∀ id, id ∉ C → g.node id = g₀.node id
  position : ∀ id, (g.node id).position = (g₀.node id).position
  content : ∀ id, (g.node id).content = (g₀.node id).content ∨
    ∃ es es₀, (g.node id).content = .mapping es ∧ (g₀.node id).content = .mapping es₀

/-- Two graphs are the same in the set, and nothing there leads out of it. Then whatever is looked up from
a node of the set is the same in both. -/
structure Same (S : Set NodeId) (g g' : Graph) : Prop where
  size : g'.size = g.size
  node : ∀ id ∈ S, g'.node id = g.node id
  closed : ∀ id ∈ S, ∀ child ∈ (g.node id).content.children, child ∈ S

/-- Two graphs that are the same in the set `S` are made of `g₀` and `g₀'` by changes in the set `C`, in
which all loose nodes of `S` are. Merging the same node in both keeps this. -/
structure Twins (S C : Set NodeId) (g₀ g₀' g g' : Graph) : Prop extends Same S g g' where
  loose : ∀ id ∈ S, g.Loose id → id ∈ C
  left : ChangedIn C g₀ g
  right : ChangedIn C g₀' g'

/-- Keys and values of a mapping are nodes in it. -/
theorem mem_children_of_mem_entries {e : NodeId × NodeId} (h : e ∈ g.entries id) :
    e.1 ∈ (g.node id).content.children ∧ e.2 ∈ (g.node id).content.children := by
  unfold Graph.entries at h
  split at h
  · rename_i entries hcontent
    rw [hcontent]
    exact Content.mem_children_of_mem h
  · cases h

/-- The entries have keys and values in the set. -/
def EntriesIn (S : Set NodeId) (es : List (NodeId × NodeId)) : Prop :=
  ∀ e ∈ es, e.1 ∈ S ∧ e.2 ∈ S

/-! ## Changes -/

/-- Nothing has been changed yet. -/
theorem ChangedIn.refl (C : Set NodeId) (g : Graph) : ChangedIn C g g where
  size := rfl
  node _ _ := rfl
  position _ := rfl
  content _ := Or.inl rfl

/-- Changes in a set, one after the other, are changes in the set. A mapping may get other entries twice. -/
theorem ChangedIn.trans {g₁ : Graph} (h : ChangedIn C g₀ g₁) (h' : ChangedIn C g₁ g) :
    ChangedIn C g₀ g where
  size := h'.size.trans h.size
  node id hid := (h'.node id hid).trans (h.node id hid)
  position id := (h'.position id).trans (h.position id)
  content id := by
    rcases h'.content id with heq | ⟨es, es₁, hes, hes₁⟩
    · rw [heq]
      exact h.content id
    · rcases h.content id with heq | ⟨-, es₀, -, hes₀⟩
      · exact Or.inr ⟨es, es₁, hes, heq ▸ hes₁⟩
      · exact Or.inr ⟨es, es₀, hes, hes₀⟩

/-- Changes in a set are changes in any larger one. -/
theorem ChangedIn.mono {C' : Set NodeId} (h : ChangedIn C g₀ g) (hsubset : C ⊆ C') :
    ChangedIn C' g₀ g :=
  { h with node := fun id hid => h.node id fun hmem => hid (hsubset hmem) }

/-- A mapping has been one before. -/
theorem ChangedIn.mapping_iff (h : ChangedIn C g₀ g) :
    (∃ es, (g.node id).content = .mapping es) ↔ ∃ es, (g₀.node id).content = .mapping es := by
  rcases h.content id with heq | ⟨es, es₀, hes, hes₀⟩
  · rw [heq]
  · exact iff_of_true ⟨es, hes⟩ ⟨es₀, hes₀⟩

/-- A scalar has been one before. -/
theorem ChangedIn.scalar_iff {t : Text} (h : ChangedIn C g₀ g) :
    (g.node id).content = .scalar t ↔ (g₀.node id).content = .scalar t := by
  rcases h.content id with heq | ⟨es, es₀, hes, hes₀⟩
  · rw [heq]
  · rw [hes, hes₀]
    exact iff_of_false (fun h => nomatch h) fun h => nomatch h

/-- A node in the set may be put there anew, at its place in the document, and with other entries only if it
is a mapping. -/
theorem ChangedIn.set {n : Node} (h : ChangedIn C g₀ g) (hid : id ∈ C)
    (hposition : n.position = (g.node id).position)
    (hcontent : n.content = (g.node id).content ∨
      ∃ es es₀, n.content = .mapping es ∧ (g.node id).content = .mapping es₀) :
    ChangedIn C g₀ (g.set id n) where
  size := (size_set g id n).trans h.size
  node other hother := by
    rw [node_set, if_neg]
    · exact h.node other hother
    · rintro ⟨rfl, -⟩
      exact hother hid
  position other := by
    rw [node_set]
    split
    · rename_i heq
      rw [hposition, heq.1, h.position]
    · exact h.position other
  content other := by
    rw [node_set]
    split
    · rename_i heq
      rw [heq.1]
      rcases hcontent with hsame | ⟨es, es₁, hes, hes₁⟩
      · rw [hsame]
        exact h.content id
      · -- A mapping that has been changed was a mapping from the start.
        obtain ⟨es₀, hes₀⟩ := h.mapping_iff.mp ⟨es₁, hes₁⟩
        exact Or.inr ⟨es, es₀, hes, hes₀⟩
    · exact h.content other

/-- A node that is put into a graph makes no other one loose, unless it is a key `<<`. -/
theorem loose_of_set {n : Node} {other : NodeId} (hkey : (n.tag == .merge) = g.isMergeKey id)
    (hne : other ≠ id) (h : (g.set id n).Loose other) : g.Loose other := by
  have hkeys (key : NodeId) : (g.set id n).isMergeKey key = g.isMergeKey key := by
    unfold isMergeKey at hkey ⊢
    rw [node_set]
    split
    · rename_i heq
      rw [hkey, heq.1]
    · rfl
  unfold Loose Graph.entries at h ⊢
  rw [node_set, if_neg fun heq => hne heq.1] at h
  simp only [hkeys] at h
  exact h

/-- The same node is put into both graphs. -/
theorem Twins.set {n : Node} (h : Twins S C g₀ g₀' g g') (hS : id ∈ S) (hC : id ∈ C)
    (hchildren : ∀ child ∈ n.content.children, child ∈ S)
    (hkey : (n.tag == .merge) = g.isMergeKey id) (hposition : n.position = (g.node id).position)
    (hcontent : n.content = (g.node id).content ∨
      ∃ es es₀, n.content = .mapping es ∧ (g.node id).content = .mapping es₀) :
    Twins S C g₀ g₀' (g.set id n) (g'.set id n) where
  size := by rw [size_set, size_set, h.size]
  node other hother := by
    rw [node_set, node_set, h.size, h.node other hother]
  closed other hother := by
    rw [node_set]
    split
    · exact hchildren
    · exact h.closed other hother
  loose other hother hloose := by
    by_cases heq : other = id
    · exact heq ▸ hC
    · exact h.loose other hother (loose_of_set hkey heq hloose)
  left := h.left.set hC hposition hcontent
  right := by
    rw [← h.node id hS] at hposition hcontent
    exact h.right.set hC hposition hcontent

/-- What a message calls a node is the same in both graphs. -/
theorem Same.kind (h : Same S g g') (hid : id ∈ S) : g'.kind id = g.kind id := by
  unfold Graph.kind
  rw [h.node id hid]

/-- A mapping in the set has the same entries in both graphs. -/
theorem Same.entries (h : Same S g g') (hid : id ∈ S) : g'.entries id = g.entries id := by
  unfold Graph.entries
  rw [h.node id hid]

/-- Its keys and values are in the set as well. -/
theorem Same.entriesIn (h : Same S g g') (hid : id ∈ S) : EntriesIn S (g.entries id) := by
  intro e he
  obtain ⟨hkey, hvalue⟩ := mem_children_of_mem_entries he
  exact ⟨h.closed id hid _ hkey, h.closed id hid _ hvalue⟩

/-- A mapping is given the same entries in both graphs. -/
theorem Twins.setEntries (h : Twins S C g₀ g₀' g g') (hS : id ∈ S) (hC : id ∈ C)
    (hmapping : ∃ own, (g.node id).content = .mapping own) (hes : EntriesIn S es) :
    Twins S C g₀ g₀' (g.setEntries id es) (g'.setEntries id es) := by
  obtain ⟨own, hown⟩ := hmapping
  unfold Graph.setEntries
  rw [h.node id hS]
  refine h.set hS hC (fun child hchild => ?_) rfl rfl (Or.inr ⟨es, own, rfl, hown⟩)
  obtain ⟨e, he, hc⟩ := List.mem_flatMap.mp hchild
  rcases List.mem_cons.mp hc with rfl | hc
  · exact (hes e he).1
  · rw [List.mem_singleton.mp hc]
    exact (hes e he).2

/-! ## Merges side by side -/

/-- The first key `<<` is the same one in both graphs, since keys are nodes in the set. -/
theorem Same.splitMerge (h : Same S g g') (hes : EntriesIn S es) :
    g'.splitMerge es = g.splitMerge es := by
  induction es with
  | nil => rfl
  | cons e es ih =>
    obtain ⟨he, hrest⟩ := List.forall_mem_cons.mp hes
    obtain ⟨key, value⟩ := e
    unfold Graph.splitMerge
    rw [h.node key he.1, ih hrest]

/-- Making keys plain changes nothing that a node holds. -/
theorem content_plainKeys (g : Graph) (es : List (NodeId × NodeId)) (id : NodeId) :
    ((g.plainKeys es).node id).content = (g.node id).content := by
  unfold Graph.plainKeys
  induction es generalizing g with
  | nil => rfl
  | cons e es ih =>
    rw [List.foldl_cons, ih]
    dsimp only
    split
    · rw [node_set]
      split
      · rename_i heq
        rw [heq.1]
      · rfl
    · rfl

/-- Keys `=` are made plain in both graphs. They are loose, so the change is one in `C`. -/
theorem Twins.plainKeys (h : Twins S C g₀ g₀' g g') (hes : EntriesIn S es) :
    Twins S C g₀ g₀' (g.plainKeys es) (g'.plainKeys es) := by
  unfold Graph.plainKeys
  induction es generalizing g g' with
  | nil => exact h
  | cons e es ih =>
    obtain ⟨he, hrest⟩ := List.forall_mem_cons.mp hes
    rw [List.foldl_cons, List.foldl_cons]
    refine ih ?_ hrest
    dsimp only
    rw [h.node e.1 he.1]
    split
    · rename_i hvalue
      have hkey : (Tag.str == .merge) = g.isMergeKey e.1 := by
        unfold isMergeKey
        rw [hvalue]
        rfl
      exact h.set he.1 (h.loose e.1 he.1 (Or.inl hvalue)) (h.closed e.1 he.1) hkey rfl (Or.inl rfl)
    · exact h

/-- No entries have nothing out of the set. -/
theorem entriesIn_nil : EntriesIn S [] :=
  fun _ he => absurd he List.not_mem_nil

/-- Entries that are put together have their keys and values where they had them. -/
theorem EntriesIn.append {es' : List (NodeId × NodeId)} (h : EntriesIn S es) (h' : EntriesIn S es') :
    EntriesIn S (es ++ es') :=
  List.forall_mem_append.mpr ⟨h, h'⟩

/-- The end of a merge. A mapping that has taken over nothing keeps its entries. -/
theorem Twins.finishMerge (h : Twins S C g₀ g₀' g g') (hS : id ∈ S)
    (hmapping : ∃ own, (g.node id).content = .mapping own) {taken : List (NodeId × NodeId)}
    (htaken : EntriesIn S taken) (hC : id ∈ C ∨ taken = []) :
    Twins S C g₀ g₀' (g.finishMerge id taken) (g'.finishMerge id taken) := by
  have hown := h.entriesIn hS
  have hplain := h.plainKeys hown
  unfold Graph.finishMerge
  rw [h.entries hS]
  -- Either the node is one that may change, or nothing is taken over and its own entries are put back.
  rcases hC with hC | rfl
  · refine hplain.setEntries hS hC ?_ (htaken.append hown)
    rw [content_plainKeys]
    exact hmapping
  · obtain ⟨own, hcontent⟩ := hmapping
    have hentries : g.entries id = own := by
      unfold Graph.entries
      rw [hcontent]
    have hcontent' : ((g'.plainKeys own).node id).content = .mapping own := by
      rw [content_plainKeys, h.node id hS, hcontent]
    rw [hentries] at hplain ⊢
    dsimp only [List.nil_append]
    rw [setEntries_self (by rw [content_plainKeys, hcontent]), setEntries_self hcontent']
    exact hplain

/-- A node is refused in both graphs, with the same words and at the same place. -/
theorem Same.refuse {α : Type} {R : α → α → Prop} (h : Same S g g') (hid : id ∈ S)
    (problem : Problem) : EndAlike R (g.refuse id problem) (g'.refuse id problem) := by
  unfold Graph.refuse
  rw [h.node id hid]
  exact Or.inl ⟨_, rfl, rfl⟩

/-- So it is where the message also names the node around it. -/
theorem Same.refuseIn {α : Type} {R : α → α → Prop} (h : Same S g g') {around : NodeId}
    (haround : around ∈ S) (hid : id ∈ S) (activity : Activity) (problem : Problem) :
    EndAlike R (g.refuseIn activity around id problem) (g'.refuseIn activity around id problem) := by
  unfold Graph.refuseIn
  rw [h.node id hid, h.node around haround]
  exact Or.inl ⟨_, rfl, rfl⟩

/-- A result that is the same on both sides and lies in the set. It is the relation between results for
which merges in twins are stated. -/
def SameIn {α : Type} (P : α → Prop) (a b : α) : Prop :=
  a = b ∧ P a

/-- What a key `<<` merges is the same in both graphs: the mapping that is its value, or the items of a
sequence. -/
theorem Same.mergeSources (h : Same S g g') (hid : id ∈ S) {source : NodeId}
    (hsource : source ∈ S) :
    EndAlike (SameIn fun ids => ∀ i ∈ ids, i ∈ S) (g.mergeSources id source)
      (g'.mergeSources id source) := by
  have hclosed := h.closed source hsource
  unfold Graph.mergeSources
  rw [h.node source hsource]
  split
  · exact endAlike_ok ⟨rfl, List.forall_mem_singleton.mpr hsource⟩
  · rename_i items hcontent
    rw [hcontent] at hclosed
    exact endAlike_ok ⟨rfl, hclosed⟩
  · exact h.refuseIn hid hsource _ _

/-- A mapping with a key `<<` is loose. -/
theorem loose_of_splitMerge {r : NodeId × List (NodeId × NodeId)}
    (h : g.splitMerge (g.entries id) = some r) : g.Loose id := by
  by_contra hnot
  have hsettled : g.Settled (g.entries id) := fun e he =>
    Bool.eq_false_iff.mpr fun hkey => hnot (Or.inr ⟨e, he, hkey⟩)
  rw [splitMerge_eq_none_iff.mpr hsettled] at h
  cases h

/-- Merges keep graphs the same. -/
theorem Twins.mergeInto (fuel : Nat) (h : Twins S C g₀ g₀' g g') (hS : id ∈ S)
    (hmapping : ∃ own, (g.node id).content = .mapping own) {taken : List (NodeId × NodeId)}
    (htaken : EntriesIn S taken) (hC : id ∈ C ∨ taken = []) :
    EndAlike (Twins S C g₀ g₀') (Graph.mergeInto fuel g id taken) (Graph.mergeInto fuel g' id taken) := by
  induction fuel generalizing g g' id taken with
  | zero => exact endAlike_ok (h.finishMerge hS hmapping htaken hC)
  | succ fuel ih =>
    have hown := h.entriesIn hS
    unfold Graph.mergeInto
    rw [h.entries hS, h.splitMerge hown]
    cases hsplit : g.splitMerge (g.entries id) with
    | none => exact endAlike_ok (h.finishMerge hS hmapping htaken hC)
    | some r =>
      obtain ⟨source, others⟩ := r
      obtain ⟨⟨e, he, rfl⟩, hothers, -⟩ := splitMerge_eq_some hsplit
      have hC := h.loose id hS (loose_of_splitMerge hsplit)
      have hrest : EntriesIn S others := fun e he => hown e (hothers he)
      have hset := h.setEntries hS hC hmapping hrest
      -- Both sides go through the same sources, and the graphs stay the same after each of them.
      dsimp only
      refine (hset.mergeSources hS (hown e he).2).bind ?_
      rintro sources _ ⟨rfl, hsources⟩
      refine EndAlike.bind (R := fun r r' => Twins S C g₀ g₀' r.1 r'.1 ∧ r.2 = r'.2 ∧
        EntriesIn S r.2.flatten) ?_ ?_
      · refine endAlike_foldlM ?_ ⟨hset, rfl, entriesIn_nil⟩
        rintro source hmem ⟨k, found⟩ ⟨k', _⟩ ⟨htwins, rfl, hfound⟩
        have hsource := hsources source hmem
        dsimp only at htwins hfound ⊢
        rw [htwins.node source hsource, htwins.kind hsource]
        split
        · rename_i own hcontent
          refine (ih htwins hsource ⟨own, hcontent⟩ entriesIn_nil (Or.inr rfl)).bind
            fun k₁ k₁' h₁ => endAlike_ok ⟨h₁, ?_, (h₁.entriesIn hsource).append hfound⟩
          rw [h₁.entries hsource]
        · exact htwins.refuseIn hS hsource _ _
      · rintro ⟨k, found⟩ ⟨k', _⟩ ⟨htwins, rfl, hfound⟩
        dsimp only at htwins hfound ⊢
        -- Sources may have changed, but what was a mapping still is one.
        have hstill := htwins.left.mapping_iff.mpr (h.left.mapping_iff.mp hmapping)
        exact ih htwins hS hstill (htaken.append hfound) (Or.inl hC)

/-- The entries of a mapping after its merges. How many keys `<<` there are elsewhere is no matter,
although it is the fuel of a merge in either graph. -/
theorem Twins.mergedEntries (h : Twins S C g₀ g₀' g g') (hid : id ∈ S) :
    EndAlike (fun r r' => r.1 = r'.1 ∧ EntriesIn S r.1 ∧ Twins S C g₀ g₀' r.2 r'.2)
      (g.mergedEntries id) (g'.mergedEntries id) := by
  unfold Graph.mergedEntries
  rw [h.node id hid]
  split
  · rename_i own hcontent
    rw [merged_eq_mergeInto (Nat.le_max_left g.mergeCount g'.mergeCount),
      merged_eq_mergeInto (Nat.le_max_right g.mergeCount g'.mergeCount)]
    refine (h.mergeInto _ hid ⟨own, hcontent⟩ entriesIn_nil (Or.inr rfl)).bind fun k k' hk => ?_
    exact endAlike_ok ⟨(hk.entries hid).symm, hk.entriesIn hid, hk⟩
  · rw [h.kind hid]
    exact h.refuse hid _

/-! ## What is looked up in a graph -/

/-- What a message says is being made of a node is the same. -/
theorem Same.pairsActivity (h : Same S g g') (hid : id ∈ S) :
    g'.pairsActivity id = g.pairsActivity id := by
  unfold Graph.pairsActivity
  rw [h.node id hid]

/-- A sequence has the same items, or it is refused alike. -/
theorem Same.items (h : Same S g g') (hid : id ∈ S) :
    EndAlike (SameIn fun ids => ∀ i ∈ ids, i ∈ S) (g.items id) (g'.items id) := by
  have hclosed := h.closed id hid
  unfold Graph.items
  rw [h.node id hid, h.kind hid]
  split
  · rename_i items hcontent
    rw [hcontent] at hclosed
    exact endAlike_ok ⟨rfl, hclosed⟩
  · exact h.refuse hid _

/-- A sequence of pairs has the same items, or it is refused alike. -/
theorem Same.pairItems (h : Same S g g') (hid : id ∈ S) :
    EndAlike (SameIn fun ids => ∀ i ∈ ids, i ∈ S) (g.pairItems id) (g'.pairItems id) := by
  have hclosed := h.closed id hid
  unfold Graph.pairItems
  rw [h.node id hid, h.kind hid, h.pairsActivity hid]
  split
  · rename_i items hcontent
    rw [hcontent] at hclosed
    exact endAlike_ok ⟨rfl, hclosed⟩
  · exact h.refuseIn hid hid _ _

/-- A mapping has the same single entry, or it is refused alike. -/
theorem Same.singleEntry (h : Same S g g') {around : NodeId} (haround : around ∈ S)
    (hid : id ∈ S) :
    EndAlike (SameIn fun e => e.1 ∈ S ∧ e.2 ∈ S) (g.singleEntry around id)
      (g'.singleEntry around id) := by
  have hentries := h.entriesIn hid
  unfold Graph.singleEntry
  unfold Graph.entries at hentries
  rw [h.node id hid, h.kind hid, h.pairsActivity haround]
  split
  · rename_i entry hcontent
    rw [hcontent] at hentries
    exact endAlike_ok ⟨rfl, hentries entry List.mem_cons_self⟩
  · exact h.refuseIn haround hid _ _
  · exact h.refuseIn haround hid _ _

/-- The text of a node is the same in both graphs, also where it is looked for behind a key `=`. Induction
on the fuel, which bounds how far inside the search goes. -/
theorem Same.text? (h : Same S g g') (fuel : Nat) (hid : id ∈ S) :
    g'.text? fuel id = g.text? fuel id := by
  induction fuel generalizing id with
  | zero => rfl
  | succ fuel ih =>
    have hentries := h.entriesIn hid
    unfold Graph.text?
    unfold Graph.entries at hentries
    rw [h.node id hid]
    cases hcontent : (g.node id).content with
    | scalar t => rfl
    | sequence items =>
      dsimp only
      unfold Graph.refuse
      rw [h.node id hid]
    | mapping es =>
      rw [hcontent] at hentries
      dsimp only at hentries ⊢
      -- The entry of the key `=` is found by the tags of keys, and these are nodes of `S` too.
      have hfind : (es.find? fun e => (g'.node e.1).tag == .value) =
          es.find? fun e => (g.node e.1).tag == .value :=
        List.find?_congr fun e he => by rw [h.node e.1 (hentries e he).1]
      rw [hfind]
      cases hfound : es.find? fun e => (g.node e.1).tag == .value with
      | none =>
        dsimp only
        unfold Graph.refuse
        rw [h.node id hid]
      | some e => exact ih (hentries e (List.mem_of_find?_eq_some hfound)).2

/-- What is made of a scalar node is the same in both graphs. -/
theorem Same.scalar? (h : Same S g g') (hid : id ∈ S) : g'.scalar? id = g.scalar? id := by
  unfold Graph.scalar? Graph.refuse Graph.isScalar
  rw [h.node id hid, h.size, h.text? _ hid]

end Graph

end TermAudit.Yaml
