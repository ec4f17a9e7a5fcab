import Mathlib.Data.List.Perm.Subperm
import Mathlib.Logic.Relation
import TermAudit.Proofs.Yaml.Following

/-!
# `TermAudit.Proofs.Yaml.Records`: values that are known need not be made

A node is steady if merges change nothing in it. Its value is the same at all times, whatever else has been
made in between, and so it is no matter whether it is known already.

What is known of steady nodes is a record: the value of each node is made of values that were known
before (`Recorded`). Making a value adds to the record and does nothing else (`valueIn_records`), two
records never disagree (`recorded_unique`), and what is in one record can be made where another one is
known (`valueIn_of_recorded`).
-/

set_option autoImplicit false

namespace TermAudit.Yaml

namespace Graph

variable {S : Set NodeId} {g g' : Graph} {id other : NodeId}

/-- A node is inside of another one: in the node itself, or in a node inside of it. A node counts as
inside of itself. -/
def Inside (g : Graph) : NodeId → NodeId → Prop :=
  Relation.ReflTransGen fun around id => id ∈ (g.node around).content.children

/-- Merges change nothing inside of the node. Then its value does not depend on when it is made. -/
def Steady (g : Graph) (id : NodeId) : Prop :=
  ∀ other, g.Inside id other → ¬ g.Loose other

/-- What is inside of a node inside is inside. -/
theorem Inside.trans {last : NodeId} (h : g.Inside id other) (h' : g.Inside other last) :
    g.Inside id last :=
  Relation.ReflTransGen.trans h h'

/-- A node inside of a steady one is steady. -/
theorem Steady.inside (h : g.Steady id) (hother : g.Inside id other) : g.Steady other :=
  fun last hlast => h last (hother.trans hlast)

/-- Nothing leads out of the nodes inside of a node. -/
theorem same_inside (g : Graph) (id : NodeId) : Same {other | g.Inside id other} g g where
  size := rfl
  node _ _ := rfl
  closed _ hother _ hchild := Relation.ReflTransGen.tail hother hchild

/-- A graph is the same as itself in a set that nothing leads out of. -/
theorem Same.refl_of (h : Same S g g') : Same S g g where
  size := rfl
  node _ _ := rfl
  closed := h.closed

/-- Neither of the two graphs comes first. -/
theorem Same.symm (h : Same S g g') : Same S g' g where
  size := h.size.symm
  node other hother := (h.node other hother).symm
  closed other hother := by
    rw [h.node other hother]
    exact h.closed other hother

/-- Three graphs that are the same one after the other are all the same in the set. -/
theorem Same.trans {g'' : Graph} (h : Same S g g') (h' : Same S g' g'') : Same S g g'' where
  size := h'.size.trans h.size
  node other hother := (h'.node other hother).trans (h.node other hother)
  closed := h.closed

/-- Whatever is inside of a node in the set is in the set. -/
theorem Same.mem_of_inside (h : Same S g g') (hid : id ∈ S) (hother : g.Inside id other) : other ∈ S := by
  induction hother with
  | refl => exact hid
  | tail _ hchild ih => exact h.closed _ ih _ hchild

/-- What is inside of a node in the set is inside of it in the other graph, by the same way. -/
theorem Same.inside (h : Same S g g') (hid : id ∈ S) (hother : g.Inside id other) :
    g'.Inside id other := by
  induction hother with
  | refl => exact .refl
  | tail hbefore hchild ih =>
    refine ih.tail ?_
    rw [h.node _ (h.mem_of_inside hid hbefore)]
    exact hchild

/-- So the nodes inside are the same ones in both graphs. -/
theorem Same.inside_iff (h : Same S g g') (hid : id ∈ S) : g'.Inside id other ↔ g.Inside id other :=
  ⟨h.symm.inside hid, h.inside hid⟩

/-- The nodes inside of a node in the set. -/
theorem Same.within (h : Same S g g') (hid : id ∈ S) : Same {other | g.Inside id other} g g' where
  size := h.size
  node other hother := h.node other (h.mem_of_inside hid hother)
  closed := (same_inside g id).closed

/-- A node in the set is loose in both graphs or in neither. This is seen in its tag and its keys. -/
theorem Same.loose_iff (h : Same S g g') (hid : id ∈ S) : g'.Loose id ↔ g.Loose id := by
  unfold Loose
  rw [h.node id hid, h.entries hid]
  refine or_congr_right (exists_congr fun e => and_congr_right fun he => ?_)
  unfold isMergeKey
  rw [h.node e.1 (h.entriesIn hid e he).1]

/-- So it is steady in both or in neither. -/
theorem Same.steady_iff (h : Same S g g') (hid : id ∈ S) : g'.Steady id ↔ g.Steady id := by
  refine forall_congr' fun other => ?_
  rw [h.inside_iff hid]
  exact imp_congr_right fun hother => not_congr (h.loose_iff (h.mem_of_inside hid hother))

/-- A number without node is steady. -/
theorem lt_size_of_not_steady (h : ¬ g.Steady id) : id < g.size := by
  by_contra hlt
  have hnode := node_of_size_le (Nat.le_of_not_lt hlt)
  refine h fun other hother => ?_
  have hself : other = id := by
    rcases Relation.ReflTransGen.cases_head hother with heq | ⟨child, hchild, -⟩
    · exact heq.symm
    · rw [hnode] at hchild
      cases hchild
  rw [hself]
  unfold Loose entries
  rw [hnode]
  simp

end Graph

namespace Evaluation

open Yaml.Graph (Same)

variable {S : Set NodeId} {o o' : Graph} {known : List (NodeId × Value)} {id : NodeId} {v : Value}

/-! ## Records -/

/-- The value that is known of a node. The fault for an unknown one stands for no result, and is never
handed on. -/
def fetch (known : List (NodeId × Value)) (id : NodeId) : Evaluating Value :=
  match known.lookup id with
  | some v => pure v
  | none => throw .endless

/-- The value is made of known values, by one step of the evaluation that makes no others. -/
def MadeFrom (o : Graph) (known : List (NodeId × Value)) (id : NodeId) (v : Value) : Prop :=
  ∃ t, (fresh (fetch known) id).run (start o) = .ok (v, t)

/-- The values of steady nodes are each made of those that were known before. Of other nodes nothing is
said, since their values can depend on merges in between. -/
inductive Recorded (o : Graph) : List (NodeId × Value) → Prop
  | nil : Recorded o []
  | cons {known : List (NodeId × Value)} {id : NodeId} {v : Value} (h : Recorded o known)
    (hnew : known.lookup id = none) (hmade : o.Steady id → MadeFrom o known id v) :
    Recorded o ((id, v) :: known)

/-- Fetching gives what is known and changes nothing. -/
theorem run_fetch_eq_ok_iff {s t : Evaluation} :
    (fetch known id).run s = .ok (v, t) ↔ known.lookup id = some v ∧ t = s := by
  unfold fetch
  cases known.lookup id with
  | none => exact iff_of_false (fun h => nomatch h) fun h => nomatch h.1
  | some w =>
    constructor
    · intro h
      cases h
      exact ⟨rfl, rfl⟩
    · rintro ⟨h, rfl⟩
      cases h
      rfl

/-- A known value was recorded, behind others. -/
theorem Recorded.madeFrom_of_lookup (h : Recorded o known) (hlookup : known.lookup id = some v)
    (hid : o.Steady id) : ∃ before, Recorded o before ∧ MadeFrom o before id v := by
  induction h with
  | nil => cases hlookup
  | @cons known other w h hnew hmade ih =>
    rw [List.lookup_cons] at hlookup
    split at hlookup
    · rename_i heq
      cases hlookup
      rw [beq_iff_eq.mp heq] at hid ⊢
      exact ⟨known, h, hmade hid⟩
    · exact ih hlookup

/-! ## Steady nodes -/

/-- The set holds steady nodes alone: nothing leads out of it and no node in it is loose. So it is closed
under looking inside. -/
structure IsSteady (S : Set NodeId) (o : Graph) : Prop where
  closed : Same S o o
  not_loose : ∀ id ∈ S, ¬ o.Loose id

/-- A node in a set of this kind is steady. -/
theorem IsSteady.steady (h : IsSteady S o) (hid : id ∈ S) : o.Steady id :=
  fun other hother => h.not_loose other (h.closed.mem_of_inside hid hother)

/-- The nodes inside of a steady one are a set of this kind, and this is how steady nodes come in. -/
theorem isSteady_inside (h : o.Steady id) : IsSteady {other | o.Inside id other} o where
  closed := o.same_inside id
  not_loose := h

/-- The property is one of the nodes in the set alone, so it can be seen in either graph. -/
theorem IsSteady.of_same (h : IsSteady S o) (hsame : Same S o o') : IsSteady S o' where
  closed := hsame.symm.refl_of
  not_loose id hid := (hsame.loose_iff hid).not.mpr (h.not_loose id hid)

/-- In a mapping that is not loose no key asks for a merge, and none is made plain since none of the keys is
loose. -/
theorem IsSteady.hasPlainKeys (h : IsSteady S o) (hid : id ∈ S) : o.HasPlainKeys (o.entries id) := by
  intro e he
  refine ⟨fun hmerge => ?_, fun hvalue => ?_⟩
  · exact h.not_loose id hid (Or.inr ⟨e, he, beq_iff_eq.mpr hmerge⟩)
  · exact h.not_loose e.1 (h.closed.entriesIn hid e he).1 (Or.inl hvalue)

/-- A steady mapping has the entries that it is written with, and merges change nothing. -/
theorem run_mergedEntries_eq_ok_iff {s t : Evaluation} {es : List (NodeId × NodeId)}
    (hS : IsSteady S s.graph) (hid : id ∈ S) :
    (mergedEntries id).run s = .ok (es, t) ↔ t = s ∧ (s.graph.node id).content = .mapping es := by
  rw [run_mergedEntries]
  have hplain := hS.hasPlainKeys hid
  unfold Graph.entries at hplain
  cases hcontent : (s.graph.node id).content with
  | mapping own =>
    rw [hcontent] at hplain
    rw [Graph.mergedEntries_of_plain hcontent hplain]
    constructor
    · intro h
      cases h
      exact ⟨rfl, rfl⟩
    · rintro ⟨rfl, heq⟩
      cases heq
      rfl
  | _ =>
    -- Nothing else than a mapping has entries.
    have hrefused : s.graph.mergedEntries id =
        s.graph.refuse id (.wrongKind .mapping (s.graph.kind id)) := by
      unfold Graph.mergedEntries
      rw [hcontent]
    rw [hrefused]
    exact iff_of_false (fun h => nomatch h) fun h => nomatch h.2

/-- Evaluations whose graphs are the same in steady nodes go alike. -/
theorem lockstep_of_steady {P : Evaluation → Prop} {R : Evaluation → Evaluation → Prop}
    (hP : ∀ s, P s → Same S o s.graph) (hR : ∀ s s', R s s' → Same S o s'.graph) :
    Lockstep S S P R where
  closed s hs := (hP s hs).symm.refl_of.looksAlike
  same s s' hs hs' := ((hP s hs).symm.trans (hR s s' hs')).looksAlike

/-- The entries of a steady mapping are the same on both sides, as they were written. -/
theorem follows_mergedEntries_of_steady {P Post : Evaluation → Prop}
    {R : Evaluation → Evaluation → Prop} (hS : IsSteady S o) (hP : ∀ s, P s → Same S o s.graph)
    (hR : ∀ s s', R s s' → Same S o s'.graph) (hid : id ∈ S) :
    Follows P Post R (Graph.EntriesIn S) (mergedEntries id) (mergedEntries id) := by
  intro s es t hs hrun
  have hsame := hP s hs
  obtain ⟨rfl, hcontent⟩ := (run_mergedEntries_eq_ok_iff (hS.of_same hsame) hid).mp hrun
  refine ⟨hs, fun e he => ?_, fun hpost => ⟨hpost, fun s' hs' => ⟨s', ?_, hs'⟩⟩⟩
  · -- What is in a steady mapping is steady as well.
    have hclosed := hsame.symm.closed id hid
    rw [hcontent] at hclosed
    have hchild := Content.mem_children_of_mem he
    exact ⟨hclosed _ hchild.1, hclosed _ hchild.2⟩
  · have hsame' := hR t s' hs'
    refine (run_mergedEntries_eq_ok_iff (hS.of_same hsame') hid).mpr ⟨rfl, ?_⟩
    rw [hsame'.node id hid, ← hsame.node id hid]
    exact hcontent

/-- Making values from steady nodes fresh: where one way of making the values inside follows another, so
do the values that are made. -/
theorem follows_fresh_of_steady {P Post : Evaluation → Prop} {R : Evaluation → Evaluation → Prop}
    {value value' : NodeId → Evaluating Value} (hS : IsSteady S o)
    (hvalue : ∀ id ∈ S, Follows P Post R (fun _ => True) (value id) (value' id))
    (hP : ∀ s, P s → Same S o s.graph) (hR : ∀ s s', R s s' → Same S o s'.graph) (hid : id ∈ S) :
    Follows P Post R (fun _ => True) (fresh value id) (fresh value' id) :=
  follows_fresh (lockstep_of_steady hP hR) hvalue hid (follows_mergedEntries_of_steady hS hP hR hid)

/-- A scalar is made without a look at the values inside. -/
theorem fresh_of_scalar {value : NodeId → Evaluating Value} {s : Evaluation} {x : Scalar}
    (h : s.graph.scalar? id = some (.ok x)) : (fresh value id).run s = .ok (.scalar x, s) := by
  unfold fresh
  rw [StateT.run_bind, StateT.run_get, pure_bind, h]
  rfl

/-- What is made of known values is made where each of these can be made in the states with `P`. Scalars
are made of no others. -/
theorem fresh_of_madeFrom {value : NodeId → Evaluating Value} {P : Evaluation → Prop} {s : Evaluation}
    (hS : IsSteady S o) (hsame : Same S o o') (hid : id ∈ S) (hmade : MadeFrom o known id v)
    (hP : ∀ u, P u → Same S o' u.graph) (hs : P s)
    (hvalue : o.scalar? id = none → ∀ x ∈ S, ∀ w u, known.lookup x = some w → P u →
      ∃ u', (value x).run u = .ok (w, u') ∧ P u') :
    ∃ t, (fresh value id).run s = .ok (v, t) := by
  obtain ⟨t, hrun⟩ := hmade
  cases hscalar : o.scalar? id with
  | some result =>
    -- A scalar depends on nothing that is known.
    have hscalar' : s.graph.scalar? id = some result := by
      rw [(hsame.trans (hP s hs)).scalar? hid, hscalar]
    have hstart : (start o).graph.scalar? id = some result := hscalar
    cases result with
    | error fault =>
      unfold fresh at hrun
      rw [StateT.run_bind, StateT.run_get, pure_bind, hstart] at hrun
      cases hrun
    | ok x =>
      rw [fresh_of_scalar hstart] at hrun
      cases hrun
      exact ⟨s, fresh_of_scalar hscalar'⟩
  | none =>
    -- A collection is made of values that are fetched there and made here.
    have hfollows : ∀ x ∈ S, Follows (fun u => u = start o) (fun _ => True) (fun _ u' => P u')
        (fun _ => True) (fetch known x) (value x) := by
      rintro x hx u w u₁ rfl hrun
      obtain ⟨hw, rfl⟩ := run_fetch_eq_ok_iff.mp hrun
      exact ⟨rfl, trivial, fun _ => ⟨trivial, fun u' hu' => hvalue hscalar x hx w u' hw hu'⟩⟩
    obtain ⟨-, -, hfollows⟩ := follows_fresh_of_steady hS hfollows (fun _ hu => hu ▸ hS.closed)
      (fun _ u' hu' => hsame.trans (hP u' hu')) hid _ _ _ rfl hrun
    obtain ⟨t', hrun', -⟩ := (hfollows trivial).2 s hs
    exact ⟨t', hrun'⟩

/-- What is made of known values is made of more. -/
theorem MadeFrom.mono {known' : List (NodeId × Value)} (h : MadeFrom o known id v) (hS : IsSteady S o)
    (hsame : Same S o o') (hid : id ∈ S)
    (hknown : ∀ x ∈ S, ∀ w, known.lookup x = some w → known'.lookup x = some w) :
    MadeFrom o' known' id v := by
  refine fresh_of_madeFrom (P := fun u => u = start o') hS hsame hid h
    (fun _ hu => hu ▸ hsame.symm.refl_of) rfl fun _ x hx w u hw hu => ?_
  exact ⟨u, run_fetch_eq_ok_iff.mpr ⟨hknown x hx w hw, rfl⟩, hu⟩

/-! ## Making values adds to the record -/

/-- The evaluation has gone on in the set of steady nodes. It has only added to its record there, and no
value of the nodes around, which are still being made. -/
structure Adds (S : Set NodeId) (o : Graph) (around : List NodeId) (s t : Evaluation) : Prop where
  graph : t.graph = s.graph
  recorded : Recorded o t.known
  keeps : ∀ id v, s.known.lookup id = some v → t.known.lookup id = some v
  outside : ∀ id, id ∉ S → t.known.lookup id = s.known.lookup id
  around : ∀ id ∈ around, t.known.lookup id = none

variable {around : List NodeId} {s t : Evaluation}

/-- Nothing is added yet. -/
theorem Adds.refl (h : Recorded o s.known) (haround : ∀ a ∈ around, s.known.lookup a = none) :
    Adds S o around s s where
  graph := rfl
  recorded := h
  keeps _ _ h := h
  outside _ _ := rfl
  around := haround

/-- What is added to a record and then to the longer one is added to the record. -/
theorem Adds.trans {u : Evaluation} (h : Adds S o around s t) (h' : Adds S o around t u) :
    Adds S o around s u where
  graph := h'.graph.trans h.graph
  recorded := h'.recorded
  keeps id v hv := h'.keeps id v (h.keeps id v hv)
  outside id hid := (h'.outside id hid).trans (h.outside id hid)
  around := h'.around

/-- The value of a node is added when those inside have been. -/
theorem Adds.remember (h : Adds S o (id :: around) s t) (hid : id ∈ S)
    (hnew : s.known.lookup id = none) (haround : id ∉ around) (hmade : MadeFrom o t.known id v) :
    Adds S o around s (t.remember id v) where
  graph := h.graph
  recorded := .cons h.recorded (h.around id List.mem_cons_self) fun _ => hmade
  keeps other w hw := by
    -- Nothing was known of the node, so no value is lost.
    have hne : other ≠ id := by
      rintro rfl
      rw [hnew] at hw
      cases hw
    rw [lookup_remember_of_ne _ _ hne]
    exact h.keeps other w hw
  outside other hother := by
    rw [lookup_remember_of_ne _ _ (ne_of_mem_of_not_mem hid hother).symm]
    exact h.outside other hother
  around other hother := by
    rw [lookup_remember_of_ne _ _ (ne_of_mem_of_not_mem hother haround)]
    exact h.around other (List.mem_cons_of_mem _ hother)

/-- Making the value of a steady node adds to the record. Induction on the fuel, where values that are
known already are taken from the record. -/
theorem valueIn_records (hS : IsSteady S o) {fuel : Nat} (hid : id ∈ S) (hsame : Same S o s.graph)
    (hrecorded : Recorded o s.known) (haround : ∀ a ∈ around, s.known.lookup a = none)
    (hrun : (valueIn fuel around id).run s = .ok (v, t)) :
    Adds S o around s t ∧ t.known.lookup id = some v := by
  induction fuel generalizing around id v s t with
  | zero => cases hrun
  | succ fuel ih =>
    rcases run_valueIn_eq_ok_iff.mp hrun with ⟨hlookup, rfl⟩ | ⟨hnew, hnot, t, hmake, rfl⟩
    · exact ⟨.refl hrecorded haround, hlookup⟩
    have haround' : ∀ a ∈ id :: around, s.known.lookup a = none :=
      List.forall_mem_cons.mpr ⟨hnew, haround⟩
    -- The values inside are those that are known at the end.
    have hvalue : ∀ other ∈ S, Follows
        (fun u => Adds S o (id :: around) s u)
        (fun u => ∀ other w, u.known.lookup other = some w → t.known.lookup other = some w)
        (fun _ u' => u' = start o) (fun _ => True) (valueIn fuel (id :: around) other)
        (fetch t.known other) := by
      intro other hother u w u₁ hu hrun
      have hsame' : Same S o u.graph := hu.graph ▸ hsame
      obtain ⟨hadds, hlookup⟩ := ih hother hsame' hu.recorded hu.around hrun
      refine ⟨hu.trans hadds, trivial, fun hpost => ⟨fun other w hw => ?_, ?_⟩⟩
      · exact hpost other w (hadds.keeps other w hw)
      · rintro _ rfl
        exact ⟨_, run_fetch_eq_ok_iff.mpr ⟨hpost other w hlookup, rfl⟩, rfl⟩
    -- Making a value and fetching it go in lockstep.
    have hfollows := follows_fresh_of_steady hS hvalue (fun _ hu => hu.graph ▸ hsame)
      (fun _ _ hu' => hu' ▸ hS.closed) hid
    obtain ⟨hadds, -, hmade⟩ := hfollows s v t (.refl hrecorded haround') hmake
    obtain ⟨-, hmade⟩ := hmade fun _ _ hw => hw
    obtain ⟨t', hrun', -⟩ := hmade (start o) rfl
    exact ⟨hadds.remember hid hnew hnot ⟨t', hrun'⟩, lookup_remember_self t id v⟩

/-! ## Records agree -/

/-- Two records of graphs that are the same in steady nodes agree there. Each value is made of earlier
ones, so the first value in which they differ could not be made. -/
theorem recorded_unique {known known' : List (NodeId × Value)} {v v' : Value} (hS : IsSteady S o)
    (hsame : Same S o o') (h : Recorded o known) (h' : Recorded o' known') (hid : id ∈ S)
    (hv : known.lookup id = some v) (hv' : known'.lookup id = some v') : v = v' := by
  induction h generalizing id v known' v' with
  | nil => cases hv
  | @cons known other w h hnew hmade ih =>
    rw [List.lookup_cons] at hv
    split at hv
    · rename_i heq
      cases hv
      obtain rfl := beq_iff_eq.mp heq
      obtain ⟨before, hbefore, hmade'⟩ :=
        h'.madeFrom_of_lookup hv' ((hsame.steady_iff hid).mpr (hS.steady hid))
      -- Both are made of the values in either record, which do not disagree.
      obtain ⟨t, hrun⟩ : MadeFrom o' (known ++ before) id w :=
        (hmade (hS.steady hid)).mono hS hsame hid fun x _ a ha => by
          rw [List.lookup_append, ha, Option.some_or]
      obtain ⟨t', hrun'⟩ : MadeFrom o' (known ++ before) id v' :=
        hmade'.mono (hS.of_same hsame) hsame.symm.refl_of hid fun x hx a ha => by
          rw [List.lookup_append]
          cases hlookup : known.lookup x with
          | none => exact ha
          | some b => exact congrArg some (ih hbefore hx hlookup ha)
      rw [hrun] at hrun'
      cases hrun'
      rfl
    · exact ih h' hid hv hv'

/-! ## Recorded values can be made -/

/-- Different numbers below a bound are not more than the bound. -/
theorem length_le_of_nodup {l : List NodeId} {n : Nat} (h : l.Nodup) (hlt : ∀ a ∈ l, a < n) :
    l.length ≤ n := by
  have hsubset : l ⊆ List.range n := fun a ha => List.mem_range.mpr (hlt a ha)
  have hle := (List.subperm_of_subset h hsubset).length_le
  rwa [List.length_range] at hle

/-- The nodes around are different ones, and the fuel lasts as long as there are others. The evaluation
goes down one node at a time and never into one of those around, so it ends before the fuel does. -/
structure Lasts (fuel : Nat) (size : Nat) (around : List NodeId) : Prop where
  nodup : around.Nodup
  lt : ∀ a ∈ around, a < size
  fuel : size < fuel + around.length

/-- There is fuel for at least one node more: those around are different nodes of the graph, so they are no
more than there are. -/
theorem Lasts.ne_zero {fuel size : Nat} (h : Lasts fuel size around) : fuel ≠ 0 := by
  rintro rfl
  have hle := length_le_of_nodup h.nodup h.lt
  have hlt := h.fuel
  omega

/-- A step inside of a node uses one unit of fuel and puts one node more around. -/
theorem Lasts.cons {fuel size : Nat} (h : Lasts (fuel + 1) size around) (hid : id ∉ around)
    (hlt : id < size) : Lasts fuel size (id :: around) where
  nodup := List.nodup_cons.mpr ⟨hid, h.nodup⟩
  lt := List.forall_mem_cons.mpr ⟨hlt, h.lt⟩
  fuel := by
    have hfuel := h.fuel
    rw [List.length_cons]
    omega

/-- At the start nothing is around, and there is fuel for all nodes and one more. -/
theorem lasts_nil (size : Nat) : Lasts (size + 1) size [] where
  nodup := List.nodup_nil
  lt _ h := absurd h List.not_mem_nil
  fuel := Nat.lt_succ_self _

/-- A value that is in one record can be made where another one is known, unless it is being made already.
In which order its parts were made before is no matter. -/
theorem valueIn_of_recorded (hS : IsSteady S o) (hsame : Same S o o') (h : Recorded o known)
    (hid : id ∈ S) (hv : known.lookup id = some v) {fuel : Nat} (hs : Same S o' s.graph)
    (hrecorded : Recorded o' s.known)
    (haround : ∀ a ∈ around, known.lookup a = none ∧ s.known.lookup a = none)
    (hfuel : Lasts fuel o'.size around) : ∃ t, (valueIn fuel around id).run s = .ok (v, t) := by
  induction h generalizing id v fuel around s with
  | nil => cases hv
  | @cons known other w h hnew hmade ih =>
    have hnone : ∀ a ∈ around, a ≠ other ∧ known.lookup a = none := by
      intro a ha
      have hnone := (haround a ha).1
      rw [List.lookup_cons] at hnone
      split at hnone
      · cases hnone
      · rename_i hne
        exact ⟨fun heq => by simp [heq] at hne, hnone⟩
    by_cases heq : id = other
    · subst heq
      obtain rfl : w = v := by
        rw [List.lookup_cons_self] at hv
        exact Option.some.inj hv
      have hnot : id ∉ around := fun hmem => (hnone id hmem).1 rfl
      obtain ⟨fuel, rfl⟩ := Nat.exists_eq_succ_of_ne_zero hfuel.ne_zero
      cases hlookup : s.known.lookup id with
      | some u =>
        have hu : w = u := recorded_unique hS hsame (.cons h hnew hmade) hrecorded hid hv hlookup
        exact ⟨s, run_valueIn_eq_ok_iff.mpr (Or.inl ⟨hu ▸ hlookup, rfl⟩)⟩
      | none =>
        -- The values inside are in the rest of the record, so each of them can be made.
        have hfresh : ∃ t, (fresh (valueIn fuel (id :: around)) id).run s = .ok (w, t) := by
          refine fresh_of_madeFrom (P := fun u => Same S o' u.graph ∧ Recorded o' u.known ∧
            ∀ a ∈ id :: around, u.known.lookup a = none) hS hsame hid (hmade (hS.steady hid))
            (fun _ hu => hu.1)
            ⟨hs, hrecorded, List.forall_mem_cons.mpr ⟨hlookup, fun a ha => (haround a ha).2⟩⟩ ?_
          rintro hscalar x hx a u ha ⟨hgraph, hrecorded', hfree⟩
          have hlt : id < o'.size := by
            rw [hsame.size]
            exact lt_size_of_scalar? hscalar
          have hknown : ∀ b ∈ id :: around, known.lookup b = none :=
            List.forall_mem_cons.mpr ⟨hnew, fun b hb => (hnone b hb).2⟩
          obtain ⟨u', hrun'⟩ := ih hx ha hgraph hrecorded' (fun b hb => ⟨hknown b hb, hfree b hb⟩)
            (hfuel.cons hnot hlt)
          obtain ⟨hadds, -⟩ := valueIn_records (hS.of_same hsame) hx hgraph hrecorded' hfree hrun'
          exact ⟨u', hrun', hadds.graph ▸ hgraph, hadds.recorded, hadds.around⟩
        obtain ⟨t, hfresh⟩ := hfresh
        exact ⟨_, run_valueIn_eq_ok_iff.mpr (Or.inr ⟨hlookup, hnot, t, hfresh, rfl⟩)⟩
    · rw [List.lookup_cons, beq_false_of_ne heq] at hv
      exact ih hid hv hs hrecorded (fun a ha => ⟨(hnone a ha).2, (haround a ha).2⟩) hfuel

end Evaluation

end TermAudit.Yaml
