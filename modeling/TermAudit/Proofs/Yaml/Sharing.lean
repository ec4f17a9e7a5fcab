import TermAudit.Proofs.Yaml.Records

/-!
# `TermAudit.Proofs.Yaml.Sharing`: values that have nodes in common

The values of a document are made one after the other, each with what is left of those before: a graph
in which merges have been carried out, and the values that are known already. `Evaluation.Matches` says
of two states, in which a value is made, that neither makes a difference: in the set of nodes inside, the
graphs are the same, and so is what is known of the nodes in which a merge changes something.

* `Evaluation.matches_valueIn`: then the value is made in both states, or in none;
* `Evaluation.value_of_begins`: the same for the value of a node as the reader asks for it.
-/

set_option autoImplicit false

namespace TermAudit.Yaml.Evaluation

open Yaml.Graph (Same Twins ChangedIn)

/-- The evaluations that began with `s₀` and `s₀'` have come to states that are the same in the set, as
far as merges matter there: they change the loose nodes of it alone. Of the nodes around, no value is
known. Values of steady nodes may be known in one of the two states only, which makes no difference. -/
structure Matches (S : Set NodeId) (o o' : Graph) (s₀ s₀' : Evaluation) (around : List NodeId)
    (s s' : Evaluation) : Prop where
  graph : Twins S {id | id ∈ S ∧ o.Loose id} s₀.graph s₀'.graph s.graph s'.graph
  known : ∀ id ∈ S, ¬ o.Steady id → s'.known.lookup id = s.known.lookup id
  left : Recorded o s.known
  right : Recorded o' s'.known
  leftOutside : ∀ id, id ∉ S → s.known.lookup id = s₀.known.lookup id
  rightOutside : ∀ id, id ∉ S → s'.known.lookup id = s₀'.known.lookup id
  leftKeeps : ∀ id v, s₀.known.lookup id = some v → s.known.lookup id = some v
  leftAround : ∀ a ∈ around, s.known.lookup a = none
  rightAround : ∀ a ∈ around, s'.known.lookup a = none

/-- The graphs of a document, and those with which two evaluations begin, are the same in the set. Outside
of it anything may have been merged before. -/
structure Begins (S : Set NodeId) (o o' : Graph) (s₀ s₀' : Evaluation) : Prop where
  same : Same S o o'
  left : Same S o s₀.graph
  right : Same S o' s₀'.graph

variable {S : Set NodeId} {o o' : Graph} {s₀ s₀' s s' t t' : Evaluation} {around : List NodeId}
  {id : NodeId} {v : Value}

/-- Steady nodes of the set are as they were at first. -/
theorem same_of_changedIn {g₀ g : Graph} (h : ChangedIn {id | id ∈ S ∧ o.Loose id} g₀ g)
    (hstart : Same S o g₀) (hid : id ∈ S) (hsteady : o.Steady id) :
    Same {other | o.Inside id other} o g where
  size := h.size.trans hstart.size
  node other hother := by
    have hout : other ∉ {id | id ∈ S ∧ o.Loose id} := fun hmem => hsteady other hother hmem.2
    rw [h.node other hout, hstart.node other (hstart.mem_of_inside hid hother)]
  closed := (o.same_inside id).closed

/-- Where merges change nothing, both states add to their records, and nothing else. -/
theorem Matches.adds {T : Set NodeId} (h : Matches S o o' s₀ s₀' around s s')
    (hT : ∀ id ∈ T, id ∈ S ∧ o.Steady id) (hleft : Adds T o around s t) (hright : Adds T o' around s' t') :
    Matches S o o' s₀ s₀' around t t' where
  graph := by
    rw [hleft.graph, hright.graph]
    exact h.graph
  known other hother hnot := by
    have hout : other ∉ T := fun hmem => hnot (hT other hmem).2
    rw [hleft.outside other hout, hright.outside other hout]
    exact h.known other hother hnot
  left := hleft.recorded
  right := hright.recorded
  leftOutside other hother :=
    (hleft.outside other fun hmem => hother (hT other hmem).1).trans (h.leftOutside other hother)
  rightOutside other hother :=
    (hright.outside other fun hmem => hother (hT other hmem).1).trans (h.rightOutside other hother)
  leftKeeps other w hw := hleft.keeps other w (h.leftKeeps other w hw)
  leftAround := hleft.around
  rightAround := hright.around

/-- The value of a node in which merges change something is made in both states. -/
theorem Matches.remember (h : Matches S o o' s₀ s₀' (id :: around) s s') (hid : id ∈ S)
    (hnot : ¬ o.Steady id) (hnot' : ¬ o'.Steady id) (haround : id ∉ around) :
    Matches S o o' s₀ s₀' around (s.remember id v) (s'.remember id v) where
  graph := h.graph
  known other hother hsteady := by
    by_cases heq : other = id
    · rw [heq, lookup_remember_self, lookup_remember_self]
    · rw [lookup_remember_of_ne _ _ heq, lookup_remember_of_ne _ _ heq]
      exact h.known other hother hsteady
  left := .cons h.left (h.leftAround id List.mem_cons_self) fun hsteady => absurd hsteady hnot
  right := .cons h.right (h.rightAround id List.mem_cons_self) fun hsteady => absurd hsteady hnot'
  leftOutside other hother := by
    rw [lookup_remember_of_ne _ _ (ne_of_mem_of_not_mem hid hother).symm]
    exact h.leftOutside other hother
  rightOutside other hother := by
    rw [lookup_remember_of_ne _ _ (ne_of_mem_of_not_mem hid hother).symm]
    exact h.rightOutside other hother
  leftKeeps other w hw := by
    have hkeeps := h.leftKeeps other w hw
    -- While `id` is made it has no record, so the new one takes no other's place.
    have hne : other ≠ id := by
      rintro rfl
      rw [h.leftAround other List.mem_cons_self] at hkeeps
      cases hkeeps
    rw [lookup_remember_of_ne _ _ hne]
    exact hkeeps
  leftAround other hother := by
    rw [lookup_remember_of_ne _ _ (ne_of_mem_of_not_mem hother haround)]
    exact h.leftAround other (List.mem_cons_of_mem _ hother)
  rightAround other hother := by
    rw [lookup_remember_of_ne _ _ (ne_of_mem_of_not_mem hother haround)]
    exact h.rightAround other (List.mem_cons_of_mem _ hother)

/-- The entries of a mapping are the same on both sides after its merges, and the graphs stay the same
inside of the value. -/
theorem follows_mergedEntries_of_matches (hid : id ∈ S) :
    Follows (fun s => ∃ s', Matches S o o' s₀ s₀' around s s') (fun _ => True)
      (Matches S o o' s₀ s₀' around) (Graph.EntriesIn S) (mergedEntries id) (mergedEntries id) := by
  refine follows_of_forall fun s s' es t hs hrun => ?_
  rw [run_mergedEntries] at hrun ⊢
  obtain ⟨⟨_, g⟩, hmerged, heq⟩ := bind_eq_ok_iff.mp hrun
  cases heq
  rcases hs.graph.mergedEntries hid with
    ⟨e, herror, -⟩ | ⟨⟨_, _⟩, ⟨_, g'⟩, hok, hmerged', rfl, hentries, hgraph⟩
  · rw [hmerged] at herror
    cases herror
  · rw [hmerged] at hok
    cases hok
    refine ⟨hentries, { s' with graph := g' }, ?_, ?_⟩
    · rw [hmerged']
      rfl
    · exact { hs with graph := hgraph }

/-- The value of a steady node that is made in one of two matching states is made in the other one. -/
theorem matches_valueIn_of_steady (hstart : Begins S o o' s₀ s₀') {fuel : Nat} (hid : id ∈ S)
    (hsteady : o.Steady id) (hfuel : Lasts fuel o.size around) (h : Matches S o o' s₀ s₀' around s s')
    (hrun : (valueIn fuel around id).run s = .ok (v, t)) :
    ∃ t', (valueIn fuel around id).run s' = .ok (v, t') ∧ Matches S o o' s₀ s₀' around t t' := by
  have hT := isSteady_inside hsteady
  have hmem : ∀ other ∈ {other | o.Inside id other}, other ∈ S ∧ o.Steady other :=
    fun other hother => ⟨hstart.same.mem_of_inside hid hother, hsteady.inside hother⟩
  have hself : id ∈ {other | o.Inside id other} := Relation.ReflTransGen.refl
  have hwithin := hstart.same.within hid
  have hleft := same_of_changedIn h.graph.left hstart.left hid hsteady
  have hright : Same {other | o.Inside id other} o' s'.graph := by
    refine hwithin.symm.trans (hleft.trans ?_)
    exact ⟨h.graph.size, fun other hother => h.graph.node other (hmem other hother).1,
      hleft.symm.closed⟩
  -- The record of one state tells what is made in the other one.
  obtain ⟨hadds, hlookup⟩ := valueIn_records hT hself hleft h.left h.leftAround hrun
  obtain ⟨t', hrun'⟩ := valueIn_of_recorded hT hwithin hadds.recorded hself hlookup hright h.right
    (fun a ha => ⟨hadds.around a ha, h.rightAround a ha⟩) (hstart.same.size ▸ hfuel)
  obtain ⟨hadds', -⟩ := valueIn_records (hT.of_same hwithin) hself hright h.right h.rightAround hrun'
  exact ⟨t', hrun', h.adds hmem hadds hadds'⟩

/-- If the value of a node is made in one of two matching states, it is made in the other one. Where a
steady node is known on one side only, its value can be made on the other. -/
theorem matches_valueIn (hstart : Begins S o o' s₀ s₀') {fuel : Nat} (hid : id ∈ S)
    (hfuel : Lasts fuel o.size around) (h : Matches S o o' s₀ s₀' around s s')
    (hrun : (valueIn fuel around id).run s = .ok (v, t)) :
    ∃ t', (valueIn fuel around id).run s' = .ok (v, t') ∧ Matches S o o' s₀ s₀' around t t' := by
  induction fuel generalizing around id s s' v t with
  | zero => cases hrun
  | succ fuel ih =>
    by_cases hsteady : o.Steady id
    · exact matches_valueIn_of_steady hstart hid hsteady hfuel h hrun
    -- What is known of any other node is known in both states, or in none.
    have hlookup := h.known id hid hsteady
    rcases run_valueIn_eq_ok_iff.mp hrun with ⟨hknown, rfl⟩ | ⟨hnew, hnot, t, hmake, rfl⟩
    · exact ⟨s', run_valueIn_eq_ok_iff.mpr (Or.inl ⟨hlookup.trans hknown, rfl⟩), h⟩
    have hwithin : Matches S o o' s₀ s₀' (id :: around) s s' :=
      { h with
        leftAround := List.forall_mem_cons.mpr ⟨hnew, h.leftAround⟩
        rightAround := List.forall_mem_cons.mpr ⟨hlookup.trans hnew, h.rightAround⟩ }
    have hlasts := hfuel.cons hnot (Graph.lt_size_of_not_steady hsteady)
    have hlockstep : Lockstep S S (fun s => ∃ s', Matches S o o' s₀ s₀' (id :: around) s s')
        (Matches S o o' s₀ s₀' (id :: around)) :=
      ⟨fun _ ⟨_, hs⟩ => hs.graph.toSame.refl_of.looksAlike, fun _ _ _ hs => hs.graph.toSame.looksAlike⟩
    have hfollows := follows_fresh hlockstep
      (fun x hx => follows_of_forall fun _ _ _ _ hs hrun => ⟨trivial, ih hx hlasts hs hrun⟩)
      hid (follows_mergedEntries_of_matches hid)
    obtain ⟨-, -, hfollows⟩ := hfollows s v t ⟨s', hwithin⟩ hmake
    obtain ⟨t', hmake', ht'⟩ := (hfollows trivial).2 s' hwithin
    have hnot' : ¬ o'.Steady id := fun h => hsteady ((hstart.same.steady_iff hid).mp h)
    exact ⟨_, run_valueIn_eq_ok_iff.mpr (Or.inr ⟨hlookup.trans hnew, hnot, t', hmake', rfl⟩),
      ht'.remember hid hsteady hnot' hnot⟩

/-- Two evaluations match when they begin, if nothing is known yet that merges could have made different. -/
theorem Begins.matches (h : Begins S o o' s s') (hleft : Recorded o s.known)
    (hright : Recorded o' s'.known)
    (hknown : ∀ id ∈ S, ¬ o.Steady id → s'.known.lookup id = s.known.lookup id) :
    Matches S o o' s s' [] s s' where
  graph :=
    { h.left.symm.trans (h.same.trans h.right) with
      loose := fun _ hid hloose => ⟨hid, (h.left.loose_iff hid).mp hloose⟩
      left := .refl _ _
      right := .refl _ _ }
  known := hknown
  left := hleft
  right := hright
  leftOutside _ _ := rfl
  rightOutside _ _ := rfl
  leftKeeps _ _ h := h
  leftAround _ h := absurd h List.not_mem_nil
  rightAround _ h := absurd h List.not_mem_nil

/-- The value of a node is made with nothing around it, and fuel for all nodes. -/
theorem run_value (id : NodeId) (s : Evaluation) :
    (value id).run s = (valueIn (s.graph.size + 1) [] id).run s := by
  unfold value
  rw [StateT.run_bind, StateT.run_get, pure_bind]

/-- If the value of a node is made in one state, it is made in each state that matches it. -/
theorem value_of_begins (h : Begins S o o' s s') (hid : id ∈ S)
    (hmatches : Matches S o o' s s' [] s s') (hrun : (value id).run s = .ok (v, t)) :
    ∃ t', (value id).run s' = .ok (v, t') ∧ Matches S o o' s s' [] t t' := by
  rw [run_value] at hrun ⊢
  rw [hmatches.graph.size]
  exact matches_valueIn h hid (h.left.size ▸ lasts_nil _) hmatches hrun

/-- A value that has been made is known. -/
theorem lookup_of_run_value (hrun : (value id).run s = .ok (v, t)) : t.known.lookup id = some v := by
  rw [run_value] at hrun
  rcases run_valueIn_eq_ok_iff.mp hrun with ⟨hknown, rfl⟩ | ⟨-, -, t, -, rfl⟩
  · exact hknown
  · exact lookup_remember_self t id v

end TermAudit.Yaml.Evaluation
