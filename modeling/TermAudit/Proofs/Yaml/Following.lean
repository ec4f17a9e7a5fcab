import TermAudit.Proofs.Yaml.Locality

/-!
# `TermAudit.Proofs.Yaml.Following`: one evaluation that follows another

Two evaluations of one node can meet different values that are known already, and so go different ways.
`Evaluation.Follows P Post R Q x y` says that `y` comes to every result of `x` nevertheless. It is stated
for states that `R` relates in pairs, and `P` is what the states of `x` keep by themselves. `Post` is for
results that depend on all that is known at the end of `x`: it goes backward along `x`.

`Evaluation.follows_fresh` says that making the value of a node follows step by step, if making the
values of the nodes in it does, and its merges do.
-/

set_option autoImplicit false

namespace TermAudit.Yaml

/-! ## What is looked at -/

namespace Graph

/-- What is looked at while the value of a node in the set `S` is made, its merges apart, is the same in
both graphs, and leads to nodes of the set. The items of lists of pairs are in `I`, as they are looked at
without their merges. -/
structure LooksAlike (S I : Set NodeId) (g g' : Graph) : Prop where
  tag : ∀ id ∈ S, (g'.node id).tag = (g.node id).tag
  position : ∀ id ∈ S, (g'.node id).position = (g.node id).position
  scalar? : ∀ id ∈ S, g'.scalar? id = g.scalar? id
  items : ∀ id ∈ S, EndAlike (SameIn fun ids => ∀ i ∈ ids, i ∈ S) (g.items id) (g'.items id)
  pairItems : ∀ id ∈ S, (g.node id).tag = .omap ∨ (g.node id).tag = .pairs →
    EndAlike (SameIn fun ids => ∀ i ∈ ids, i ∈ I) (g.pairItems id) (g'.pairItems id)
  singleEntry : ∀ around ∈ S, ∀ id ∈ I,
    EndAlike (SameIn fun e => e.1 ∈ S ∧ e.2 ∈ S) (g.singleEntry around id) (g'.singleEntry around id)

section SameIn

variable {α : Type} {Q : α → Prop} {x y : Except Fault α}

/-- Computations that end alike do so in either order. -/
theorem endAlike_sameIn_symm (h : EndAlike (SameIn Q) x y) : EndAlike (SameIn Q) y x := by
  rcases h with ⟨e, rfl, rfl⟩ | ⟨a, _, rfl, rfl, rfl, ha⟩
  · exact Or.inl ⟨e, rfl, rfl⟩
  · exact endAlike_ok ⟨rfl, ha⟩

/-- The first one ends like itself, with a result in the set. -/
theorem endAlike_sameIn_refl (h : EndAlike (SameIn Q) x y) : EndAlike (SameIn Q) x x := by
  rcases h with ⟨e, rfl, -⟩ | ⟨a, _, rfl, -, -, ha⟩
  · exact Or.inl ⟨e, rfl, rfl⟩
  · exact endAlike_ok ⟨rfl, ha⟩

end SameIn

/-- Graphs that are the same in the set look alike there. -/
theorem Same.looksAlike {S : Set NodeId} {g g' : Graph} (h : Same S g g') : LooksAlike S S g g' where
  tag id hid := by rw [h.node id hid]
  position id hid := by rw [h.node id hid]
  scalar? _ hid := h.scalar? hid
  items _ hid := h.items hid
  pairItems _ hid _ := h.pairItems hid
  singleEntry _ haround _ hid := h.singleEntry haround hid

/-- Neither of two graphs that look alike comes first. -/
theorem LooksAlike.symm {S I : Set NodeId} {g g' : Graph} (h : LooksAlike S I g g') :
    LooksAlike S I g' g where
  tag id hid := (h.tag id hid).symm
  position id hid := (h.position id hid).symm
  scalar? id hid := (h.scalar? id hid).symm
  items id hid := endAlike_sameIn_symm (h.items id hid)
  pairItems id hid htag := endAlike_sameIn_symm (h.pairItems id hid (h.tag id hid ▸ htag))
  singleEntry around haround id hid := endAlike_sameIn_symm (h.singleEntry around haround id hid)

/-- Each of them looks like itself then. -/
theorem LooksAlike.refl_of {S I : Set NodeId} {g g' : Graph} (h : LooksAlike S I g g') :
    LooksAlike S I g g where
  tag _ _ := rfl
  position _ _ := rfl
  scalar? _ _ := rfl
  items id hid := endAlike_sameIn_refl (h.items id hid)
  pairItems id hid htag := endAlike_sameIn_refl (h.pairItems id hid htag)
  singleEntry around haround id hid := endAlike_sameIn_refl (h.singleEntry around haround id hid)

/-- A node of the set is refused alike. -/
theorem LooksAlike.refuse {α : Type} {R : α → α → Prop} {S I : Set NodeId} {g g' : Graph} {id : NodeId}
    (h : LooksAlike S I g g') (hid : id ∈ S) (problem : Problem) :
    EndAlike R (g.refuse id problem) (g'.refuse id problem) := by
  unfold Graph.refuse
  rw [h.position id hid]
  exact Or.inl ⟨_, rfl, rfl⟩

/-- So is one inside of another node of the set. -/
theorem LooksAlike.refuseIn {α : Type} {R : α → α → Prop} {S I : Set NodeId} {g g' : Graph}
    {around id : NodeId} (h : LooksAlike S I g g') (haround : around ∈ S) (hid : id ∈ S)
    (activity : Activity) (problem : Problem) :
    EndAlike R (g.refuseIn activity around id problem) (g'.refuseIn activity around id problem) := by
  unfold Graph.refuseIn
  rw [h.position id hid, h.position around haround]
  exact Or.inl ⟨_, rfl, rfl⟩

end Graph

namespace Evaluation

/-! ## Values that are made and values that are known -/

/-- The value of a node that is not known, given how to make the value of a node in it. It is one step of
the evaluation, without the recursion. -/
def fresh (value : NodeId → Evaluating Value) (id : NodeId) : Evaluating Value := do
  match (← get).graph.scalar? id with
  | some result => return Value.scalar (← result)
  | none => collection value id

/-- The state in which a value is known as well. Nothing else about the state changes. -/
def remember (s : Evaluation) (id : NodeId) (v : Value) : Evaluation :=
  { s with known := (id, v) :: s.known }

/-- Remembering a value leaves the graph alone. -/
@[simp] theorem remember_graph (s : Evaluation) (id : NodeId) (v : Value) :
    (s.remember id v).graph = s.graph :=
  rfl

/-- What has been remembered is known. -/
theorem lookup_remember_self (s : Evaluation) (id : NodeId) (v : Value) :
    (s.remember id v).known.lookup id = some v :=
  List.lookup_cons_self

/-- Of any other node as much is known as before. -/
theorem lookup_remember_of_ne (s : Evaluation) {id other : NodeId} (v : Value) (h : other ≠ id) :
    (s.remember id v).known.lookup other = s.known.lookup other := by
  unfold remember
  rw [List.lookup_cons, beq_false_of_ne h]

/-- A value is known, or else it is made and remembered. -/
theorem run_valueIn_eq_ok_iff {fuel : Nat} {around : List NodeId} {id : NodeId} {s t : Evaluation}
    {v : Value} :
    (valueIn (fuel + 1) around id).run s = .ok (v, t) ↔
      (s.known.lookup id = some v ∧ t = s) ∨
      (s.known.lookup id = none ∧ id ∉ around ∧
        ∃ t', (fresh (valueIn fuel (id :: around)) id).run s = .ok (v, t') ∧ t = t'.remember id v) := by
  cases hlookup : s.known.lookup id with
  | some w =>
    rw [valueIn_of_known hlookup]
    simp only [Except.ok.injEq, Prod.mk.injEq, Option.some.injEq, reduceCtorEq, false_and, or_false,
      eq_comm]
  | none =>
    by_cases haround : id ∈ around
    · -- A node that stands around itself is refused before anything is made.
      have hrefused : ∃ e, (valueIn (fuel + 1) around id).run s = .error e := by
        unfold valueIn
        rw [StateT.run_bind, StateT.run_get, pure_bind]
        dsimp only
        rw [hlookup]
        dsimp only
        rw [if_pos (by simpa using haround)]
        exact ⟨_, rfl⟩
      obtain ⟨e, he⟩ := hrefused
      rw [he]
      simp [haround]
    · -- A node that is new is made, and its value remembered.
      have hmade : (valueIn (fuel + 1) around id).run s =
          (fresh (valueIn fuel (id :: around)) id).run s >>= fun r => .ok (r.1, r.2.remember id r.1) := by
        unfold valueIn fresh
        rw [StateT.run_bind, StateT.run_get, pure_bind, StateT.run_bind, StateT.run_get, pure_bind]
        dsimp only
        rw [hlookup]
        dsimp only
        rw [if_neg (by simpa using haround)]
        cases s.graph.scalar? id with
        | none => rfl
        | some result => cases result <;> rfl
      rw [hmade, bind_eq_ok_iff]
      simp only [haround, not_false_eq_true, true_and, reduceCtorEq, false_and, false_or]
      constructor
      · rintro ⟨⟨w, t'⟩, hrun, heq⟩
        cases heq
        exact ⟨t', hrun, rfl⟩
      · rintro ⟨t', hrun, rfl⟩
        exact ⟨(v, t'), hrun, rfl⟩

/-- Merges are carried out in the graph of the state. -/
theorem run_mergedEntries (id : NodeId) (s : Evaluation) :
    (mergedEntries id).run s =
      s.graph.mergedEntries id >>= fun r => .ok (r.1, { s with graph := r.2 }) := by
  unfold mergedEntries
  rw [StateT.run_bind, StateT.run_get, pure_bind]
  dsimp only
  cases s.graph.mergedEntries id <;> rfl

/-! ## Following -/

variable {α β : Type} {S I : Set NodeId} {P Post : Evaluation → Prop}
  {R : Evaluation → Evaluation → Prop} {Q : α → Prop} {Q' : β → Prop}

/-- From states with `P`, the results of `x` have `Q`. From states that are related to these, `y` comes to
the same results, if `Post` holds at the end. The other direction is the same statement for the converse
relation. -/
def Follows (P Post : Evaluation → Prop) (R : Evaluation → Evaluation → Prop) (Q : α → Prop)
    (x y : Evaluating α) : Prop :=
  ∀ s a t, P s → x.run s = .ok (a, t) →
    P t ∧ Q a ∧ (Post t → Post s ∧ ∀ s', R s s' → ∃ t', y.run s' = .ok (a, t') ∧ R t t')

/-- If results of `y` can be told from those of `x` step by step, it follows. -/
theorem follows_of_forall {x y : Evaluating α}
    (h : ∀ s s' a t, R s s' → x.run s = .ok (a, t) →
      Q a ∧ ∃ t', y.run s' = .ok (a, t') ∧ R t t') :
    Follows (fun s => ∃ s', R s s') (fun _ => True) R Q x y := by
  rintro s a t ⟨s₀, hs₀⟩ hrun
  obtain ⟨ha, t₀, -, ht₀⟩ := h s s₀ a t hs₀ hrun
  exact ⟨⟨t₀, ht₀⟩, ha, fun _ => ⟨trivial, fun s' hs' => (h s s' a t hs' hrun).2⟩⟩

/-- Related states have graphs that look alike in the set, and each graph leads to nodes of the set alone.
Then the two computations ask for the same nodes in the same order. -/
structure Lockstep (S I : Set NodeId) (P : Evaluation → Prop) (R : Evaluation → Evaluation → Prop) :
    Prop where
  closed : ∀ s, P s → Graph.LooksAlike S I s.graph s.graph
  same : ∀ s s', P s → R s s' → Graph.LooksAlike S I s.graph s'.graph

/-- A result that is there already is the same on both sides. -/
theorem follows_pure {a : α} (h : Q a) : Follows P Post R Q (pure a) (pure a) := by
  intro s b t hs hrun
  cases hrun
  exact ⟨hs, h, fun hpost => ⟨hpost, fun s' hs' => ⟨s', rfl, hs'⟩⟩⟩

/-- One computation after the other. The states after the first ones are related, and `Post` is handed back
from the end to the middle and from there to the start. -/
theorem Follows.bind {x y : Evaluating α} {f f' : α → Evaluating β} (hx : Follows P Post R Q x y)
    (hf : ∀ a, Q a → Follows P Post R Q' (f a) (f' a)) :
    Follows P Post R Q' (x >>= f) (y >>= f') := by
  intro s b t₂ hs hrun
  rw [StateT.run_bind] at hrun
  obtain ⟨⟨a, t₁⟩, hrun, hrun'⟩ := bind_eq_ok_iff.mp hrun
  obtain ⟨ht₁, ha, hfirst⟩ := hx s a t₁ hs hrun
  obtain ⟨ht₂, hb, hsecond⟩ := hf a ha t₁ b t₂ ht₁ hrun'
  refine ⟨ht₂, hb, fun hpost => ?_⟩
  obtain ⟨hpost₁, hsecond⟩ := hsecond hpost
  obtain ⟨hpost₀, hfirst⟩ := hfirst hpost₁
  refine ⟨hpost₀, fun s' hs' => ?_⟩
  obtain ⟨t₁', hrun, ht₁'⟩ := hfirst s' hs'
  obtain ⟨t₂', hrun', ht₂'⟩ := hsecond t₁' ht₁'
  refine ⟨t₂', ?_, ht₂'⟩
  rw [StateT.run_bind]
  exact bind_eq_ok_iff.mpr ⟨_, hrun, hrun'⟩

/-- A computation that fails has no results to come to. -/
theorem follows_error {e : Fault} {y : Evaluating α} : Follows P Post R Q (throw e) y := by
  intro s a t _ hrun
  cases hrun

/-- What follows for each item of a list follows for the list. -/
theorem follows_mapM {ι : Type} {f f' : ι → Evaluating β} {l : List ι}
    (hf : ∀ i ∈ l, Follows P Post R Q' (f i) (f' i)) :
    Follows P Post R (fun _ => True) (l.mapM f) (l.mapM f') := by
  induction l with
  | nil => exact follows_pure trivial
  | cons i l ih =>
    rw [List.mapM_cons, List.mapM_cons]
    refine (hf i List.mem_cons_self).bind fun b _ => ?_
    exact (ih fun j hj => hf j (List.mem_cons_of_mem _ hj)).bind fun bs _ => follows_pure trivial

/-- So it does for a loop over the items, whatever has been made before. The two loops go through the same
list. -/
theorem follows_foldlM {ι : Type} {f f' : β → ι → Evaluating β} {l : List ι}
    (hf : ∀ i ∈ l, ∀ b, Follows P Post R (fun _ => True) (f b i) (f' b i)) (b : β) :
    Follows P Post R (fun _ => True) (l.foldlM f b) (l.foldlM f' b) := by
  induction l generalizing b with
  | nil => exact follows_pure trivial
  | cons i l ih =>
    rw [List.foldlM_cons, List.foldlM_cons]
    refine (hf i List.mem_cons_self b).bind fun b' _ => ?_
    exact ih (fun j hj => hf j (List.mem_cons_of_mem _ hj)) b'

/-- Something that graphs have in common. -/
theorem follows_lift {x y : Except Fault α} (h : EndAlike (Graph.SameIn Q) x y) :
    Follows P Post R Q (liftM x) (liftM y) := by
  rcases h with ⟨e, rfl, rfl⟩ | ⟨a, _, rfl, rfl, rfl, ha⟩
  · exact follows_error
  · exact follows_pure ha

/-! ## Collections -/

section Collections

variable (hR : Lockstep S I P R)

include hR

/-- What depends on the graph can be looked at for states whose graphs look alike in the set. -/
theorem follows_get {f f' : Evaluation → Evaluating α}
    (hf : ∀ s s', Graph.LooksAlike S I s.graph s'.graph → Follows P Post R Q (f s) (f' s')) :
    Follows P Post R Q (get >>= f) (get >>= f') := by
  intro s a t hs hrun
  rw [StateT.run_bind, StateT.run_get, pure_bind] at hrun
  obtain ⟨ht, ha, hfollows⟩ := hf _ _ (hR.closed s hs) s a t hs hrun
  refine ⟨ht, ha, fun hpost => ⟨(hfollows hpost).1, fun s' hs' => ?_⟩⟩
  rw [StateT.run_bind, StateT.run_get, pure_bind]
  obtain ⟨-, -, hfollows'⟩ := hf _ _ (hR.same s s' hs hs') s a t hs hrun
  exact (hfollows' hpost).2 s' hs'

variable {value value' : NodeId → Evaluating Value}
  (hvalue : ∀ id ∈ S, Follows P Post R (fun _ => True) (value id) (value' id))

include hvalue

/-- Making a mapping follows, if its merges do. They leave the same entries on both sides, with all nodes in
the set. -/
theorem follows_mapping {id : NodeId} (hid : id ∈ S)
    (hmerge : Follows P Post R (Graph.EntriesIn S) (mergedEntries id) (mergedEntries id)) :
    Follows P Post R (fun _ => True) (mapping value id) (mapping value' id) := by
  unfold mapping
  refine hmerge.bind fun entries hentries => follows_foldlM ?_ _
  rintro ⟨key, item⟩ he made
  obtain ⟨hkey, hitem⟩ := hentries _ he
  refine (hvalue key hkey).bind fun k _ => ?_
  split
  · exact (hvalue item hitem).bind fun v _ => follows_pure trivial
  · exact follows_get hR fun s s' hs => follows_lift (hs.refuseIn hid hkey _ _)

/-- Making an item of pairs follows. The node must have a single entry, and this is seen in the graph. -/
theorem follows_pair {around item : NodeId} (haround : around ∈ S) (hitem : item ∈ I) :
    Follows P Post R (fun _ => True)
      (do
        let (key, item) ← (← get).graph.singleEntry around item
        return Value.tuple [← value key, ← value item])
      (do
        let (key, item) ← (← get).graph.singleEntry around item
        return Value.tuple [← value' key, ← value' item]) := by
  refine follows_get hR fun s s' hs => (follows_lift (hs.singleEntry around haround item hitem)).bind ?_
  rintro ⟨key, item⟩ ⟨hkey, hitem⟩
  exact (hvalue key hkey).bind fun k _ => (hvalue item hitem).bind fun v _ => follows_pure trivial

/-- Making a collection follows, of whichever kind. The tag is the same in both graphs. -/
theorem follows_collection {id : NodeId} (hid : id ∈ S)
    (hmerge : Follows P Post R (Graph.EntriesIn S) (mergedEntries id) (mergedEntries id)) :
    Follows P Post R (fun _ => True) (collection value id) (collection value' id) := by
  unfold collection
  refine follows_get hR fun s s' hs => ?_
  have hpairs := hs.pairItems id hid
  dsimp only
  rw [hs.tag id hid]
  split
  · exact (follows_lift (hs.items id hid)).bind fun ids hids =>
      (follows_mapM fun i hi => hvalue i (hids i hi)).bind fun vs _ => follows_pure trivial
  · exact (follows_mapping hR hvalue hid hmerge).bind fun entries _ => follows_pure trivial
  · exact (follows_mapping hR hvalue hid hmerge).bind fun entries _ => follows_pure trivial
  · rename_i htag
    exact (follows_lift (hpairs (Or.inl htag))).bind fun ids hids =>
      (follows_mapM fun i hi => follows_pair hR hvalue hid (hids i hi)).bind fun pairs _ =>
        follows_pure trivial
  · rename_i htag
    exact (follows_lift (hpairs (Or.inr htag))).bind fun ids hids =>
      (follows_mapM fun i hi => follows_pair hR hvalue hid (hids i hi)).bind fun pairs _ =>
        follows_pure trivial
  · exact follows_get hR fun s s' hs => follows_lift (hs.refuse hid _)

/-- Making a value follows, if making the values inside does. It goes through all kinds of nodes once, so
later relations between states need not do it again. -/
theorem follows_fresh {id : NodeId} (hid : id ∈ S)
    (hmerge : Follows P Post R (Graph.EntriesIn S) (mergedEntries id) (mergedEntries id)) :
    Follows P Post R (fun _ => True) (fresh value id) (fresh value' id) := by
  unfold fresh
  refine follows_get hR fun s s' hs => ?_
  rw [hs.scalar? id hid]
  split
  · rename_i result _
    refine Follows.bind (Q := fun _ => True) (follows_lift ?_) fun x _ => follows_pure trivial
    cases result with
    | error e => exact Or.inl ⟨e, rfl, rfl⟩
    | ok x => exact endAlike_ok ⟨rfl, trivial⟩
  · exact follows_collection hR hvalue hid hmerge

end Collections

end Evaluation

end TermAudit.Yaml
