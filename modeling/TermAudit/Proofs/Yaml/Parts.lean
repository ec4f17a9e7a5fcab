import TermAudit.Proofs.Alike
import TermAudit.Proofs.Yaml.Records
import TermAudit.Proofs.Yaml.Values

/-!
# `TermAudit.Proofs.Yaml.Parts`: what the value of a node is made of

The value of a node is made by a computation over a graph that merges can change. In a steady node nothing
changes, so there the value can be told without a computation, from the values of the nodes in it
(`Evaluation.MadeOf`). `Evaluation.madeFrom_iff` says that a record is made in this way.

The computation is opened step by step: `Evaluation.Yields s x P` says that `x` comes from the state `s` to
exactly the results with `P`, and leaves the state as it is.
-/

set_option autoImplicit false

namespace TermAudit.Yaml

namespace Evaluation

/-! ## Computations that leave the state alone -/

section Yields

variable {α β ι : Type} {s : Evaluation} {P : α → Prop} {x : Evaluating α} {f : α → Evaluating β}
  {Q : α → β → Prop}

/-- From this state the computation comes to exactly the results with `P`, and changes nothing. It is for
computations on steady nodes, where merges have nothing to do. -/
def Yields (s : Evaluation) (x : Evaluating α) (P : α → Prop) : Prop :=
  ∀ a t, x.run s = .ok (a, t) ↔ t = s ∧ P a

/-- The results may be told in other words. -/
theorem Yields.congr {P' : α → Prop} (h : Yields s x P) (hiff : ∀ a, P a ↔ P' a) : Yields s x P' :=
  fun a t => (h a t).trans (and_congr_right fun _ => hiff a)

/-- A result that is there already is the only one. -/
theorem yields_pure (a : α) : Yields s (pure a) fun b => b = a := by
  intro b t
  constructor
  · intro hrun
    cases hrun
    exact ⟨rfl, rfl⟩
  · rintro ⟨rfl, rfl⟩
    rfl

/-- A computation without a state comes to its own results. -/
theorem yields_lift (x : Except Fault α) : Yields s (liftM x) fun a => x = .ok a := by
  intro a t
  cases x with
  | error e => exact iff_of_false (fun h => nomatch h) fun h => nomatch h.2
  | ok b =>
    constructor
    · intro hrun
      cases hrun
      exact ⟨rfl, rfl⟩
    · rintro ⟨rfl, heq⟩
      cases heq
      rfl

/-- The second computation goes on from each result of the first one. -/
theorem Yields.bind (hx : Yields s x P) (hf : ∀ a, P a → Yields s (f a) (Q a)) :
    Yields s (x >>= f) fun b => ∃ a, P a ∧ Q a b := by
  intro b t
  rw [StateT.run_bind, bind_eq_ok_iff]
  constructor
  · rintro ⟨⟨a, t'⟩, hfirst, hsecond⟩
    obtain ⟨rfl, ha⟩ := (hx a t').mp hfirst
    obtain ⟨rfl, hb⟩ := (hf a ha b t).mp hsecond
    exact ⟨rfl, a, ha, hb⟩
  · rintro ⟨rfl, a, ha, hb⟩
    exact ⟨(a, t), (hx a t).mpr ⟨rfl, ha⟩, (hf a ha b t).mpr ⟨rfl, hb⟩⟩

/-- What depends on the state depends on this one. -/
theorem yields_get {f : Evaluation → Evaluating α} (hf : Yields s (f s) P) : Yields s (get >>= f) P := by
  intro a t
  rw [StateT.run_bind, StateT.run_get, pure_bind]
  exact hf a t

/-- Each item of a list gives one of its results. -/
theorem yields_mapM {R : ι → α → Prop} {f : ι → Evaluating α} (hf : ∀ i, Yields s (f i) (R i))
    (l : List ι) : Yields s (l.mapM f) (List.Forall₂ R l) := by
  induction l with
  | nil => exact (yields_pure []).congr fun _ => List.forall₂_nil_left_iff.symm
  | cons i l ih =>
    rw [List.mapM_cons]
    refine ((hf i).bind fun a _ => ih.bind fun as _ => yields_pure (a :: as)).congr fun bs => ?_
    rw [List.forall₂_cons_left_iff]
    simp only [exists_and_left]

end Yields

/-! ## Values -/

/-- The key and the value of an entry are known. -/
def EntryOf (known : List (NodeId × Value)) (e : NodeId × NodeId) (made : Scalar × Value) : Prop :=
  known.lookup e.1 = some (.scalar made.1) ∧ known.lookup e.2 = some made.2

/-- The node has a single entry, whose key and value are known. These are the items of an ordered mapping,
each of which becomes a tuple of two. -/
def PairOf (g : Graph) (known : List (NodeId × Value)) (id : NodeId) (v : Value) : Prop :=
  ∃ e k w, (g.node id).content = .mapping [e] ∧ known.lookup e.1 = some k ∧
    known.lookup e.2 = some w ∧ v = .tuple [k, w]

/-- The value of a collection, as it is made of known values where nothing is merged. There is a case for
each tag of collections, and a collection with any other tag has no value. -/
def CollectionOf (g : Graph) (known : List (NodeId × Value)) (id : NodeId) (v : Value) : Prop :=
  match (g.node id).tag with
  | .seq => ∃ items vs, (g.node id).content = .sequence items ∧
    List.Forall₂ (fun item w => known.lookup item = some w) items vs ∧ v = .list vs
  | .map => ∃ es made, (g.node id).content = .mapping es ∧ List.Forall₂ (EntryOf known) es made ∧
    v = .mapping (Value.putEntries [] made)
  | .set => ∃ es made, (g.node id).content = .mapping es ∧ List.Forall₂ (EntryOf known) es made ∧
    v = .set ((Value.putEntries [] made).map Prod.fst)
  | .omap | .pairs => ∃ items vs, (g.node id).content = .sequence items ∧
    List.Forall₂ (PairOf g known) items vs ∧ v = .list vs
  | _ => False

/-- The value of a node, as it is told from the values of the nodes in it. That of a scalar is made of
nothing else. -/
def MadeOf (g : Graph) (known : List (NodeId × Value)) (id : NodeId) (v : Value) : Prop :=
  match g.scalar? id with
  | some result => ∃ x, result = .ok x ∧ v = .scalar x
  | none => CollectionOf g known id v

section MadeOf

variable {S : Set NodeId} {o : Graph} {known : List (NodeId × Value)} {id : NodeId} {v : Value}

/-- Fetching gives what is known. -/
theorem yields_fetch (s : Evaluation) (id : NodeId) :
    Yields s (fetch known id) fun v => known.lookup id = some v :=
  fun _ _ => run_fetch_eq_ok_iff.trans and_comm

/-- Where each step of a loop puts the entry that is made next, all entries are put one after the other. -/
theorem yields_foldlM (known : List (NodeId × Value)) {s : Evaluation}
    {f : List (Scalar × Value) → NodeId × NodeId → Evaluating (List (Scalar × Value))}
    (hf : ∀ entries e, Yields s (f entries e) fun made =>
      ∃ m, EntryOf known e m ∧ made = Value.putEntry entries m.1 m.2)
    (es : List (NodeId × NodeId)) (entries : List (Scalar × Value)) :
    Yields s (es.foldlM f entries) fun made =>
      ∃ new, List.Forall₂ (EntryOf known) es new ∧ made = Value.putEntries entries new := by
  induction es generalizing entries with
  | nil =>
    refine (yields_pure entries).congr fun made => ?_
    simp only [List.forall₂_nil_left_iff, exists_eq_left]
    exact Iff.rfl
  | cons e es ih =>
    rw [List.foldlM_cons]
    refine ((hf entries e).bind fun made _ => ih made).congr fun made => ?_
    simp only [List.forall₂_cons_left_iff]
    constructor
    · rintro ⟨_, ⟨m, hentry, rfl⟩, new, hnew, rfl⟩
      exact ⟨_, ⟨m, new, hentry, hnew, rfl⟩, rfl⟩
    · rintro ⟨_, ⟨m, new, hentry, hnew, rfl⟩, rfl⟩
      exact ⟨_, ⟨m, hentry, rfl⟩, new, hnew, rfl⟩

/-- The entries of a steady mapping are those that it is written with. A key must be a scalar. -/
theorem yields_mapping (hS : IsSteady S o) (hid : id ∈ S) :
    Yields (start o) (mapping (fetch known) id) fun made => ∃ es new,
      (o.node id).content = .mapping es ∧ List.Forall₂ (EntryOf known) es new ∧
        made = Value.putEntries [] new := by
  have hmerged : Yields (start o) (mergedEntries id) fun es => (o.node id).content = .mapping es :=
    fun es t => run_mergedEntries_eq_ok_iff hS hid
  unfold mapping
  refine (hmerged.bind fun es _ => yields_foldlM known ?_ es []).congr fun made => ?_
  · rintro entries ⟨key, item⟩
    refine ((yields_fetch _ key).bind (Q := fun k made => ∃ x w, k = .scalar x ∧
      known.lookup item = some w ∧ made = Value.putEntry entries x w) fun k _ => ?_).congr fun made => ?_
    · split
      · rename_i k
        refine ((yields_fetch _ item).bind fun w _ => yields_pure _).congr fun made => ?_
        simp
      · rename_i hother
        refine yields_get ((yields_lift _).congr fun made => iff_of_false (fun h => nomatch h) ?_)
        rintro ⟨x, w, rfl, -⟩
        exact hother x rfl
    · constructor
      · rintro ⟨_, hkey, x, w, rfl, hitem, rfl⟩
        exact ⟨(x, w), ⟨hkey, hitem⟩, rfl⟩
      · rintro ⟨⟨x, w⟩, ⟨hkey, hitem⟩, rfl⟩
        exact ⟨_, hkey, x, w, rfl, hitem, rfl⟩
  · simp only [exists_and_left]

/-- What is made of a steady mapping is made of its entries. -/
theorem yields_of_mapping (hS : IsSteady S o) (hid : id ∈ S) (F : List (Scalar × Value) → Value) :
    Yields (start o) (do return F (← mapping (fetch known) id)) fun v => ∃ es new,
      (o.node id).content = .mapping es ∧ List.Forall₂ (EntryOf known) es new ∧
        v = F (Value.putEntries [] new) := by
  refine ((yields_mapping hS hid).bind fun made _ => yields_pure (F made)).congr fun v => ?_
  constructor
  · rintro ⟨_, ⟨es, new, hcontent, hnew, rfl⟩, rfl⟩
    exact ⟨es, new, hcontent, hnew, rfl⟩
  · rintro ⟨es, new, hcontent, hnew, rfl⟩
    exact ⟨_, ⟨es, new, hcontent, hnew, rfl⟩, rfl⟩

/-- Each item of pairs is made of its single entry. -/
theorem yields_pair (around item : NodeId) :
    Yields (start o)
      (do
        let (key, item) ← (← get).graph.singleEntry around item
        return Value.tuple [← fetch known key, ← fetch known item])
      (PairOf o known item) := by
  refine yields_get (((yields_lift _).bind (Q := fun e v => ∃ k w, known.lookup e.1 = some k ∧
    known.lookup e.2 = some w ∧ v = .tuple [k, w]) fun e _ => ?_).congr fun v => ?_)
  · obtain ⟨key, item⟩ := e
    refine ((yields_fetch _ key).bind fun k _ => (yields_fetch _ item).bind fun w _ =>
      yields_pure (Value.tuple [k, w])).congr fun v => ?_
    simp only [exists_and_left]
  · have hsingle (e : NodeId × NodeId) : (start o).graph.singleEntry around item = .ok e ↔
        (o.node item).content = .mapping [e] := by
      show o.singleEntry around item = .ok e ↔ _
      unfold Graph.singleEntry
      split
      · rename_i entry hcontent
        rw [hcontent]
        simp [pure, Except.pure]
      · rename_i entries hne hcontent
        rw [hcontent]
        refine iff_of_false (fun h => nomatch h) fun h => ?_
        rw [Content.mapping.inj h] at hne
        exact hne e rfl
      · rename_i hne hother
        exact iff_of_false (fun h => nomatch h) fun h => hother _ h
    unfold PairOf
    simp only [hsingle, exists_and_left]

/-- The items of a sequence are those that it is written with. -/
theorem items_eq_ok_iff {g : Graph} {items : List NodeId} :
    g.items id = .ok items ↔ (g.node id).content = .sequence items := by
  unfold Graph.items
  split
  · rename_i own hcontent
    rw [hcontent]
    simp [pure, Except.pure]
  · rename_i hother
    exact iff_of_false (fun h => nomatch h) fun h => hother _ h

/-- So are the items of a list of pairs. -/
theorem pairItems_eq_ok_iff {g : Graph} {items : List NodeId} :
    g.pairItems id = .ok items ↔ (g.node id).content = .sequence items := by
  unfold Graph.pairItems
  split
  · rename_i own hcontent
    rw [hcontent]
    simp [pure, Except.pure]
  · rename_i hother
    exact iff_of_false (fun h => nomatch h) fun h => hother _ h

/-- A list of pairs is made of its items. -/
theorem yields_pairs (around : NodeId) :
    Yields (start o)
      (do
        let pairs ← (← o.pairItems around).mapM fun item => do
          let (key, item) ← (← get).graph.singleEntry around item
          return Value.tuple [← fetch known key, ← fetch known item]
        return Value.list pairs)
      fun v => ∃ items vs, (o.node around).content = .sequence items ∧
        List.Forall₂ (PairOf o known) items vs ∧ v = .list vs := by
  refine ((yields_lift (o.pairItems around)).bind fun items _ =>
    (yields_mapM (yields_pair around) items).bind fun vs _ => yields_pure (Value.list vs)).congr fun v => ?_
  simp only [pairItems_eq_ok_iff, exists_and_left]

/-- What is made of a steady collection depends on its tag. -/
theorem yields_collection (hS : IsSteady S o) (hid : id ∈ S) :
    Yields (start o) (collection (fetch known) id) (CollectionOf o known id) := by
  unfold collection
  refine yields_get ?_
  dsimp only [start]
  split
  · rename_i htag
    refine ((yields_lift (o.items id)).bind fun items _ =>
      (yields_mapM (yields_fetch _) items).bind fun vs _ => yields_pure (Value.list vs)).congr fun v => ?_
    unfold CollectionOf
    rw [htag]
    simp only [items_eq_ok_iff, exists_and_left]
  · rename_i htag
    refine (yields_of_mapping hS hid Value.mapping).congr fun v => ?_
    unfold CollectionOf
    rw [htag]
  · rename_i htag
    refine (yields_of_mapping hS hid fun made => .set (made.map Prod.fst)).congr fun v => ?_
    unfold CollectionOf
    rw [htag]
  · rename_i htag
    refine (yields_pairs id).congr fun v => ?_
    unfold CollectionOf
    rw [htag]
  · rename_i htag
    refine (yields_pairs id).congr fun v => ?_
    unfold CollectionOf
    rw [htag]
  · rename_i hseq hmap hset homap hpairs
    refine yields_get ((yields_lift _).congr fun v => iff_of_false (fun h => nomatch h) fun h => ?_)
    unfold CollectionOf at h
    split at h <;> contradiction

/-- What is made of a steady node. -/
theorem yields_fresh (hS : IsSteady S o) (hid : id ∈ S) :
    Yields (start o) (fresh (fetch known) id) (MadeOf o known id) := by
  unfold fresh
  refine yields_get ?_
  dsimp only [start]
  split
  · rename_i result hscalar
    refine ((yields_lift result).bind fun x _ => yields_pure (Value.scalar x)).congr fun v => ?_
    unfold MadeOf
    rw [hscalar]
  · rename_i hscalar
    refine (yields_collection hS hid).congr fun v => ?_
    unfold MadeOf
    rw [hscalar]

/-- So its value can be told from the values that are known. The computation is gone after this, and
values of steady nodes can be compared by what they are made of. -/
theorem madeFrom_iff (hS : IsSteady S o) (hid : id ∈ S) :
    MadeFrom o known id v ↔ MadeOf o known id v :=
  ⟨fun ⟨t, hrun⟩ => ((yields_fresh hS hid v t).mp hrun).2,
    fun h => ⟨_, (yields_fresh hS hid v _).mpr ⟨rfl, h⟩⟩⟩

end MadeOf

end Evaluation

end TermAudit.Yaml
