import TermAudit.Proofs.Model.Structure
import TermAudit.Proofs.Yaml.Ahead

/-!
# `TermAudit.Proofs.Model.Sharing`: documents whose values share what they merge

Two values of a document can have a mapping in common that merges others. Whichever of the values is made
first carries these merges out. This makes no difference to the other value if they come to the same at all
times, and so they can be thought of as made ahead: the document after them (`Ahead`) declares what the
first one does, and its values share no merges any more.

`Apart` is the condition for this. It excludes that a value has a part of the structure in it that is
merged, and that two values share a node that is fickle. Then the reader comes to the model that the document
declares as it was written (`Model.ofDocument_eq_ok_iff_isModel`), with each value as if it were the only
one.
-/

set_option autoImplicit false

namespace TermAudit

namespace ModelReader

open Yaml (Graph NodeId Evaluation Document)

/-- Values share no node that depends on what has been merged before, and what is merged inside of a value
is no part of the structure. A node that gives the same entries at all times can be shared by any number
of values. -/
structure Apart (d : Document) : Prop where
  value : ∀ {v v' id}, Role d .value v → Role d .value v' → d.graph.Inside v id →
    d.graph.Inside v' id → d.graph.Fickle id → v = v'
  structural : ∀ {place v id}, Role d place id → place ≠ .value → Role d .value v →
    d.graph.Inside v id → ¬ d.graph.Loose id

/-- Where no node is fickle at all, values are apart if no part of the structure has anything to merge. -/
theorem apart_of_not_fickle {d : Document} (hfickle : ∀ id, ¬ d.graph.Fickle id)
    (hroles : ∀ p ∈ roles d, p.1 ≠ .value → ¬ d.graph.Loose p.2) : Apart d where
  value _ _ _ _ h := absurd h (hfickle _)
  structural hrole hplace _ _ := hroles _ (mem_roles_iff.mpr hrole) hplace

variable {origin : Origin} {d d' : Document} {s t : Evaluation} {id other v : NodeId}

/-- The items of a mapping have the places that the mapping gives them. -/
theorem Role.of_hasItems {part : Part} {place : Place} {items : List Item}
    (hrole : Role d (.mapping part) id) (hitems : HasItems d.graph id items) {item : Item}
    (hitem : item ∈ items) (hplace : part.inside item.key = some place) : Role d place item.value :=
  .inside hrole (hitems.mem_entries hitem) (hitems.key item hitem) hplace

/-! ## Merges made ahead -/

/-- The nodes inside of values in which no merge depends on others that come before. What is made of them
does not depend on when it is made, so they can be thought of as made first. -/
def tame (d : Document) : Set NodeId :=
  {id | ∃ v, Role d .value v ∧ d.graph.Inside v id ∧ ∀ other, d.graph.Inside id other →
    ¬ d.graph.Fickle other}

/-- Nothing leads out of these nodes, and so their merges can be made ahead. -/
theorem completable_tame (d : Document) : d.graph.Completable (tame d) := by
  refine Yaml.Graph.completable_of_not_fickle ⟨rfl, fun _ _ => rfl, ?_⟩ ?_
  · rintro id ⟨v, hv, hinside, hnone⟩ child hchild
    exact ⟨v, hv, hinside.tail hchild, fun other hother => hnone other (.head hchild hother)⟩
  · rintro id ⟨v, hv, hinside, hnone⟩
    exact hnone id .refl

/-- The second document is the first one after its merges in such nodes. It is a device of the proof: no
such document is written anywhere, but reading the first one is reading the second. -/
structure Ahead (d d' : Document) : Prop where
  root : d'.root = d.root
  graph : d.graph.Completes (tame d) d.graph d'.graph

/-- There is such a document. -/
theorem exists_ahead (d : Document) : ∃ d', Ahead d d' := by
  obtain ⟨g, hg⟩ := Yaml.Graph.exists_completes d.graph (tame d)
  exact ⟨⟨g, d.root⟩, rfl, hg⟩

namespace Ahead

variable (h : Ahead d d')

include h

/-- Keys `<<` stay keys `<<`. -/
theorem isMergeKey (key : NodeId) : d'.graph.isMergeKey key = d.graph.isMergeKey key := by
  unfold Yaml.Graph.isMergeKey
  rw [h.graph.tag]

/-- A node that is loose after the merges was loose before, and it is not one of those whose merges have been
made. -/
theorem loose (hloose : d'.graph.Loose id) : d.graph.Loose id ∧ id ∉ tame d := by
  have hT := completable_tame d
  by_cases hid : id ∈ tame d
  · exfalso
    rcases hloose with hvalue | ⟨e, he, hkey⟩
    · rw [h.graph.tag] at hvalue
      exact hT.tag id hid hvalue
    · -- The merges in it have been made, so it has no key `<<` any more.
      have hkind := (h.graph.kind id).symm.trans (Yaml.Graph.kind_of_mem_entries he)
      rw [(h.graph.mergeInto_self hT hid hkind 0).2] at he
      have hsettled := Yaml.Graph.settled_fullEntries d.graph d.graph.size id e he
      rw [← h.isMergeKey, hkey] at hsettled
      cases hsettled
  · refine ⟨?_, hid⟩
    unfold Yaml.Graph.Loose Yaml.Graph.entries at hloose ⊢
    simp only [h.isMergeKey, h.graph.same id hid] at hloose
    exact hloose

/-- What is inside of a node after the merges was inside before. -/
theorem inside (hinside : d'.graph.Inside id other) : d.graph.Inside id other := by
  induction hinside with
  | refl => exact .refl
  | @tail around child _ hchild ih =>
    refine ih.trans ?_
    rcases h.graph.node_eq_or around with heq | ⟨-, -, heq⟩
    · rw [heq] at hchild
      exact .single hchild
    · -- The entries taken over come from sources inside.
      rw [heq] at hchild
      obtain ⟨e, he, hmem⟩ := List.mem_flatMap.mp hchild
      obtain ⟨hkey, hvalue⟩ := Yaml.Graph.entriesIn_fullEntries (d.graph.same_inside around) d.graph.size
        Relation.ReflTransGen.refl e he
      rcases List.mem_cons.mp hmem with rfl | hmem
      · exact hkey
      · rw [List.mem_singleton.mp hmem]
        exact hvalue

section Apart

variable (hd : Apart d)

include hd

/-- The structure is the same in both documents, since nothing in it is merged inside of a value. -/
theorem node {place : Place} (hrole : Role d place id) (hplace : place ≠ .value) :
    d'.graph.node id = d.graph.node id := by
  refine h.graph.node_eq (completable_tame d) ?_
  rintro ⟨v, hv, hinside, -⟩
  exact hd.structural hrole hplace hv hinside

/-- So the reader takes the same nodes at the same places. -/
theorem role_iff {place : Place} : Role d' place id ↔ Role d place id := by
  constructor
  · intro hrole
    induction hrole with
    | root => exact h.root ▸ .root
    | inside _ hentry hkey hplace ih =>
      unfold Yaml.Graph.entries at hentry
      rw [h.node hd ih fun heq => nomatch heq] at hentry
      exact .inside ih hentry (h.graph.scalar_iff.mp hkey) hplace
  · intro hrole
    induction hrole with
    | root => exact h.root ▸ .root
    | inside hbefore hentry hkey hplace ih =>
      unfold Yaml.Graph.entries at hentry
      rw [← h.node hd hbefore fun heq => nomatch heq] at hentry
      exact .inside ih hentry (h.graph.scalar_iff.mpr hkey) hplace

/-- In the second document values share no merges. -/
theorem unshared : Unshared d' where
  value hv hv' hinside hinside' hloose := by
    rw [h.role_iff hd] at hv hv'
    obtain ⟨-, hnot⟩ := h.loose hloose
    have hinside := h.inside hinside
    -- The node is not tame, so there is a fickle one inside of it, and both values have that one.
    obtain ⟨other, hother, hfickle⟩ : ∃ other, d.graph.Inside _ other ∧ d.graph.Fickle other := by
      by_contra hnone
      exact hnot ⟨_, hv, hinside, fun other hother hfickle => hnone ⟨other, hother, hfickle⟩⟩
    exact hd.value hv hv' (hinside.trans hother) ((h.inside hinside').trans hother) hfickle
  structural hrole hplace hv hinside hloose := by
    rw [h.role_iff hd] at hrole hv
    exact hd.structural hrole hplace hv (h.inside hinside) (h.loose hloose).1

end Apart

/-- At the start no merges have been made, and in the second document those that are made ahead. -/
theorem completes_start : Evaluation.Completes d.graph (tame d) (.start d.graph) (.start d'.graph) where
  graph := h.graph
  mergedFrom := .refl _
  known := rfl

end Ahead

/-- A value that can be made in the one state can be made in the other. -/
theorem exists_value_iff {s' : Evaluation} {w : Value}
    (hs : Evaluation.Completes d.graph (tame d) s s') :
    (∃ t, (Evaluation.value v).run s = .ok (w, t)) ↔ ∃ t, (Evaluation.value v).run s' = .ok (w, t) := by
  have hT := completable_tame d
  constructor
  · rintro ⟨t, hrun⟩
    obtain ⟨t', hrun', -⟩ := (Yaml.Evaluation.simulates_completes hT).value hs hrun
    exact ⟨t', hrun'⟩
  · rintro ⟨t, hrun⟩
    obtain ⟨t', hrun', -⟩ := (Yaml.Evaluation.simulates_completes_flip hT).value hs hrun
    exact ⟨t', hrun'⟩

/-! ## Reading -/

/-- The state of a reading, behind which there is one of the document with merges made ahead. This is what
each step of the reader keeps. -/
def Followed (d d' : Document) (s : Evaluation) : Prop :=
  ∃ s', Evaluation.Completes d.graph (tame d) s s' ∧ Undisturbed d' s'

section Reading

variable (h : Ahead d d') (hd : Apart d)

include h

/-- Scalars and places are as they were written. -/
theorem Followed.scalar_iff {text : Text} (hs : Followed d d' s) :
    (s.graph.node id).content = .scalar text ↔ (d.graph.node id).content = .scalar text := by
  obtain ⟨s', hs, hs'⟩ := hs
  rw [← hs.graph.scalar_iff, hs'.graph.scalar_iff, h.graph.scalar_iff]

/-- Nodes stay at their places. -/
theorem Followed.placeOf (hs : Followed d d' s) : placeOf origin s.graph id = placeOf origin d.graph id := by
  obtain ⟨s', hs, hs'⟩ := hs
  unfold ModelReader.placeOf
  rw [← hs.graph.position, hs'.graph.position, h.graph.position]

include hd

/-- The structure is as it was written. -/
theorem Followed.node (hs : Followed d d' s) {place : Place} (hrole : Role d place id)
    (hplace : place ≠ .value) : s.graph.node id = d.graph.node id := by
  obtain ⟨s', hs, hs'⟩ := hs
  have hsame : s'.graph.node id = s.graph.node id := by
    refine hs.graph.node_eq (completable_tame d) ?_
    rintro ⟨v, hv, hinside, -⟩
    exact hd.structural hrole hplace hv hinside
  rw [← hsame, hs'.node (h.unshared hd) ((h.role_iff hd).mpr hrole) hplace, h.node hd hrole hplace]

/-- The items of a mapping of the structure are those that were written. -/
theorem Followed.hasItems_iff (hs : Followed d d' s) {part : Part} {items : List Item}
    (hrole : Role d (.mapping part) id) : HasItems s.graph id items ↔ HasItems d.graph id items := by
  have hnode := hs.node h hd hrole fun heq => nomatch heq
  have hkeys (item : Item) : (s.graph.node item.keyNode).content = .scalar item.key ↔
      (d.graph.node item.keyNode).content = .scalar item.key := hs.scalar_iff h
  constructor
  · rintro ⟨hcontent, hkey, hnodup⟩
    exact ⟨hnode ▸ hcontent, fun item hitem => (hkeys item).mp (hkey item hitem), hnodup⟩
  · rintro ⟨hcontent, hkey, hnodup⟩
    exact ⟨hnode.symm ▸ hcontent, fun item hitem => (hkeys item).mpr (hkey item hitem), hnodup⟩

/-- A value is made as if it were the only one, whatever has been made before. -/
theorem reads_plainValue_of_apart (hv : Role d .value v) :
    Reads origin (Followed d d') True (plainValue v) ((View.of origin d.graph).value v) := by
  rintro s ⟨s', hs, hs'⟩
  have hT := completable_tame d
  have hreads : Reads origin (Undisturbed d') True (plainValue v) ((View.of origin d'.graph).value v) :=
    reads_plainValue (h.unshared hd) ((h.role_iff hd).mpr hv)
  obtain ⟨honly, hall⟩ := hreads s' hs'
  constructor
  · intro w t hrun
    obtain ⟨t', hrun', ht⟩ := (Yaml.Evaluation.simulates_completes hT).value hs
      (run_plainValue_eq_ok_iff.mp hrun)
    obtain ⟨ht', hw⟩ := honly w t' (run_plainValue_eq_ok_iff.mpr hrun')
    exact ⟨⟨t', ht, ht'⟩, (exists_value_iff h.completes_start).mpr hw⟩
  · rintro - w hw
    obtain ⟨t', hrun'⟩ := hall trivial w ((exists_value_iff h.completes_start).mp hw)
    obtain ⟨t, hrun⟩ := (exists_value_iff hs).mpr ⟨t', run_plainValue_eq_ok_iff.mp hrun'⟩
    exact ⟨t, run_plainValue_eq_ok_iff.mpr hrun⟩

/-- The reader sees the document as it was written. -/
theorem reflects_of_apart :
    (View.of origin d.graph).Reflects origin (Role d) (Followed d d') True where
  items called hrole s hs := by
    constructor
    · intro items s' hrun
      obtain ⟨rfl, hitems⟩ := run_items_eq_ok_iff.mp hrun
      exact ⟨hs, (hs.hasItems_iff h hd hrole).mp hitems⟩
    · exact fun _ items hitems =>
        ⟨s, run_items_eq_ok_iff.mpr ⟨rfl, (hs.hasItems_iff h hd hrole).mpr hitems⟩⟩
  string {id} called hrole s hs := by
    -- What is read as a text is none of the nodes that making a value changes.
    have hnode : s.graph.node id = d.graph.node id := hs.node h hd hrole fun heq => nomatch heq
    constructor
    · intro text s' hrun
      obtain ⟨rfl, hcontent, htag⟩ := run_string_eq_ok_iff.mp hrun
      exact ⟨hs, hnode ▸ hcontent, hnode ▸ htag⟩
    · rintro - text ⟨hcontent, htag⟩
      exact ⟨s, run_string_eq_ok_iff.mpr ⟨rfl, hnode.symm ▸ hcontent, hnode.symm ▸ htag⟩⟩
  value hrole := reads_plainValue_of_apart h hd hrole
  location id s hs := by
    constructor
    · intro l s' hrun
      obtain ⟨rfl, rfl⟩ := run_location_eq_ok_iff.mp hrun
      exact ⟨hs, hs.placeOf h⟩
    · rintro - _ rfl
      exact ⟨s, run_location_eq_ok_iff.mpr ⟨rfl, (hs.placeOf h).symm⟩⟩
  inside hrole hitems item hitem hplace := hrole.of_hasItems hitems hitem hplace
  nodup hitems := hitems.nodup

end Reading

end ModelReader

namespace Model

open ModelReader Yaml

/-- A document whose values are apart has the model that it declares as it was written. Nothing is left of
the order in which values are made. -/
theorem ofDocument_eq_ok_iff_isModel {origin : Origin} {d : Document} {m : Model} (h : Apart d) :
    ofDocument origin d = .ok m ↔ (View.of origin d.graph).IsModel d.root m := by
  obtain ⟨d', hahead⟩ := exists_ahead d
  rw [ofDocument_eq_ok_iff]
  obtain ⟨honly, hall⟩ := reads_document (reflects_of_apart hahead h) .root _
    ⟨_, hahead.completes_start, undisturbed_start d'⟩
  exact ⟨fun ⟨s, hrun⟩ => (honly m s hrun).2, hall trivial m⟩

end Model

end TermAudit
