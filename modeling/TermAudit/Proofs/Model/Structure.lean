import TermAudit.Proofs.Model.Interpretation
import TermAudit.Proofs.Yaml.Sharing

/-!
# `TermAudit.Proofs.Model.Structure`: documents whose values share no merges

While the reader goes through the structure of a document it makes values, and the merges in these change
the graph on the way. If the nodes that merges change are all in one value each, and are no part of the
structure (`Unshared`), the reader takes no notice: each value is made as if it were the only one
(`reads_plainValue`).

`Undisturbed` is what the states of such a reading have in common.

Which nodes the reader takes, and at which places, can be told from the document as it was written (`Role`).
Places lead only to deeper ones, so these nodes can be listed (`mem_roles_iff`).
-/

set_option autoImplicit false

namespace TermAudit

namespace ModelReader

open Yaml (Graph NodeId Evaluation Document)
open Yaml.Evaluation (Recorded Begins)

/-! ## The structure of a document -/

/-- The reader takes the node of the document at the place, because the items around lead it there. A node
can have several roles, by aliases, and one place can have many nodes. -/
inductive Role (d : Document) : Place → NodeId → Prop
  | root : Role d (.mapping .document) d.root
  | inside {part : Part} {place : Place} {id keyNode value : NodeId} {key : Text}
    (h : Role d (.mapping part) id) (hentry : (keyNode, value) ∈ d.graph.entries id)
    (hkey : (d.graph.node keyNode).content = .scalar key) (hplace : part.inside key = some place) :
    Role d place value

/-- The nodes to which the items of a mapping lead from its place, with their own places. It computes what
`Role` says of one step. -/
def leadsTo (d : Document) : Place × NodeId → List (Place × NodeId)
  | (.mapping part, id) => (d.graph.entries id).filterMap fun e =>
    match (d.graph.node e.1).content with
    | .scalar key => (part.inside key).map fun place => (place, e.2)
    | _ => none
  | _ => []

/-- The nodes that the reader takes within so many steps from the root. Each role is found after as many
steps as its place is deep, or fewer. -/
def rolesWithin (d : Document) : Nat → List (Place × NodeId)
  | 0 => [(.mapping .document, d.root)]
  | n + 1 => rolesWithin d n ++ (rolesWithin d n).flatMap (leadsTo d)

/-- How far from the root the places are at most. Members can stand in a shape itself or under a key of their
own, and traits in a shape or in a member, so there are shorter ways as well. -/
def Place.depth : Place → Nat
  | .mapping .document => 0
  | .mapping .shapes => 1
  | .mapping .shape => 2
  | .mapping .members => 3
  | .mapping .member => 4
  | .mapping .traits => 5
  | .string | .value => 6

/-- Items lead to places farther from the root. -/
theorem depth_lt_of_inside {part : Part} {key : Text} {place : Place} (h : part.inside key = some place) :
    (Place.mapping part).depth < place.depth := by
  unfold Part.inside at h
  split at h
  all_goals repeat' split at h
  all_goals cases h
  all_goals decide

/-- More steps lead to more nodes. -/
theorem rolesWithin_subset {d : Document} {n m : Nat} (h : n ≤ m) : rolesWithin d n ⊆ rolesWithin d m := by
  induction h with
  | refl => exact List.Subset.refl _
  | step _ ih => exact List.Subset.trans ih (List.subset_append_left _ _)

/-- A node is taken after as many steps as its place is deep. -/
theorem Role.mem_rolesWithin {d : Document} {place : Place} {id : NodeId} (h : Role d place id) :
    (place, id) ∈ rolesWithin d place.depth := by
  induction h with
  | root => exact List.mem_singleton_self _
  | @inside part place id keyNode value key _ hentry hkey hplace ih =>
    refine rolesWithin_subset (depth_lt_of_inside hplace) (List.mem_append_right _ ?_)
    refine List.mem_flatMap.mpr ⟨_, ih, List.mem_filterMap.mpr ⟨_, hentry, ?_⟩⟩
    dsimp only
    rw [hkey]
    dsimp only
    rw [hplace]
    rfl

/-- Each step leads to nodes that the reader takes. -/
theorem role_of_mem_rolesWithin {d : Document} {n : Nat} {place : Place} {id : NodeId}
    (h : (place, id) ∈ rolesWithin d n) : Role d place id := by
  induction n generalizing place id with
  | zero =>
    obtain ⟨rfl, rfl⟩ := Prod.mk.inj (List.mem_singleton.mp h)
    exact .root
  | succ n ih =>
    rcases List.mem_append.mp h with h | h
    · exact ih h
    · -- A node that is added has been reached from a mapping, by a key that leads on.
      obtain ⟨⟨around, other⟩, hbefore, h⟩ := List.mem_flatMap.mp h
      cases around with
      | mapping part =>
        obtain ⟨e, he, hlead⟩ := List.mem_filterMap.mp h
        split at hlead
        · rename_i key hkey
          obtain ⟨_, hplace, heq⟩ := Option.map_eq_some_iff.mp hlead
          cases heq
          exact .inside (ih hbefore) he hkey hplace
        · cases hlead
      | string => cases h
      | value => cases h

/-- The nodes of the structure with their places. None is deeper than the values of traits. So the
conditions on a document that speak of roles can be checked for a document at hand. -/
def roles (d : Document) : List (Place × NodeId) :=
  rolesWithin d Place.value.depth

/-- These are the nodes that the reader takes. So whether a document has a property of all its roles can
be decided by going through a list. -/
theorem mem_roles_iff {d : Document} {place : Place} {id : NodeId} :
    (place, id) ∈ roles d ↔ Role d place id := by
  constructor
  · intro h
    exact role_of_mem_rolesWithin h
  · intro h
    refine rolesWithin_subset ?_ h.mem_rolesWithin
    rcases place with (_ | _ | _ | _ | _ | _) | _ | _ <;> decide

/-- So it can be computed at which places the reader takes a node. -/
instance (d : Document) (place : Place) (id : NodeId) : Decidable (Role d place id) :=
  decidable_of_iff _ mem_roles_iff

/-- What merges change inside of a value is in no other value and no part of the structure. It is stronger
than to be apart, and the document after its tame merges has it. -/
structure Unshared (d : Document) : Prop where
  value : ∀ {v v' id}, Role d .value v → Role d .value v' → d.graph.Inside v id →
    d.graph.Inside v' id → d.graph.Loose id → v = v'
  structural : ∀ {place v id}, Role d place id → place ≠ .value → Role d .value v →
    d.graph.Inside v id → ¬ d.graph.Loose id

/-- What can be seen of a document as it was written. A value is made as if it were the only one, which is
right as long as no other value has changed its nodes. -/
def View.of (origin : Origin) (g : Graph) : View where
  items := HasItems g
  string id text := (g.node id).content = .scalar text ∧ (g.node id).tag = .str
  value id v := ∃ t, (Evaluation.value id).run (.start g) = .ok (v, t)
  location := placeOf origin g

variable {origin : Origin} {d : Document} {s t : Evaluation} {id : NodeId}

/-- The record of a value that is inside of another one tells how it is made. -/
theorem Unshared.value_of_recorded (hd : Unshared d) {known : List (NodeId × Value)} {v v' : NodeId} {w : Value}
    (hv : Role d .value v) (hv' : Role d .value v') (hinside : d.graph.Inside v v') (hne : v' ≠ v)
    (hrecorded : Recorded d.graph known) (hw : known.lookup v' = some w) :
    ∃ t, (Evaluation.value v').run (.start d.graph) = .ok (w, t) := by
  have hsteady : d.graph.Steady v' := fun other hother hloose =>
    hne (hd.value hv' hv hother (hinside.trans hother) hloose)
  obtain ⟨t, hrun⟩ := Yaml.Evaluation.valueIn_of_recorded
    (Yaml.Evaluation.isSteady_inside hsteady) (d.graph.same_inside v') hrecorded
    Relation.ReflTransGen.refl hw (d.graph.same_inside v') (s := .start d.graph) .nil
    (fun _ h => absurd h List.not_mem_nil) (Yaml.Evaluation.lasts_nil _)
  exact ⟨t, (Yaml.Evaluation.run_value v' (.start d.graph)).trans hrun⟩

/-! ## States between values -/

/-- The nodes that merges may have changed: those inside of values that have been made. All other nodes
are as they were written. -/
def changed (d : Document) (s : Evaluation) : Set NodeId :=
  {id | d.graph.Loose id ∧ ∃ v, Role d .value v ∧ d.graph.Inside v id ∧ (s.known.lookup v).isSome}

/-- Some values of the document have been made, and each of them is what it would be by itself. It holds
at the start, and each step of a reading keeps it if values share no merges. -/
structure Undisturbed (d : Document) (s : Evaluation) : Prop where
  graph : Graph.ChangedIn (changed d s) d.graph s.graph
  recorded : Recorded d.graph s.known
  inside : ∀ id w, s.known.lookup id = some w →
    ∃ v, Role d .value v ∧ d.graph.Inside v id ∧ (s.known.lookup v).isSome
  made : ∀ v w, Role d .value v → s.known.lookup v = some w →
    ∃ t, (Evaluation.value v).run (.start d.graph) = .ok (w, t)

/-- At the start nothing has been made. -/
theorem undisturbed_start (d : Document) : Undisturbed d (.start d.graph) where
  graph := .refl _ _
  recorded := .nil
  inside _ _ h := nomatch h
  made _ _ _ h := nomatch h

section Unshared

variable (hd : Unshared d) (hs : Undisturbed d s)

include hd hs

/-- The structure is as it was written. -/
theorem Undisturbed.node {place : Place} (hrole : Role d place id) (hplace : place ≠ .value) :
    s.graph.node id = d.graph.node id := by
  refine hs.graph.node id ?_
  rintro ⟨hloose, v, hv, hinside, -⟩
  exact hd.structural hrole hplace hv hinside hloose

variable {v : NodeId} (hv : Role d .value v) (hnew : s.known.lookup v = none)

include hv hnew

/-- A value that has not been made is as it was written. -/
theorem Undisturbed.same : Graph.Same {id | d.graph.Inside v id} d.graph s.graph where
  size := hs.graph.size
  node id hid := by
    refine hs.graph.node id ?_
    rintro ⟨hloose, v', hv', hinside, hknown⟩
    rw [← hd.value hv hv' hid hinside hloose, hnew] at hknown
    cases hknown
  closed := (d.graph.same_inside v).closed

/-- Of a value that has not been made, only steady nodes can be known. -/
theorem Undisturbed.lookup_eq_none (hid : d.graph.Inside v id) (hsteady : ¬ d.graph.Steady id) :
    s.known.lookup id = none := by
  by_contra hne
  obtain ⟨w, hw⟩ := Option.ne_none_iff_exists'.mp hne
  obtain ⟨v', hv', hinside, hknown⟩ := hs.inside id w hw
  refine hsteady fun other hother hloose => ?_
  rw [← hd.value hv hv' (hid.trans hother) (hinside.trans hother) hloose, hnew] at hknown
  cases hknown

/-- A new value can be made here as from the start: the nodes inside of it are the same. -/
theorem Undisturbed.begins : Begins {id | d.graph.Inside v id} d.graph d.graph s (.start d.graph) where
  same := d.graph.same_inside v
  left := hs.same hd hv hnew
  right := d.graph.same_inside v

/-- The other way round, a value that can be made from the start can be made here. -/
theorem Undisturbed.begins_start :
    Begins {id | d.graph.Inside v id} d.graph d.graph (.start d.graph) s where
  same := d.graph.same_inside v
  left := d.graph.same_inside v
  right := hs.same hd hv hnew

/-- A new value is what it would be by itself, and nothing else is disturbed. -/
theorem Undisturbed.value_of_new {w : Value} (hrun : (Evaluation.value v).run s = .ok (w, t)) :
    Undisturbed d t ∧ ∃ t', (Evaluation.value v).run (.start d.graph) = .ok (w, t') := by
  -- No node of `v` that can still change has a value yet, so `v` is made here as from the start.
  have hbegins := hs.begins hd hv hnew
  have hself : v ∈ {id | d.graph.Inside v id} := Relation.ReflTransGen.refl
  obtain ⟨t', hrun', hmatches⟩ := Yaml.Evaluation.value_of_begins hbegins hself
    (hbegins.matches hs.recorded .nil fun id hid hsteady =>
      (hs.lookup_eq_none hd hv hnew hid hsteady).symm) hrun
  have hmade := Yaml.Evaluation.lookup_of_run_value hrun
  have hkeeps {other : NodeId} (h : (s.known.lookup other).isSome) : (t.known.lookup other).isSome := by
    obtain ⟨u, hu⟩ := Option.isSome_iff_exists.mp h
    exact Option.isSome_iff_exists.mpr ⟨u, hmatches.leftKeeps other u hu⟩
  refine ⟨⟨?_, hmatches.left, ?_, ?_⟩, t', hrun'⟩
  · -- The nodes changed before belong to other values, and those changed now to the new one.
    refine (hs.graph.mono ?_).trans (hmatches.graph.left.mono ?_)
    · rintro id ⟨hloose, v', hv', hinside, hknown⟩
      exact ⟨hloose, v', hv', hinside, hkeeps hknown⟩
    · rintro id ⟨hinside, hloose⟩
      exact ⟨hloose, v, hv, hinside, Option.isSome_iff_exists.mpr ⟨w, hmade⟩⟩
  · intro id u hu
    by_cases hinside : d.graph.Inside v id
    · exact ⟨v, hv, hinside, Option.isSome_iff_exists.mpr ⟨w, hmade⟩⟩
    · rw [hmatches.leftOutside id hinside] at hu
      obtain ⟨v', hv', hinside', hknown⟩ := hs.inside id u hu
      exact ⟨v', hv', hinside', hkeeps hknown⟩
  · -- Another value inside `v` has nothing loose in it, so its record tells how it is made by itself.
    intro v' u hv' hu
    by_cases hinside : d.graph.Inside v v'
    · by_cases heq : v' = v
      · rw [heq, hmade] at hu
        cases hu
        exact ⟨t', heq ▸ hrun'⟩
      · exact hd.value_of_recorded hv hv' hinside heq hmatches.left hu
    · rw [hmatches.leftOutside v' hinside] at hu
      exact hs.made v' u hv' hu

end Unshared

/-! ## Reading -/

/-- A value is made as if it were the only one, whatever has been made before. What is known of its nodes
is what would be made of them, and what was merged is in other values. -/
theorem reads_plainValue (hd : Unshared d) {v : NodeId} (hv : Role d .value v) :
    Reads origin (Undisturbed d) True (plainValue v) ((View.of origin d.graph).value v) := by
  intro s hs
  constructor
  · -- A value that was made before is the one that its first reading made.
    intro w s' hrun
    have hrun := run_plainValue_eq_ok_iff.mp hrun
    cases hknown : s.known.lookup v with
    | none => exact hs.value_of_new hd hv hknown hrun
    | some u =>
      rw [Yaml.Evaluation.run_value] at hrun
      rcases Yaml.Evaluation.run_valueIn_eq_ok_iff.mp hrun with ⟨hlookup, rfl⟩ | ⟨hnone, -⟩
      · exact ⟨hs, hs.made v w hv hlookup⟩
      · rw [hknown] at hnone
        cases hnone
  · rintro - w ⟨t, hrun⟩
    -- The value can be made from the start, so it can be made here: again, or by looking it up.
    suffices h : ∃ s', (Evaluation.value v).run s = .ok (w, s') by
      obtain ⟨s', h⟩ := h
      exact ⟨s', run_plainValue_eq_ok_iff.mpr h⟩
    cases hknown : s.known.lookup v with
    | none =>
      have hbegins := hs.begins_start hd hv hknown
      obtain ⟨s', hrun', -⟩ := Yaml.Evaluation.value_of_begins hbegins Relation.ReflTransGen.refl
        (hbegins.matches .nil hs.recorded fun id hid hsteady =>
          hs.lookup_eq_none hd hv hknown hid hsteady) hrun
      exact ⟨s', hrun'⟩
    | some u =>
      obtain ⟨t', hrun'⟩ := hs.made v u hv hknown
      rw [hrun] at hrun'
      cases hrun'
      refine ⟨s, ?_⟩
      rw [Yaml.Evaluation.run_value]
      exact Yaml.Evaluation.run_valueIn_eq_ok_iff.mpr (Or.inl ⟨hknown, rfl⟩)

end ModelReader

end TermAudit
