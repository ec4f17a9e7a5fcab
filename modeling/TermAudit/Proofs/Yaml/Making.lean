import TermAudit.Proofs.State
import TermAudit.Proofs.Yaml.Following

/-!
# `TermAudit.Proofs.Yaml.Making`: what making values keeps

A value is made of values that are made before, or known already, and merges go on while this is done.
So a property of states and one of values go together (`Evaluation.Keeps`) if merges keep the first one,
if known values have the second one, and if values that are made of such values have it again. Then making
a value keeps both (`Evaluation.Keeps.maintains_value`).
-/

set_option autoImplicit false

namespace TermAudit.Yaml.Evaluation

/-- Merges keep the property of states, and the property of values goes from parts to the whole. There is
a field for each way in which a value is made, so an instance is a list of small facts. -/
structure Keeps (P : Evaluation → Prop) (Q : Value → Prop) : Prop where
  merges : ∀ id, Maintains P (fun _ => True) (mergedEntries id)
  known : ∀ {s id v}, P s → s.known.lookup id = some v → Q v
  remember : ∀ {s} id {v}, P s → Q v → P (s.remember id v)
  scalar : ∀ x, Q (.scalar x)
  list : ∀ {items}, (∀ v ∈ items, Q v) → Q (.list items)
  pair : ∀ {first second}, Q first → Q second → Q (.tuple [first, second])
  set : ∀ elements, Q (.set elements)
  noEntries : Q (.mapping [])
  putEntry : ∀ {entries k v}, Q (.mapping entries) → Q v → Q (.mapping (Value.putEntry entries k v))

namespace Keeps

variable {P : Evaluation → Prop} {Q : Value → Prop} (h : Keeps P Q)

section Collections

variable {value : NodeId → Evaluating Value} (hvalue : ∀ id, Maintains P Q (value id))

include h hvalue

/-- The entries of a mapping are put in one by one, after its merges, so the mapping has the property at
each step. -/
theorem maintains_mapping (id : NodeId) :
    Maintains P (fun entries => Q (.mapping entries)) (mapping value id) := by
  unfold mapping
  -- The entries that are left after merging are put into an empty mapping one by one.
  refine (h.merges id).bind fun entries _ => maintains_foldlM ?_ entries h.noEntries
  rintro made ⟨key, item⟩ hmade
  refine (hvalue key).bind fun k _ => ?_
  split
  · exact (hvalue item).bind fun v hv => maintains_pure (h.putEntry hmade hv)
  · exact maintains_get fun _ _ => maintains_lift fun _ h => nomatch h

/-- An item of pairs is made of two values with the property. -/
theorem maintains_pair (around item : NodeId) :
    Maintains P Q (do
      let (key, item) ← (← get).graph.singleEntry around item
      return Value.tuple [← value key, ← value item] : Evaluating Value) := by
  refine maintains_get fun s _ => (maintains_any _).bind ?_
  rintro ⟨key, item⟩ -
  exact (hvalue key).bind fun k hk => (hvalue item).bind fun v hv => maintains_pure (h.pair hk hv)

/-- Every kind of collection is made of values with the property, and so has it. -/
theorem maintains_collection (id : NodeId) : Maintains P Q (collection value id) := by
  unfold collection
  refine maintains_get fun s _ => ?_
  dsimp only
  split
  · exact (maintains_any _).bind fun ids _ =>
      (maintains_mapM hvalue ids).bind fun vs hvs => maintains_pure (h.list hvs)
  · exact (h.maintains_mapping hvalue id).bind fun entries hentries => maintains_pure hentries
  · exact (h.maintains_mapping hvalue id).bind fun entries _ => maintains_pure (h.set _)
  · exact (maintains_any _).bind fun ids _ =>
      (maintains_mapM (h.maintains_pair hvalue id) ids).bind fun pairs hpairs =>
        maintains_pure (h.list hpairs)
  · exact (maintains_any _).bind fun ids _ =>
      (maintains_mapM (h.maintains_pair hvalue id) ids).bind fun pairs hpairs =>
        maintains_pure (h.list hpairs)
  · exact maintains_get fun _ _ => maintains_lift fun _ h => nomatch h

/-- A value that is not known yet is a scalar or a collection. -/
theorem maintains_fresh (id : NodeId) : Maintains P Q (fresh value id) := by
  unfold fresh
  refine maintains_get fun s _ => ?_
  split
  · exact (maintains_any _).bind fun x _ => maintains_pure (h.scalar x)
  · exact h.maintains_collection hvalue id

end Collections

include h

/-- Making a value keeps the properties. -/
theorem maintains_valueIn (fuel : Nat) (around : List NodeId) (id : NodeId) :
    Maintains P Q (valueIn fuel around id) := by
  -- A value is known, or it is made of values that are made with less fuel.
  induction fuel generalizing around id with
  | zero =>
    intro s v t _ hrun
    cases hrun
  | succ fuel ih =>
    intro s v t hs hrun
    rcases run_valueIn_eq_ok_iff.mp hrun with ⟨hknown, rfl⟩ | ⟨-, -, t', hfresh, rfl⟩
    · exact ⟨hs, h.known hs hknown⟩
    · obtain ⟨ht', hv⟩ := h.maintains_fresh (fun id' => ih (id :: around) id') id s v t' hs hfresh
      exact ⟨h.remember id ht' hv, hv⟩

/-- So the value of a node keeps both properties, with the fuel that it is given. Induction on the fuel is
done once for all such properties. -/
theorem maintains_value (id : NodeId) : Maintains P Q (value id) :=
  maintains_get fun _ _ => h.maintains_valueIn _ [] id

end Keeps

end TermAudit.Yaml.Evaluation
