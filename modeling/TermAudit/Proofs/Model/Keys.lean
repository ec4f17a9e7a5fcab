import TermAudit.Proofs.Index.Leaves
import TermAudit.Proofs.Model.Identity
import TermAudit.Proofs.OrderedMap
import TermAudit.Proofs.State
import TermAudit.Proofs.Yaml.Making

/-!
# `TermAudit.Proofs.Model.Keys`: no mapping has a key twice

A mapping in a value could be any list of entries. `Value.putEntry` keeps the keys of a mapping
different (`Value.keysDiffer_putEntry`), and all mappings that are made of a document are made with it.
So every value that is made has this property (`Yaml.Evaluation.keeps_keysDiffer`): values that are known
already have it, and making one keeps it.

It follows that the traits of a model that is read have it (`Model.keysDiffer_of_ofText`), and that the
paths of texts in them lead back if the keys are texts (`Model.pathsLeadBack_of_ofText`).
-/

set_option autoImplicit false

namespace TermAudit

/-! ## Mappings -/

namespace Value

variable {entries : List (Scalar × Value)} {k : Scalar} {v : Value}

/-- A mapping without entries has no two keys. -/
theorem keysDiffer_nil : KeysDiffer (.mapping []) :=
  .mapping .nil fun _ h => absurd h List.not_mem_nil

/-- A key that is put twice stays at its place and gets the new value, so keys differ afterwards. -/
theorem keysDiffer_putEntry (h : KeysDiffer (.mapping entries)) (hv : v.KeysDiffer) :
    KeysDiffer (.mapping (putEntry entries k v)) := by
  refine .mapping (Entries.pairwise_put h.here) fun e he => ?_
  exact (Entries.forall_put (K := fun _ => True) trivial hv (fun e he => ⟨trivial, h.entry he⟩) e he).2

end Value

/-! ## Values that are made -/

namespace Yaml.Evaluation

/-- In the values that are known, no mapping has a key twice. It is what making a value keeps, since parts
of the value come from those that are known. -/
def KeysDiffer (s : Evaluation) : Prop :=
  ∀ id v, s.known.lookup id = some v → v.KeysDiffer

/-- At the start no values are known. -/
theorem keysDiffer_start (g : Graph) : (start g).KeysDiffer :=
  fun _ _ h => nomatch h

/-- A value whose keys differ may be remembered. -/
theorem KeysDiffer.remember {s : Evaluation} {id : NodeId} {v : Value} (hs : s.KeysDiffer)
    (hv : v.KeysDiffer) : (s.remember id v).KeysDiffer := by
  intro other w hw
  by_cases heq : other = id
  · subst heq
    rw [lookup_remember_self] at hw
    cases hw
    exact hv
  · rw [lookup_remember_of_ne s v heq] at hw
    exact hs other w hw

/-- Merges change the graph and no values. -/
theorem maintains_mergedEntries (id : NodeId) :
    Maintains KeysDiffer (fun _ => True) (mergedEntries id) := by
  intro s es t hs hrun
  rw [run_mergedEntries] at hrun
  obtain ⟨⟨_, g⟩, -, heq⟩ := bind_eq_ok_iff.mp hrun
  cases heq
  exact ⟨hs, trivial⟩

/-- Values are made of others with keys that differ, and mappings by putting in entries. Each field is one
way to make a value. -/
theorem keeps_keysDiffer : Keeps KeysDiffer Value.KeysDiffer where
  merges := maintains_mergedEntries
  known hs hknown := hs _ _ hknown
  remember _ _ hs hv := hs.remember hv
  scalar x := .scalar x
  list h := .list h
  pair _ _ := .tuple _
  set elements := .set elements
  noEntries := Value.keysDiffer_nil
  putEntry := Value.keysDiffer_putEntry

end Yaml.Evaluation

/-! ## Models that are read -/

namespace ModelReader

open Yaml (Graph NodeId Evaluation)

/-- What merges leave of a document, and the keys of values. A value in this view is any one whose keys
differ, which is all that is to be said of it here. -/
def View.withKeys (origin : Origin) (g : Graph) : View :=
  { View.lasting origin g with value := fun _ v => v.KeysDiffer }

/-- Steps that keep something more of the states go as before. -/
theorem Reads.keeping {α : Type} {origin : Origin} {P P' : Evaluation → Prop} {x : Reading α}
    {R : α → Prop} (h : Reads origin P False x R)
    (hkeep : ∀ s a s', P' s → (x.run origin).run s = .ok (a, s') → P' s') :
    Reads origin (fun s => P s ∧ P' s) False x R := by
  intro s hs
  refine ⟨fun a s' hrun => ?_, False.elim⟩
  obtain ⟨hs', ha⟩ := (h s hs.1).1 a s' hrun
  exact ⟨⟨hs', hkeep s a s' hs.2 hrun⟩, ha⟩

/-- The reader sees values with keys that differ, wherever they are in the document. -/
theorem reflects_withKeys (origin : Origin) (g : Graph) :
    (View.withKeys origin g).Reflects origin (fun _ _ => True)
      (fun s => s.graph.StemsFrom g ∧ s.KeysDiffer) False := by
  have hlasting : (View.lasting origin g).Reflects origin (fun _ _ => True)
      (fun s => s.graph.StemsFrom g) False := reflects_lasting g
  -- Only making values adds to the values that are known.
  constructor
  · intro part id called hat
    refine (@View.Reflects.items _ _ _ _ _ hlasting part id called hat).keeping fun s _ s' hs hrun => ?_
    exact (run_items_eq_ok_iff.mp hrun).1 ▸ hs
  · intro id called hat
    refine (hlasting.string called hat).keeping fun s _ s' hs hrun => ?_
    exact (run_string_eq_ok_iff.mp hrun).1 ▸ hs
  · intro id hat s hs
    refine ⟨fun v s' hrun => ?_, False.elim⟩
    obtain ⟨hs', hv⟩ := Evaluation.keeps_keysDiffer.maintains_value id s v s' hs.2
      (run_plainValue_eq_ok_iff.mp hrun)
    exact ⟨⟨((hlasting.value hat s hs.1).1 v s' hrun).1, hs'⟩, hv⟩
  · intro id
    refine (hlasting.location id).keeping fun s _ s' hs hrun => ?_
    exact (run_location_eq_ok_iff.mp hrun).1 ▸ hs
  · intro _ _ _ _ _ _ _ _ _
    trivial
  · intro _ _ h
    exact h.1

end ModelReader

namespace Model

open ModelReader Yaml

variable {m : Model} {s : Shape} {t : Trait} {file text : Text}

/-- In the traits of a model that is read, no mapping has a key twice. Keys that are equal without looking
alike, such as a number and a truth value, count as one key here. -/
theorem keysDiffer_of_ofText (h : ofText file text = .ok m) (hs : s ∈ m.walk) (ht : t ∈ s.traits) :
    t.value.KeysDiffer := by
  unfold ofText at h
  split at h
  · cases h
    cases hs
  · rename_i d _
    -- Whatever the reader takes for a value comes from a state in which all known values are of this kind.
    obtain ⟨state, hrun⟩ := ofDocument_eq_ok_iff.mp h
    have hmodel := ((reads_document (reflects_withKeys ⟨file, text⟩ d.graph) trivial _
      ⟨.refl d.graph, Evaluation.keysDiffer_start d.graph⟩).1 m state hrun).2
    have htraits := traits_of_mem_walk (fun _ _ hitems => And.left hitems) hmodel hs
    rcases htraits with hempty | ⟨_, _, -, htraits⟩
    · rw [hempty] at ht
      cases ht
    · obtain ⟨item, -, hdeclared⟩ := exists_mem_of_forall₂_right htraits ht
      exact hdeclared.value
  · cases h
  · cases h

/-- The paths of texts in a trait of a model that is read lead back to them, if the keys of mappings are
texts. Of keys that are read, this is all that has to be asked. -/
theorem pathsLeadBack_of_ofText (h : ofText file text = .ok m) (hs : s ∈ m.walk) (ht : t ∈ s.traits)
    (htexts : t.value.HasTextKeys) : t.value.PathsLeadBack :=
  Value.pathsLeadBack (keysDiffer_of_ofText h hs ht) htexts

end Model

end TermAudit
