import TermAudit.Proofs.Yaml.Locality
import TermAudit.Proofs.Yaml.Making

/-!
# `TermAudit.Proofs.Yaml.Taken`: where the entries of a mapping come from

Merges move entries from one mapping to another. `Graph.Takes` says which entries a mapping can come to
have: its own, and those of the mappings that it merges. `Graph.MergedFrom` is the invariant of merges:
whatever entries a mapping has after any number of them, it takes them in this sense in the graph before.

* `Graph.reports_mergeInto_mergedFrom`: a merge keeps the invariant;
* `Evaluation.keeps_mergedFrom`: so does making a value.
-/

set_option autoImplicit false

namespace TermAudit.Yaml

namespace Graph

/-- The mapping has the entry itself, or it takes it over from another mapping: the value of a key `<<`,
or an item of such a value. It says which entries are possible, and not which of several with one key
counts. -/
inductive Takes (g : Graph) : NodeId → NodeId × NodeId → Prop
  | own {id : NodeId} {e : NodeId × NodeId} (h : e ∈ g.entries id) : Takes g id e
  | merged {id key source : NodeId} {e : NodeId × NodeId} (h : Takes g id (key, source))
    (hkey : g.isMergeKey key = true) (he : Takes g source e) : Takes g id e
  | mergedItem {id key source item : NodeId} {items : List NodeId} {e : NodeId × NodeId}
    (h : Takes g id (key, source)) (hkey : g.isMergeKey key = true)
    (hitems : (g.node source).content = .sequence items) (hitem : item ∈ items) (he : Takes g item e) :
    Takes g id e

/-- The graph comes from `g` by merges: mappings have only entries that they take in `g`, and sequences
have kept their items. It is an invariant of a whole evaluation. -/
structure MergedFrom (g' g : Graph) : Prop extends StemsFrom g' g where
  sequence : ∀ id items, (g'.node id).content = .sequence items →
    (g.node id).content = .sequence items
  takes : ∀ id, ∀ e ∈ g'.entries id, g.Takes id e

variable {g g₀ : Graph} {id source : NodeId} {es others taken : List (NodeId × NodeId)}

/-- Without merges the mappings have their own entries. -/
theorem MergedFrom.refl (g : Graph) : g.MergedFrom g where
  toStemsFrom := .refl g
  sequence _ _ h := h
  takes _ _ h := .own h

/-! ## Steps of a merge -/

/-- A mapping may be given entries that it takes. -/
theorem MergedFrom.setEntries (h : g.MergedFrom g₀) (hes : ∀ e ∈ es, g₀.Takes id e) :
    (g.setEntries id es).MergedFrom g₀ where
  toStemsFrom := (stemsFrom_setEntries g id es).trans h.toStemsFrom
  sequence other items hitems := by
    unfold Graph.setEntries at hitems
    rw [node_set] at hitems
    split at hitems
    · cases hitems
    · exact h.sequence other items hitems
  takes other e he := by
    -- A node that the graph does not have cannot be given entries.
    by_cases heq : other = id ∧ id < g.size
    · obtain ⟨rfl, hid⟩ := heq
      rw [entries_setEntries hid] at he
      exact hes e he
    · have hsame : (g.setEntries id es).entries other = g.entries other := by
        unfold Graph.entries Graph.setEntries
        rw [node_set, if_neg heq]
      rw [hsame] at he
      exact h.takes other e he

/-- Making keys plain gives no mapping another entry. -/
theorem MergedFrom.plainKeys (h : g.MergedFrom g₀) (es : List (NodeId × NodeId)) :
    (g.plainKeys es).MergedFrom g₀ where
  toStemsFrom := (stemsFrom_plainKeys g es).trans h.toStemsFrom
  sequence other items hitems := by
    rw [content_plainKeys] at hitems
    exact h.sequence other items hitems
  takes other e he := by
    unfold Graph.entries at he
    rw [content_plainKeys] at he
    exact h.takes other e he

/-- At the end of a merge the mapping has its own entries and those it has taken over. -/
theorem MergedFrom.finishMerge (h : g.MergedFrom g₀) (htaken : ∀ e ∈ taken, g₀.Takes id e) :
    (g.finishMerge id taken).MergedFrom g₀ := by
  unfold Graph.finishMerge
  refine (h.plainKeys (g.entries id)).setEntries fun e he => ?_
  rcases List.mem_append.mp he with he | he
  · exact htaken e he
  · exact h.takes id e he

/-- What is split off is the value of a key `<<`. -/
theorem exists_key_of_splitMerge (h : g.splitMerge es = some (source, others)) :
    ∃ key, (key, source) ∈ es ∧ g.isMergeKey key = true := by
  induction es generalizing others with
  | nil => cases h
  | cons e es ih =>
    obtain ⟨key, value⟩ := e
    unfold splitMerge at h
    split at h
    · rename_i hkey
      cases h
      exact ⟨key, List.mem_cons_self, beq_iff_eq.mpr hkey⟩
    · obtain ⟨⟨source', others'⟩, hsplit, heq⟩ := Option.map_eq_some_iff.mp h
      cases heq
      obtain ⟨key', hmem, hkey⟩ := ih hsplit
      exact ⟨key', List.mem_cons_of_mem _ hmem, hkey⟩

/-- The mapping takes what the mappings that it merges take. -/
theorem reports_mergeSources_takes (h : g.MergedFrom g₀) {user key : NodeId}
    (htakes : g₀.Takes user (key, source)) (hkey : g₀.isMergeKey key = true) :
    Reports (fun sources => ∀ other ∈ sources, ∀ e, g₀.Takes other e → g₀.Takes user e)
      (g.mergeSources user source) := by
  unfold mergeSources
  split
  · refine reports_pure fun other hother e he => ?_
    cases List.mem_singleton.mp hother
    exact .merged htakes hkey he
  · rename_i items hitems
    exact reports_pure fun other hother e he =>
      .mergedItem htakes hkey (h.sequence source items hitems) hother he
  · exact Or.inr ⟨_, rfl⟩

/-- A merge gives entries to mappings that take them. Induction on the fuel, with what has been taken so
far as the part that is known to be right. -/
theorem reports_mergeInto_mergedFrom (fuel : Nat) (h : g.MergedFrom g₀)
    (htaken : ∀ e ∈ taken, g₀.Takes id e) :
    Reports (fun g' => g'.MergedFrom g₀) (mergeInto fuel g id taken) := by
  induction fuel generalizing g id taken with
  | zero => exact reports_pure (h.finishMerge htaken)
  | succ fuel ih =>
    unfold mergeInto
    split
    · exact reports_pure (h.finishMerge htaken)
    · rename_i source others hsplit
      obtain ⟨-, hothers, -⟩ := splitMerge_eq_some hsplit
      obtain ⟨key, hentry, hkey⟩ := exists_key_of_splitMerge hsplit
      -- A key `<<` was one from the beginning, as merges make none.
      rw [h.toStemsFrom.isMergeKey] at hkey
      have hset : (g.setEntries id others).MergedFrom g₀ :=
        h.setEntries fun e he => h.takes id e (hothers he)
      refine (reports_mergeSources_takes hset (h.takes id _ hentry) hkey).bind fun sources hsources => ?_
      -- The sources are merged one after the other, and their entries are put by.
      refine Reports.bind (P := fun r => r.1.MergedFrom g₀ ∧ ∀ e ∈ r.2.flatten, g₀.Takes id e) ?_ ?_
      · refine reports_foldlM ?_ ⟨hset, fun e he => absurd he List.not_mem_nil⟩
        rintro source hsource ⟨g', found⟩ ⟨hg', hfound⟩
        dsimp only
        split
        · have hnone : ∀ e ∈ ([] : List (NodeId × NodeId)), g₀.Takes source e :=
            fun e he => absurd he List.not_mem_nil
          refine (ih hg' hnone).bind fun g'' hg'' => reports_pure ⟨hg'', fun e he => ?_⟩
          rw [List.flatten_cons] at he
          rcases List.mem_append.mp he with he | he
          · exact hsources source hsource e (hg''.takes source e he)
          · exact hfound e he
        · exact Or.inr ⟨_, rfl⟩
      · rintro ⟨g', found⟩ ⟨hg', hfound⟩
        refine ih hg' fun e he => ?_
        rcases List.mem_append.mp he with he | he
        · exact htaken e he
        · exact hfound e he

/-- What is asked for the entries of a mapping merges them, or reports why not. -/
theorem reports_mergedEntries_mergedFrom (id : NodeId) (h : g.MergedFrom g₀) :
    Reports (fun r => r.2.MergedFrom g₀) (g.mergedEntries id) := by
  unfold mergedEntries
  split
  · have hnone : ∀ e ∈ ([] : List (NodeId × NodeId)), g₀.Takes id e :=
      fun e he => absurd he List.not_mem_nil
    exact (reports_mergeInto_mergedFrom _ h hnone).bind fun g' hg' => reports_pure hg'
  · exact Or.inr ⟨_, rfl⟩

end Graph

namespace Evaluation

/-- The invariant holds of the states in which values are made, as these change the graph by merges
alone. -/
theorem maintains_mergedEntries_mergedFrom (g : Graph) (id : NodeId) :
    Maintains (fun s => s.graph.MergedFrom g) (fun _ => True) (mergedEntries id) := by
  intro s es t hs hrun
  rw [run_mergedEntries] at hrun
  obtain ⟨⟨_, g'⟩, hmerged, heq⟩ := bind_eq_ok_iff.mp hrun
  cases heq
  rcases Graph.reports_mergedEntries_mergedFrom id hs with ⟨r, hr, hg'⟩ | ⟨report, hr⟩
  · rw [hmerged] at hr
    cases hr
    exact ⟨hg', trivial⟩
  · rw [hmerged] at hr
    cases hr

/-- Values do not matter to merges, so any value will do. -/
theorem keeps_mergedFrom (g : Graph) : Keeps (fun s => s.graph.MergedFrom g) fun _ => True where
  merges := maintains_mergedEntries_mergedFrom g
  known _ _ := trivial
  remember _ _ hs _ := hs
  scalar _ := trivial
  list _ := trivial
  pair _ _ := trivial
  set _ := trivial
  noEntries := trivial
  putEntry _ _ := trivial

end Evaluation

end TermAudit.Yaml
