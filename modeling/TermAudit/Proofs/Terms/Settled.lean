import TermAudit.Proofs.Result
import TermAudit.Proofs.Terms.Data

/-!
# `TermAudit.Proofs.Terms.Settled`: tables that are made again of themselves

A table is resolved once. Its own terms, in the place of the built-in ones, make it again, because
nothing is left to be done: they are in lowercase, none is empty, and there is at least one. Without
any the built-in terms would be used instead.

* `TermMap.isSettled_iff`: the maps that are made again of themselves are those of this kind;
* `TermTable.isSettled_of_resolve`: the terms of every table are, if there are built-in terms at all;
* `TermsConfig.made_again`: a configuration is read again from its plain data, and its table is made
  again of its terms, whatever the built-in terms are by then.
-/

set_option autoImplicit false

namespace TermAudit

open TermTable

/-- The terms of the map are in lowercase, none is empty, and there is at least one. These are the maps
that are made again of themselves (`TermMap.isSettled_iff`). -/
structure TermMap.IsSettled (m : TermMap) : Prop where
  lowercase : ∀ term ∈ m.keys, term.lower = term
  noEmptyTerm : [] ∉ m.keys
  nonempty : m.isEmpty = false

namespace TermTable

variable {builtIn append replace : TermMap} {t : TermTable}

/-- There is something in a table if there is something in the built-in terms. -/
theorem isEmpty_eq_false_of_resolve (h : resolve builtIn append replace = .ok t)
    (hbuiltIn : builtIn.isEmpty = false) : t.terms.isEmpty = false := by
  obtain ⟨-, -, rfl⟩ := resolve_eq_ok_iff.mp h
  by_contra hempty
  rw [Bool.not_eq_false] at hempty
  have hused := eq_nil_of_lowered (keys_of_isEmpty hempty)
  unfold usedEntries at hused
  split at hused
  · rw [OrderedMap.isEmpty, (List.append_eq_nil_iff.mp hused).1] at hbuiltIn
    cases hbuiltIn
  · -- Terms that replace the built-in ones are there if they are used.
    rename_i hreplace
    exact hreplace (List.isEmpty_iff.mpr hused)

/-- A table that is made is settled, unless it is made of nothing. With no built-in terms and none
configured, there is an empty table, and it is not made again of itself. -/
theorem isSettled_of_resolve (h : resolve builtIn append replace = .ok t)
    (hbuiltIn : builtIn.isEmpty = false) : t.terms.IsSettled where
  lowercase _ hterm := lower_of_resolve h hterm
  noEmptyTerm := nil_notMem_keys_of_resolve h
  nonempty := isEmpty_eq_false_of_resolve h hbuiltIn

end TermTable

/-- There are built-in terms. -/
theorem TermMap.isEmpty_builtIn : TermMap.builtIn.isEmpty = false := by
  decide

/-- A map is made again of itself, whatever the built-in terms are, exactly if it is settled. The
conditions are those under which making a table changes nothing. -/
theorem TermMap.isSettled_iff {m : TermMap} :
    m.IsSettled ↔ ∀ builtIn, TermTable.resolve builtIn ∅ m = .ok ⟨m⟩ := by
  constructor
  · intro h builtIn
    refine resolve_eq_ok_iff.mpr ⟨Or.inl rfl, h.noEmptyTerm, ?_⟩
    unfold usedEntries
    rw [h.nonempty, if_neg Bool.false_ne_true, lowered_entries h.lowercase]
  · intro h
    exact isSettled_of_resolve (h TermMap.builtIn) TermMap.isEmpty_builtIn

/-- A configuration is read again from its plain data. Its table over the built-in terms is made again of
the terms in it, whatever the built-in terms are then. The terms of a table are in lowercase and not empty,
so making a table of them changes none. -/
theorem TermsConfig.made_again (c : TermsConfig) :
    ofValue c.toValue = .ok c ∧ ∀ t, c.table TermMap.builtIn = .ok t →
      ∀ builtIn, (TermsConfig.mk ∅ t.terms).table builtIn = .ok t :=
  ⟨ofValue_toValue c, fun _ h => TermMap.isSettled_iff.mp (isSettled_of_resolve h TermMap.isEmpty_builtIn)⟩

/-- A capital sigma at the end of a term has a lowercase form of its own, and keeps it. -/
theorem TermsConfig.made_again_finalSigma :
    ∃ t, (appendingOne "ΟΔΟΣ" "way").table TermMap.builtIn = .ok t ∧
      t.terms.contains "οδος" = true ∧
      ofValue (appendingOne "ΟΔΟΣ" "way").toValue = .ok (appendingOne "ΟΔΟΣ" "way") ∧
      ∀ builtIn, (TermsConfig.mk ∅ t.terms).table builtIn = .ok t := by
  obtain ⟨t, ht, hterm⟩ := exists_ok_of_toOption_any (p := fun t => t.terms.contains "οδος")
    (x := (appendingOne "ΟΔΟΣ" "way").table TermMap.builtIn) (by decide +kernel)
  obtain ⟨hread, htable⟩ := made_again (appendingOne "ΟΔΟΣ" "way")
  exact ⟨t, ht, hterm, hread, htable t ht⟩

end TermAudit
