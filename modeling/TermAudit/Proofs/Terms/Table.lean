import TermAudit.Proofs.OrderedMap
import TermAudit.Proofs.Text.Case
import TermAudit.Terms.Config

/-!
# `TermAudit.Proofs.Terms.Table`: the terms of a resolved table

`TermTable.resolve` either refuses a configuration or gives the table of its used entries in
lowercase. `TermTable.resolve_eq_ok_iff` says when it does which. Three facts about the terms of a
table follow for every configuration that resolves: none of them is empty
(`nil_notMem_keys_of_resolve`), every configured term is there in lowercase
(`lower_mem_keys_of_table`), and the terms alone make the table again (`table_config`).
-/

set_option autoImplicit false

namespace TermAudit

namespace TermTable

/-- The entries that a table is made of: those of `replace` if it has any, or else the built-in ones and
those of `append`. So `append` has no say where `replace` has any term. -/
def usedEntries (builtIn append replace : TermMap) : List (Text × List Text) :=
  if replace.isEmpty then builtIn.entries ++ append.entries else replace.entries

/-- A table is refused if terms are appended and replaced at once, or if a term is empty. Otherwise it has
the used entries in lowercase. -/
theorem resolve_eq_ok_iff {builtIn append replace : TermMap} {t : TermTable} :
    resolve builtIn append replace = .ok t ↔
      (append.isEmpty = true ∨ replace.isEmpty = true) ∧ [] ∉ t.terms.keys ∧
        t = ⟨TermMap.lowered (usedEntries builtIn append replace)⟩ := by
  unfold resolve
  by_cases hboth : (!append.isEmpty && !replace.isEmpty) = true
  · rw [if_pos hboth]
    simp only [Bool.and_eq_true, Bool.not_eq_true'] at hboth
    simp [hboth.1, hboth.2]
  · rw [if_neg hboth]
    -- One of the two is empty now, so all depends on whether an empty term is among the keys.
    have hone : append.isEmpty = true ∨ replace.isEmpty = true := by
      revert hboth
      cases append.isEmpty <;> cases replace.isEmpty <;> simp
    simp only [hone, true_and]
    rw [show (if replace.isEmpty then builtIn.entries ++ append.entries else replace.entries) =
      usedEntries builtIn append replace from rfl]
    by_cases hempty : (TermMap.lowered (usedEntries builtIn append replace)).contains [] = true
    · rw [if_pos hempty]
      rw [OrderedMap.contains_iff] at hempty
      constructor
      · intro h
        cases h
      · rintro ⟨hnot, rfl⟩
        exact absurd hempty hnot
    · rw [if_neg hempty]
      rw [OrderedMap.contains_iff] at hempty
      constructor
      · intro h
        cases h
        exact ⟨hempty, rfl⟩
      · rintro ⟨-, rfl⟩
        rfl

/-- No table has the empty term: it is refused. -/
theorem nil_notMem_keys_of_resolve {builtIn append replace : TermMap} {t : TermTable}
    (h : resolve builtIn append replace = .ok t) : [] ∉ t.terms.keys :=
  (resolve_eq_ok_iff.mp h).2.1

/-- A map without entries has no keys. -/
theorem keys_of_isEmpty {m : TermMap} (h : m.isEmpty = true) : m.keys = [] := by
  rw [OrderedMap.isEmpty, List.isEmpty_iff] at h
  rw [OrderedMap.keys, h, List.map_nil]

/-- Every term of a configuration that resolves is used. -/
theorem mem_usedEntries_of_mem_keys {builtIn append replace : TermMap} {t : TermTable}
    (h : resolve builtIn append replace = .ok t) {term : Text}
    (hterm : term ∈ append.keys ∨ term ∈ replace.keys) :
    term ∈ (usedEntries builtIn append replace).map Prod.fst := by
  have hone := (resolve_eq_ok_iff.mp h).1
  unfold usedEntries
  by_cases hreplace : replace.isEmpty = true
  · rw [if_pos hreplace, List.map_append, List.mem_append]
    rw [keys_of_isEmpty hreplace] at hterm
    exact Or.inr (hterm.resolve_right (by simp))
  · rw [if_neg hreplace]
    rw [keys_of_isEmpty (hone.resolve_right hreplace)] at hterm
    exact hterm.resolve_left (by simp)

/-- A configured term is in the table in lowercase. Its suggestions there can be those of another
spelling. -/
theorem lower_mem_keys_of_table {builtIn : TermMap} {c : TermsConfig} {t : TermTable}
    (h : c.table builtIn = .ok t) {term : Text}
    (hterm : term ∈ c.append.keys ∨ term ∈ c.replace.keys) : term.lower ∈ t.terms.keys := by
  have hused := mem_usedEntries_of_mem_keys h hterm
  obtain ⟨-, -, rfl⟩ := resolve_eq_ok_iff.mp h
  unfold TermMap.lowered
  rw [OrderedMap.mem_keys_ofList, List.map_map]
  rw [List.mem_map] at hused ⊢
  obtain ⟨e, he, rfl⟩ := hused
  exact ⟨e, he, rfl⟩

/-- A map whose terms are in lowercase stays as it is. -/
theorem lowered_entries {m : TermMap} (h : ∀ term ∈ m.keys, term.lower = term) :
    TermMap.lowered m.entries = m := by
  have hentries : (m.entries.map fun e => (e.1.lower, e.2)) = m.entries := by
    refine (List.map_congr_left fun e he => ?_).trans (List.map_id m.entries)
    exact Prod.ext (h e.1 (List.mem_map_of_mem he)) rfl
  show OrderedMap.ofList (m.entries.map fun e => (e.1.lower, e.2)) = m
  rw [hentries, OrderedMap.ofList_entries]

/-- The terms of a resolved table are in lowercase. -/
theorem lower_of_resolve {builtIn append replace : TermMap} {t : TermTable}
    (h : resolve builtIn append replace = .ok t) {term : Text} (hterm : term ∈ t.terms.keys) :
    term.lower = term := by
  obtain ⟨-, -, rfl⟩ := resolve_eq_ok_iff.mp h
  unfold TermMap.lowered at hterm
  rw [OrderedMap.mem_keys_ofList, List.map_map] at hterm
  obtain ⟨e, -, rfl⟩ := List.mem_map.mp hterm
  exact Text.lower_lower e.1

/-- Only no terms at all make a map without terms. -/
theorem eq_nil_of_lowered {entries : List (Text × List Text)}
    (h : (TermMap.lowered entries).keys = []) : entries = [] := by
  refine List.eq_nil_iff_forall_not_mem.mpr fun e he => ?_
  have hmem : e.1.lower ∈ (TermMap.lowered entries).keys := by
    unfold TermMap.lowered
    rw [OrderedMap.mem_keys_ofList, List.map_map]
    exact List.mem_map.mpr ⟨e, he, rfl⟩
  rw [h] at hmem
  exact List.not_mem_nil hmem

/-- A table is made again of its own terms in the place of the built-in ones. If it has no terms, the
built-in ones are used, and there are none then. -/
theorem table_config {builtIn : TermMap} {c : TermsConfig} {t : TermTable}
    (h : c.table builtIn = .ok t) : (TermsConfig.mk ∅ t.terms).table builtIn = .ok t := by
  have hlowered := lowered_entries fun term hterm => lower_of_resolve h hterm
  refine resolve_eq_ok_iff.mpr ⟨Or.inl rfl, nil_notMem_keys_of_resolve h, ?_⟩
  unfold usedEntries
  split
  · -- Only of no terms at all a table without terms is made, so there are no built-in ones.
    rename_i hempty
    obtain ⟨-, -, rfl⟩ := resolve_eq_ok_iff.mp h
    have hused := eq_nil_of_lowered (keys_of_isEmpty hempty)
    have hbuiltIn : builtIn.entries = [] := by
      unfold usedEntries at hused
      split at hused
      · exact (List.append_eq_nil_iff.mp hused).1
      · rename_i hreplace
        exact absurd (List.isEmpty_iff.mpr hused) hreplace
    rw [hused, hbuiltIn]
    rfl
  · rw [hlowered]

end TermTable

end TermAudit
