import TermAudit.Proofs.Terms.Occurrence
import TermAudit.Proofs.Terms.Table
import TermAudit.Proofs.Text.Case

/-!
# `TermAudit.Proofs.Terms.Search`: configured terms and the terms of a table

A table holds its terms in lowercase, and the search compares texts up to case. For a term without
`İ` it makes no difference which of the two is looked for (`findTerm_lower`). The lowercase form of
any other term is longer than the term, so it is not even found in the term itself
(`findTerm_lower_self`). `configured_term_found_iff` puts both together for the terms of a
configuration.
-/

set_option autoImplicit false

namespace TermAudit

open Text

/-- A search for the lowercase form of a term without `İ` gives what a search for the term does. The two
are equal up to case, and the search sees no more than that. -/
theorem findTerm_lower {term : Text} (h : CodePoint.ofChar 'İ' ∉ term) (text : Text) :
    findTerm text term.lower = findTerm text term :=
  findTerm_congr (fold_lower h) text

/-- The lowercase form of a term with `İ` is not found in the term. It is longer than the term, and what
is found is as long as what is looked for. -/
theorem findTerm_lower_self {term : Text} (h : CodePoint.ofChar 'İ' ∈ term) :
    findTerm term term.lower = none := by
  refine findTerm_eq_none_iff.mpr ?_
  rintro ⟨-, hoccurs⟩
  have hlength := hoccurs.length_le
  rw [length_lower] at hlength
  have hcount := List.count_pos_iff.mpr h
  omega

/-- A text contains itself. -/
theorem findTerm_append (before : Text) {term : Text} (after : Text) (h : term ≠ []) :
    (findTerm (before ++ term ++ after) term).isSome = true :=
  findTerm_isSome_iff.mpr ⟨h, occurs_append before term after⟩

/-- A term is reported exactly if it is one of the terms of the map and is found. -/
theorem TermMap.mem_scan_iff {terms : TermMap} {text : Text} {found : TermMatch} :
    found ∈ terms.scan text ↔
      found.term ∈ terms.keys ∧ findTerm text found.term = some found.matched := by
  unfold scan
  rw [List.mem_filterMap]
  constructor
  · rintro ⟨term, hterm, hfound⟩
    rw [Option.map_eq_some_iff] at hfound
    obtain ⟨matched, hmatched, rfl⟩ := hfound
    exact ⟨hterm, hmatched⟩
  · rintro ⟨hterm, hmatched⟩
    exact ⟨found.term, hterm, by rw [hmatched]; rfl⟩

/-- For a term of a configuration that resolves, a search for the term in the table agrees with a
search for the term as it was written exactly if there is no `İ` in it. Just then every text that
has the term as it was written is reported for it. -/
theorem configured_term_found_iff {builtIn : TermMap} {c : TermsConfig} {t : TermTable}
    (h : c.table builtIn = .ok t) {term : Text}
    (hterm : term ∈ c.append.keys ∨ term ∈ c.replace.keys) :
    ((∀ text, findTerm text term.lower = findTerm text term) ↔ CodePoint.ofChar 'İ' ∉ term) ∧
      ((∀ before after, ∃ found ∈ t.terms.scan (before ++ term ++ after),
        found.term = term.lower) ↔ CodePoint.ofChar 'İ' ∉ term) := by
  have hkey := TermTable.lower_mem_keys_of_table h hterm
  have hnonempty : term ≠ [] := by
    rintro rfl
    exact TermTable.nil_notMem_keys_of_resolve h hkey
  -- The term stands in itself, which is the text that tells the two searches apart.
  have hself := findTerm_append [] [] hnonempty
  rw [List.nil_append, List.append_nil] at hself
  constructor
  · constructor
    · intro hsame hdot
      rw [← hsame, findTerm_lower_self hdot] at hself
      cases hself
    · exact findTerm_lower
  · constructor
    · intro hreported hdot
      obtain ⟨found, hfound, hlower⟩ := hreported [] []
      have hmatched := (TermMap.mem_scan_iff.mp hfound).2
      rw [hlower, List.nil_append, List.append_nil, findTerm_lower_self hdot] at hmatched
      cases hmatched
    · intro hdot before after
      have hsome := findTerm_append before after hnonempty
      rw [← findTerm_lower hdot, Option.isSome_iff_exists] at hsome
      obtain ⟨matched, hmatched⟩ := hsome
      exact ⟨⟨term.lower, matched⟩, TermMap.mem_scan_iff.mpr ⟨hkey, hmatched⟩, rfl⟩

/-- A configuration that appends a single term. -/
def TermsConfig.appending (term : Text) : TermsConfig :=
  ⟨.ofList [(term, [])], ∅⟩

/-- The theorem at a term with capitals, which is found as it was written. -/
theorem configured_term_found_iff_capitals :
    ∃ t, (TermsConfig.appending "BlackHat").table TermMap.builtIn = .ok t ∧
      ((∀ text, findTerm text (lower "BlackHat") = findTerm text "BlackHat") ↔
        CodePoint.ofChar 'İ' ∉ Text.ofString "BlackHat") ∧
      ((∀ before after, ∃ found ∈ t.terms.scan (before ++ ("BlackHat" : Text) ++ after),
        found.term = lower "BlackHat") ↔ CodePoint.ofChar 'İ' ∉ Text.ofString "BlackHat") := by
  have htable : (TermsConfig.appending "BlackHat").table TermMap.builtIn =
      .ok ⟨TermMap.lowered (TermMap.builtIn.entries ++ [(("BlackHat" : Text), [])])⟩ := rfl
  exact ⟨_, htable, configured_term_found_iff htable (Or.inl (by decide))⟩

/-- The term `İ` can be configured, but a search for it in the table misses it. Its lowercase form has two
code points there, and one code point in a text is never equal to two. -/
theorem configured_dotted_term_missed :
    ∃ t, (TermsConfig.appending "İ").table TermMap.builtIn = .ok t ∧
      findTerm "İ" "İ" = some "İ" ∧ findTerm "İ" (lower "İ") = none ∧ t.terms.scan "İ" = [] :=
  ⟨_, rfl, by decide +kernel, by decide +kernel, by decide +kernel⟩

end TermAudit
