import Mathlib.Data.List.Induction
import TermAudit.Proofs.Terms.Table

/-!
# `TermAudit.Proofs.Terms.Resolution`: which table a configuration makes

`TermTable.resolve` looks at the entries that a table is made of, `TermTable.usedEntries`, in their
order. The theorems say what it makes of them, whatever they are:

* `resolve_eq_error_iff`: it refuses them if terms are appended and replaced at once, and otherwise
  if a term is empty. No other term has an empty lowercase form (`Text.lower_eq_nil_iff`).
* `TermMap.IsResolved`: a table has the lowercase forms of the terms, each at the place of the first
  term that has it, with the suggestions of the last one (`TermMap.lastSuggestions`).
* `resolve_refused_iff`: entries that are not refused make a table of this kind, and no other table
  is of this kind.
-/

set_option autoImplicit false

namespace TermAudit

/-- Only the empty text has an empty lowercase form, as every code point has at least one in its form. So
the empty term cannot come about by making letters small. -/
theorem Text.lower_eq_nil_iff {t : Text} : t.lower = [] ↔ t = [] := by
  constructor
  · intro h
    have hlength := Text.length_lower t
    rw [h, List.length_nil] at hlength
    exact List.length_eq_zero_iff.mp (by omega)
  · rintro rfl
    rfl

namespace TermMap

/-- The suggestions of the last entry whose term has the lowercase form. Entries can spell a term in
several ways, and they are put into the table one after the other. -/
def lastSuggestions (form : Text) (entries : List (Text × List Text)) : Option (List Text) :=
  (entries.filter fun e => e.1.lower == form).getLast?.map Prod.snd

/-- The terms of a table that is made of the entries. The place of a term is that of its first entry,
while its suggestions are those of its last, as a mapping that is filled does it. -/
structure IsResolved (entries : List (Text × List Text)) (terms : TermMap) : Prop where
  keys : terms.keys = (entries.map fun e => e.1.lower).eraseDups
  different : terms.keys.Nodup
  nonempty : [] ∉ terms.keys
  lowercase : ∀ term ∈ terms.keys, term.lower = term
  suggestions : ∀ term ∈ terms.keys, terms.get? term = lastSuggestions term entries

/-- Of two parts of the entries the second one counts where it has the form, and the first one elsewhere. -/
theorem lastSuggestions_append (form : Text) (first second : List (Text × List Text)) :
    lastSuggestions form (first ++ second) =
      (lastSuggestions form second).or (lastSuggestions form first) := by
  unfold lastSuggestions
  rw [List.filter_append, List.getLast?_append]
  cases (second.filter fun e => e.1.lower == form).getLast? <;> rfl

/-- The terms of the table are the lowercase forms, each at the place where it comes first. -/
theorem keys_lowered (entries : List (Text × List Text)) :
    (lowered entries).keys = (entries.map fun e => e.1.lower).eraseDups := by
  unfold lowered
  rw [OrderedMap.keys_ofList, List.map_map]
  rfl

/-- The suggestions for a lowercase form are those of the last entry that has it. Induction from the
end of the entries, where the last one is. -/
theorem get?_lowered (entries : List (Text × List Text)) (form : Text) :
    (lowered entries).get? form = lastSuggestions form entries := by
  unfold lowered
  rw [OrderedMap.get?_ofList]
  induction entries using List.reverseRecOn with
  | nil => rfl
  | append_singleton entries e ih =>
    -- Read backwards, the last entry is the first that can have the form.
    rw [List.map_append, List.reverse_append, List.map_singleton, List.reverse_singleton,
      List.singleton_append, OrderedMap.lookup_cons_eq, ih, lastSuggestions_append]
    by_cases h : form = e.1.lower
    · simp [lastSuggestions, h]
    · have hne : ¬ e.1.lower = form := fun heq => h heq.symm
      simp [lastSuggestions, h, hne]

/-- A form is in the table exactly if an entry has it. -/
theorem mem_keys_lowered {entries : List (Text × List Text)} {form : Text} :
    form ∈ (lowered entries).keys ↔ ∃ e ∈ entries, e.1.lower = form := by
  rw [keys_lowered, List.mem_eraseDups, List.mem_map]

/-- Only an empty term makes an empty one. -/
theorem nil_mem_keys_lowered_iff {entries : List (Text × List Text)} :
    [] ∈ (lowered entries).keys ↔ [] ∈ entries.map Prod.fst := by
  rw [mem_keys_lowered, List.mem_map]
  simp only [Text.lower_eq_nil_iff]

/-- The table made of entries is as it should be, if no entry has the empty term. -/
theorem isResolved_lowered {entries : List (Text × List Text)} (h : [] ∉ entries.map Prod.fst) :
    IsResolved entries (lowered entries) where
  keys := keys_lowered entries
  different := (lowered entries).nodup
  nonempty hnil := h (nil_mem_keys_lowered_iff.mp hnil)
  lowercase term hterm := by
    obtain ⟨e, -, rfl⟩ := mem_keys_lowered.mp hterm
    exact Text.lower_lower e.1
  suggestions term _ := get?_lowered entries term

/-- The entries decide about all of the table. -/
theorem IsResolved.eq_lowered {entries : List (Text × List Text)} {terms : TermMap}
    (h : IsResolved entries terms) : terms = lowered entries := by
  refine OrderedMap.ext_get? (h.keys.trans (keys_lowered entries).symm) fun term hterm => ?_
  rw [h.suggestions term hterm, get?_lowered]

end TermMap

namespace TermTable

open TermMap

/-- Terms that make no table: they are to be appended and put in place of others at once, or one of those
that are used is empty. An empty term would be found everywhere. -/
def Refused (builtIn append replace : TermMap) : Prop :=
  (append.isEmpty = false ∧ replace.isEmpty = false) ∨
    [] ∈ (usedEntries builtIn append replace).map Prod.fst

/-- The built-in terms are used with those that are appended, unless there are terms that replace them. -/
theorem keys_usedEntries (builtIn append replace : TermMap) :
    (usedEntries builtIn append replace).map Prod.fst =
      if replace.isEmpty then builtIn.keys ++ append.keys else replace.keys := by
  unfold usedEntries
  split
  · exact List.map_append
  · rfl

/-- Which error there is. That terms are appended and replaced at once is told before anything about the
terms themselves. -/
theorem resolve_eq_error_iff {builtIn append replace : TermMap} {error : TableError} :
    resolve builtIn append replace = .error error ↔
      if append.isEmpty = false ∧ replace.isEmpty = false then error = .appendAndReplace
      else [] ∈ (usedEntries builtIn append replace).map Prod.fst ∧ error = .emptyTerm := by
  have hused : (if replace.isEmpty then builtIn.entries ++ append.entries else replace.entries) =
      usedEntries builtIn append replace := rfl
  have hcond : (!append.isEmpty && !replace.isEmpty) = true ↔
      append.isEmpty = false ∧ replace.isEmpty = false := by
    rw [Bool.and_eq_true, Bool.not_eq_true', Bool.not_eq_true']
  unfold resolve
  -- The maps are looked at first, and the terms in them only if the maps go together.
  by_cases hboth : append.isEmpty = false ∧ replace.isEmpty = false
  · rw [if_pos (hcond.mpr hboth), if_pos hboth]
    exact ⟨fun h => (Except.error.inj h).symm, fun h => h ▸ rfl⟩
  · rw [if_neg fun h => hboth (hcond.mp h), if_neg hboth, hused, ← nil_mem_keys_lowered_iff,
      ← OrderedMap.contains_iff]
    dsimp only
    cases hnil : (lowered (usedEntries builtIn append replace)).contains [] with
    | true => exact ⟨fun h => ⟨rfl, (Except.error.inj h).symm⟩, fun h => h.2 ▸ rfl⟩
    | false => exact iff_of_false (fun h => nomatch h) fun h => nomatch h.1

/-- No table is made exactly if the terms are refused. -/
theorem exists_error_iff {builtIn append replace : TermMap} :
    (∃ error, resolve builtIn append replace = .error error) ↔ Refused builtIn append replace := by
  unfold Refused
  by_cases hboth : append.isEmpty = false ∧ replace.isEmpty = false
  · refine iff_of_true ⟨.appendAndReplace, ?_⟩ (Or.inl hboth)
    rw [resolve_eq_error_iff, if_pos hboth]
  · have herror (error : TableError) : resolve builtIn append replace = .error error ↔
        [] ∈ (usedEntries builtIn append replace).map Prod.fst ∧ error = .emptyTerm := by
      rw [resolve_eq_error_iff, if_neg hboth]
    simp only [herror, exists_and_left, exists_eq, and_true]
    exact ⟨Or.inr, fun h => h.resolve_left hboth⟩

/-- What is not refused makes a table. -/
theorem exists_ok_iff {builtIn append replace : TermMap} :
    (∃ t, resolve builtIn append replace = .ok t) ↔ ¬ Refused builtIn append replace := by
  rw [← exists_error_iff]
  cases resolve builtIn append replace with
  | ok t => exact iff_of_true ⟨t, rfl⟩ fun ⟨_, h⟩ => nomatch h
  | error error => exact iff_of_false (fun ⟨_, h⟩ => nomatch h) fun h => h ⟨error, rfl⟩

/-- Terms are refused exactly if they are to be appended and put in place of others at once, or if one
of those used is empty. All others make the one table that has the lowercase forms of the used terms,
different from each other and not empty, in the order in which they first occur, each with the
suggestions of the last term that has it. -/
theorem resolve_refused_iff (builtIn append replace : TermMap) :
    ((∃ error, resolve builtIn append replace = .error error) ↔ Refused builtIn append replace) ∧
      ∀ t, resolve builtIn append replace = .ok t ↔ ¬ Refused builtIn append replace ∧
        IsResolved (usedEntries builtIn append replace) t.terms := by
  refine ⟨exists_error_iff, fun t => ?_⟩
  constructor
  · intro h
    have haccepted : ¬ Refused builtIn append replace := exists_ok_iff.mp ⟨t, h⟩
    obtain ⟨-, -, rfl⟩ := resolve_eq_ok_iff.mp h
    exact ⟨haccepted, isResolved_lowered fun hnil => haccepted (Or.inr hnil)⟩
  · rintro ⟨haccepted, hresolved⟩
    refine resolve_eq_ok_iff.mpr ⟨?_, hresolved.nonempty, ?_⟩
    · cases happend : append.isEmpty with
      | true => exact Or.inl rfl
      | false =>
        refine Or.inr (Bool.not_eq_false _ |>.mp fun hreplace => ?_)
        exact haccepted (Or.inl ⟨happend, hreplace⟩)
    · rw [← hresolved.eq_lowered]

end TermTable

end TermAudit
