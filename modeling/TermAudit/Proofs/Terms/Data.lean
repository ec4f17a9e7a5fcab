import Mathlib.Data.List.Forall2
import TermAudit.Proofs.Index.Leaves
import TermAudit.Proofs.Terms.Layers

/-!
# `TermAudit.Proofs.Terms.Data`: configurations in plain data

Plain data can hold a configuration: sections under their keys, terms in a section, suggestions for a
term. `TermsConfig.Holds` says what such data looks like and which configuration is in it.
`TermsConfig.ofValue` reads it, section by section and entry by entry, and refuses all other data.

* `TermsConfig.putTerm_eq_ok_iff`, `TermsConfig.foldlM_putTerm_eq_ok_iff`: what one entry of a section
  does to a map, and what all of them do;
* `TermsConfig.ShowsLongInteger`: data about which nothing can be said, because the message would have
  to show an integer that is too long to be written;
* `TermsConfig.ofValue_answers_iff`: what is read of any data, and when there is an error instead;
* `TermsConfig.ofValue_toValue`: a configuration is read again from the data that it is written as.
-/

set_option autoImplicit false

namespace TermAudit.TermsConfig

/-! ## What holds a configuration -/

/-- The value holds the suggestions for a term: it is null or it has the texts in a list or a tuple. A
single text is none of these, although it is a sequence of characters. -/
inductive HoldsSuggestions : Value → List Text → Prop
  | null : HoldsSuggestions (.scalar .null) []
  | list (suggestions : List Text) :
    HoldsSuggestions (.list (suggestions.map fun s => .scalar (.text s))) suggestions
  | tuple (suggestions : List Text) :
    HoldsSuggestions (.tuple (suggestions.map fun s => .scalar (.text s))) suggestions

/-- The entry of a mapping holds a term with its suggestions. The term is the key as it is written, in
whatever case. -/
def HoldsTerm (e : Scalar × Value) (t : Text × List Text) : Prop :=
  e.1 = .text t.1 ∧ HoldsSuggestions e.2 t.2

/-- The value of a section holds the terms of a map, one in each entry and in the same order. There are
none if it is missing or null. Two spellings of a term are two entries, as they are in the map. -/
inductive HoldsTerms : Option Value → TermMap → Prop
  | missing : HoldsTerms none ∅
  | null : HoldsTerms (some (.scalar .null)) ∅
  | mapping {entries : List (Scalar × Value)} {m : TermMap}
    (h : List.Forall₂ HoldsTerm entries m.entries) : HoldsTerms (some (.mapping entries)) m

/-- The value holds a configuration: it is null, or it is a mapping with the keys of sections alone. It
says which configuration without reading it, section by section. -/
inductive Holds : Value → TermsConfig → Prop
  | null : Holds (.scalar .null) empty
  | mapping {entries : List (Scalar × Value)} {c : TermsConfig}
    (hkeys : ∀ e ∈ entries, ∃ part : ConfigSection, e.1 = .text part.key)
    (hterms : ∀ part, HoldsTerms (entries.lookup (.text part.key)) (c.terms part)) :
    Holds (.mapping entries) c

/-! ## Sections -/

/-- The entry of a section has a term and its suggestions. What is in front of the first entry without
them has been read when the error is raised. -/
def IsTermEntry (e : Scalar × Value) : Prop :=
  ∃ term suggestions, e.1 = .text term ∧ suggestions? e.2 = some suggestions

/-- There is nothing wrong with the value of a section, if it has one. -/
inductive IsSection : Option Value → Prop
  | missing : IsSection none
  | null : IsSection (some (.scalar .null))
  | mapping {entries : List (Scalar × Value)} (h : ∀ e ∈ entries, IsTermEntry e) :
    IsSection (some (.mapping entries))

/-- The value of a section has a key that is too long to be shown, behind entries that there is nothing
wrong with. A key is refused if it is no text, and the message shows it. -/
inductive ShowsLongTerm : Option Value → Prop
  | key {front back : List (Scalar × Value)} {e : Scalar × Value} (hfront : ∀ e ∈ front, IsTermEntry e)
    (he : e.1.isOverlong = true) : ShowsLongTerm (some (.mapping (front ++ e :: back)))

section Sections

variable {part : ConfigSection} {m m' : TermMap} {e : Scalar × Value} {v : Value}
  {entries : List (Scalar × Value)} {failure : ConfigFailure}

/-- All items are read as texts exactly if they are these texts, in the same order. -/
theorem mapM_text?_eq_some_iff {items : List Value} {l : List Text} :
    items.mapM Value.text? = some l ↔ items = l.map fun s => .scalar (.text s) := by
  induction items generalizing l with
  | nil =>
    rw [List.mapM_nil, eq_comm (a := ([] : List Value)), List.map_eq_nil_iff]
    exact ⟨fun h => (Option.some.inj h).symm, fun h => congrArg some h.symm⟩
  | cons v items ih =>
    rw [List.mapM_cons]
    constructor
    · intro h
      obtain ⟨s, hs, h⟩ := Option.bind_eq_some_iff.mp h
      obtain ⟨l', hl', h⟩ := Option.bind_eq_some_iff.mp h
      cases h
      -- Only texts have a text, so the first item is the one that was read.
      unfold Value.text? at hs
      split at hs
      · cases hs
        rw [ih.mp hl', List.map_cons]
      · cases hs
    · intro h
      obtain ⟨s, l', rfl, rfl, hitems⟩ := List.map_eq_cons_iff.mp h.symm
      rw [ih.mpr hitems.symm]
      rfl

/-- What is read as suggestions is what holds them, and nothing else. -/
theorem suggestions?_eq_some_iff {l : List Text} : suggestions? v = some l ↔ HoldsSuggestions v l := by
  constructor
  · intro h
    unfold suggestions? at h
    split at h
    · cases h
      exact .null
    · obtain rfl := mapM_text?_eq_some_iff.mp h
      exact .list l
    · obtain rfl := mapM_text?_eq_some_iff.mp h
      exact .tuple l
    · cases h
  · rintro (_ | _ | _)
    · rfl
    · exact mapM_text?_eq_some_iff.mpr rfl
    · exact mapM_text?_eq_some_iff.mpr rfl

/-- There is nothing wrong with an entry exactly if it holds a term. -/
theorem isTermEntry_iff : IsTermEntry e ↔ ∃ t, HoldsTerm e t := by
  unfold IsTermEntry HoldsTerm
  simp only [suggestions?_eq_some_iff, Prod.exists]

/-- An entry of a section puts the term that it holds into the map. An entry that holds none is refused,
and the map is lost. -/
theorem putTerm_eq_ok_iff :
    putTerm part m e = .ok m' ↔ ∃ t, HoldsTerm e t ∧ m' = m.put t.1 t.2 := by
  unfold putTerm
  split
  · rename_i term value
    cases hvalue : suggestions? value with
    | none =>
      -- What is not read as suggestions holds none.
      refine iff_of_false (fun h => nomatch h) ?_
      rintro ⟨t, ⟨-, ht⟩, -⟩
      rw [suggestions?_eq_some_iff.mpr ht] at hvalue
      cases hvalue
    | some suggestions =>
      constructor
      · intro h
        exact ⟨(term, suggestions), ⟨rfl, suggestions?_eq_some_iff.mp hvalue⟩, (Except.ok.inj h).symm⟩
      · rintro ⟨⟨term', suggestions'⟩, ⟨hterm, ht⟩, rfl⟩
        cases hterm
        rw [suggestions?_eq_some_iff.mpr ht] at hvalue
        cases hvalue
        rfl
  · -- A key that is not a text is refused, whatever its value is.
    rename_i term value hnot
    constructor
    · intro h
      split at h
      · cases h
      · cases h
    · rintro ⟨t, ⟨rfl, -⟩, -⟩
      exact absurd rfl (hnot t.1)

/-- The entries of a section put the terms that they hold into the map, one after the other. If a term
came again it would keep its place and get the later suggestions. -/
theorem foldlM_putTerm_eq_ok_iff : entries.foldlM (putTerm part) m = .ok m' ↔
    ∃ ts, List.Forall₂ HoldsTerm entries ts ∧ m' = m.putAll ts := by
  induction entries generalizing m with
  | nil =>
    constructor
    · intro h
      cases h
      exact ⟨[], .nil, rfl⟩
    · rintro ⟨ts, hts, rfl⟩
      cases hts
      rfl
  | cons e entries ih =>
    rw [List.foldlM_cons, bind_eq_ok_iff]
    constructor
    · -- The first entry is put before the others, so later ones take its place.
      rintro ⟨next, hput, hrest⟩
      obtain ⟨t, ht, rfl⟩ := putTerm_eq_ok_iff.mp hput
      obtain ⟨ts, hts, rfl⟩ := ih.mp hrest
      exact ⟨t :: ts, .cons ht hts, rfl⟩
    · rintro ⟨ts, hts, rfl⟩
      cases hts with
      | @cons _ t _ ts ht hts =>
        exact ⟨m.put t.1 t.2, putTerm_eq_ok_iff.mpr ⟨t, ht, rfl⟩, ih.mpr ⟨ts, hts, rfl⟩⟩

/-- A section is read exactly if there is nothing wrong with any of its entries, whatever the map that they
are put into. -/
theorem exists_foldlM_putTerm_iff (part : ConfigSection) (m : TermMap) :
    (∃ m', entries.foldlM (putTerm part) m = .ok m') ↔ ∀ e ∈ entries, IsTermEntry e := by
  simp only [foldlM_putTerm_eq_ok_iff, isTermEntry_iff]
  constructor
  · rintro ⟨m', ts, hts, -⟩ e he
    obtain ⟨i, hi, rfl⟩ := List.getElem_of_mem he
    exact ⟨_, (List.forall₂_iff_get.mp hts).2 i hi (hts.length_eq ▸ hi)⟩
  · intro h
    choose! t ht using h
    refine ⟨m.putAll (entries.map t), entries.map t, ?_, rfl⟩
    exact List.forall₂_map_right_iff.mpr (List.forall₂_same.mpr ht)

/-- What is wrong with an entry is told, unless its key is too long to be shown. -/
theorem putTerm_eq_error (h : putTerm part m e = .error failure) :
    (∃ error, failure = .config error) ∧ e.1.isOverlong = false ∨
      failure = .overlongInteger ∧ e.1.isOverlong = true := by
  unfold putTerm at h
  split at h
  · split at h
    · cases h
    · cases h
      exact Or.inl ⟨⟨_, rfl⟩, rfl⟩
  · split at h
    · -- The message would show the key, and an integer may be too long for that.
      rename_i hlong
      cases h
      exact Or.inr ⟨rfl, hlong⟩
    · rename_i hshort
      cases h
      exact Or.inl ⟨⟨_, rfl⟩, eq_false_of_ne_true hshort⟩

/-- An integer too long to be written is no term, and cannot be named in the message that would say so. So
another error is raised, of which the code knows nothing. -/
theorem putTerm_of_isOverlong (h : e.1.isOverlong = true) :
    putTerm part m e = .error .overlongInteger := by
  obtain ⟨k, v⟩ := e
  cases k with
  | int n =>
    unfold putTerm
    exact if_pos h
  | _ => cases h

/-- The value of a section is read exactly if there is nothing wrong with it. -/
theorem exists_sectionTerms_iff (part : ConfigSection) {value : Option Value} :
    (∃ m, sectionTerms part value = .ok m) ↔ IsSection value := by
  unfold sectionTerms
  split
  · exact iff_of_true ⟨∅, rfl⟩ .missing
  · exact iff_of_true ⟨∅, rfl⟩ .null
  · -- Nothing is refused in the section exactly if nothing is refused in its entries.
    refine (exists_foldlM_putTerm_iff part ∅).trans ⟨.mapping, ?_⟩
    rintro ⟨⟩
    assumption
  · rename_i value hnull hmapping
    refine iff_of_false (fun ⟨m, h⟩ => by cases h) ?_
    rintro ⟨⟩
    · exact hnull rfl
    · exact hmapping _ rfl

/-- What is wrong with a section is told, unless it has a key that is too long to be shown. -/
theorem sectionTerms_eq_error {value : Option Value} (h : sectionTerms part value = .error failure) :
    (∃ error, failure = .config error) ∨ failure = .overlongInteger ∧ ShowsLongTerm value := by
  unfold sectionTerms at h
  split at h
  · cases h
  · cases h
  · obtain ⟨front, e, back, m, rfl, hfront, h⟩ := foldlM_eq_error_iff.mp h
    rcases putTerm_eq_error h with ⟨herror, -⟩ | ⟨rfl, hlong⟩
    · exact Or.inl herror
    · exact Or.inr ⟨rfl, .key ((exists_foldlM_putTerm_iff part ∅).mp ⟨m, hfront⟩) hlong⟩
  · cases h
    exact Or.inl ⟨_, rfl⟩

/-- The entries in front are read without an error, so the overlong key is reached. -/
theorem sectionTerms_of_showsLongTerm {value : Option Value} (h : ShowsLongTerm value) :
    sectionTerms part value = .error .overlongInteger := by
  cases h with
  | @key front back e hfront he =>
    obtain ⟨m, hm⟩ := (exists_foldlM_putTerm_iff part ∅).mpr hfront
    exact foldlM_eq_error_iff.mpr ⟨front, e, back, m, rfl, hm, putTerm_of_isOverlong he⟩

/-- A section is read as the terms that it holds. -/
theorem sectionTerms_of_holdsTerms {value : Option Value} (h : HoldsTerms value m) :
    sectionTerms part value = .ok m := by
  cases h with
  | missing => rfl
  | null => rfl
  | mapping hentries =>
    refine foldlM_putTerm_eq_ok_iff.mpr ⟨m.entries, hentries, ?_⟩
    exact (OrderedMap.ofList_entries m).symm

/-- The keys of a section are its terms. -/
theorem keys_of_holdsTerm {ts : List (Text × List Text)} (h : List.Forall₂ HoldsTerm entries ts) :
    entries.map Prod.fst = ts.map fun t => .text t.1 := by
  induction h with
  | nil => rfl
  | cons ht _ ih => rw [List.map_cons, List.map_cons, ht.1, ih]

/-- The terms in a mapping are different if its keys are. -/
theorem nodup_of_holdsTerm {ts : List (Text × List Text)} (hts : List.Forall₂ HoldsTerm entries ts)
    (hdiffer : entries.Pairwise fun e e' => e.1.sameKey e'.1 = false) :
    (ts.map Prod.fst).Nodup := by
  have hpairwise : (entries.map Prod.fst).Pairwise fun k k' => k.sameKey k' = false :=
    List.pairwise_map.mpr hdiffer
  rw [keys_of_holdsTerm hts, List.pairwise_map] at hpairwise
  refine List.pairwise_map.mpr (hpairwise.imp fun hne heq => ?_)
  simp [Scalar.sameKey, heq] at hne

/-- A section with different keys is read as nothing but the terms that it holds. -/
theorem sectionTerms_eq_ok_iff {value : Option Value} (hdiffer : ∀ v, value = some v → v.KeysDiffer) :
    sectionTerms part value = .ok m ↔ HoldsTerms value m := by
  refine ⟨fun h => ?_, sectionTerms_of_holdsTerms⟩
  unfold sectionTerms at h
  split at h
  · cases h
    exact .missing
  · cases h
    exact .null
  · rename_i entries
    obtain ⟨ts, hts, rfl⟩ := foldlM_putTerm_eq_ok_iff.mp h
    have hnodup := nodup_of_holdsTerm hts (hdiffer _ rfl).here
    -- No term comes twice, so the map has one for each entry.
    have hentries : (OrderedMap.putAll ∅ ts).entries = ts := OrderedMap.entries_putAll_of_nodup hnodup
    exact .mapping (hentries.symm ▸ hts)
  · cases h

end Sections

/-! ## Plain data -/

/-- A message about the plain data would have to show an integer that is too long to be written: a key of
no section, or, with none, the first thing that is wrong with the sections. Nothing can be said about such
data, since making the message raises an error of its own. -/
inductive ShowsLongInteger : Value → Prop
  | key {entries : List (Scalar × Value)} {e : Scalar × Value} (he : e ∈ entries)
    (hlong : e.1.isOverlong = true) : ShowsLongInteger (.mapping entries)
  | append {entries : List (Scalar × Value)} (hkeys : ∀ e ∈ entries, isSectionKey e.1 = true)
    (happend : ShowsLongTerm (sectionValue? .append entries)) : ShowsLongInteger (.mapping entries)
  | replace {entries : List (Scalar × Value)} (hkeys : ∀ e ∈ entries, isSectionKey e.1 = true)
    (happend : IsSection (sectionValue? .append entries))
    (hreplace : ShowsLongTerm (sectionValue? .replace entries)) : ShowsLongInteger (.mapping entries)

/-- No section has an integer as its key. -/
theorem not_isSectionKey_of_isOverlong {k : Scalar} (h : k.isOverlong = true) :
    isSectionKey k = false := by
  cases k with
  | int n => rfl
  | _ => cases h

/-- The keys of sections are the two texts that name them. -/
theorem isSectionKey_iff {k : Scalar} :
    isSectionKey k = true ↔ ∃ part : ConfigSection, k = .text part.key := by
  unfold isSectionKey
  rw [Bool.or_eq_true, beq_iff_eq, beq_iff_eq]
  constructor
  · rintro (h | h)
    · exact ⟨.append, h⟩
    · exact ⟨.replace, h⟩
  · rintro ⟨part, h⟩
    cases part with
    | append => exact Or.inl h
    | replace => exact Or.inr h

section Data

variable {entries : List (Scalar × Value)} {value : Value} {failure : ConfigFailure} {c : TermsConfig}

/-- The value of a section is the one under its key. -/
theorem sectionValue?_eq_lookup (part : ConfigSection) (entries : List (Scalar × Value)) :
    sectionValue? part entries = entries.lookup (.text part.key) := by
  induction entries with
  | nil => rfl
  | cons e entries ih =>
    obtain ⟨k, v⟩ := e
    unfold sectionValue? at ih ⊢
    rw [List.find?_cons, OrderedMap.lookup_cons_eq, ← ih]
    dsimp only
    by_cases h : k = .text part.key
    · rw [if_pos h.symm, beq_iff_eq.mpr h]
      rfl
    · rw [if_neg (Ne.symm h), beq_eq_false_iff_ne.mpr h]

/-- With no keys but those of sections, reading goes on with these. -/
theorem ofValue_of_keys (hkeys : ∀ e ∈ entries, isSectionKey e.1 = true) :
    ofValue (.mapping entries) = do
      let append ← sectionTerms .append (sectionValue? .append entries)
      let replace ← sectionTerms .replace (sectionValue? .replace entries)
      return ⟨append, replace⟩ := by
  have hunknown : ((entries.map Prod.fst).filter fun k => !isSectionKey k) = [] := by
    rw [List.filter_eq_nil_iff]
    intro k hk
    obtain ⟨e, he, rfl⟩ := List.mem_map.mp hk
    rw [hkeys e he]
    decide
  unfold ofValue
  dsimp only
  rw [hunknown]
  rfl

/-- With any other key, reading stops. -/
theorem ofValue_of_unknown (h : ¬ ∀ e ∈ entries, isSectionKey e.1 = true) :
    (∃ error, ofValue (.mapping entries) = .error (.config error)) ∨
      ofValue (.mapping entries) = .error .overlongInteger ∧ ∃ e ∈ entries, e.1.isOverlong = true := by
  have hunknown : ((entries.map Prod.fst).filter fun k => !isSectionKey k).isEmpty = false := by
    rw [List.isEmpty_eq_false_iff_exists_mem]
    push Not at h
    obtain ⟨e, he, hkey⟩ := h
    exact ⟨e.1, List.mem_filter.mpr ⟨List.mem_map_of_mem he, by simpa using hkey⟩⟩
  unfold ofValue
  dsimp only
  rw [hunknown]
  -- All unknown keys go into the message, so one that is too long keeps it from being made.
  cases hlong : ((entries.map Prod.fst).filter fun k => !isSectionKey k).any Scalar.isOverlong with
  | false => exact Or.inl ⟨_, rfl⟩
  | true =>
    obtain ⟨k, hk, hlong⟩ := List.any_eq_true.mp hlong
    obtain ⟨e, he, rfl⟩ := List.mem_map.mp (List.mem_filter.mp hk).1
    exact Or.inr ⟨rfl, e, he, hlong⟩

/-- The configuration that is read has its terms from the sections of a mapping. -/
theorem ofValue_mapping_eq_ok_iff : ofValue (.mapping entries) = .ok c ↔
    (∀ e ∈ entries, isSectionKey e.1 = true) ∧
      ∀ part, sectionTerms part (sectionValue? part entries) = .ok (c.terms part) := by
  constructor
  · intro h
    -- With an unknown key nothing is read at all.
    have hkeys : ∀ e ∈ entries, isSectionKey e.1 = true := by
      by_contra hnot
      rcases ofValue_of_unknown hnot with ⟨error, herror⟩ | ⟨herror, -⟩
      · rw [h] at herror
        cases herror
      · rw [h] at herror
        cases herror
    rw [ofValue_of_keys hkeys] at h
    -- The terms to append are read first, but both sections have to be right.
    obtain ⟨append, happend, h⟩ := bind_eq_ok_iff.mp h
    obtain ⟨replace, hreplace, h⟩ := bind_eq_ok_iff.mp h
    cases h
    refine ⟨hkeys, fun part => ?_⟩
    cases part with
    | append => exact happend
    | replace => exact hreplace
  · rintro ⟨hkeys, hterms⟩
    rw [ofValue_of_keys hkeys]
    exact bind_eq_ok_iff.mpr ⟨c.append, hterms .append,
      bind_eq_ok_iff.mpr ⟨c.replace, hterms .replace, rfl⟩⟩

/-- Where a message would have to show an overlong integer there is no error of a configuration, but the one
of writing the integer. The order in which keys and sections are looked at decides which of the two comes
first. -/
theorem ofValue_of_showsLongInteger (h : ShowsLongInteger value) :
    ofValue value = .error .overlongInteger := by
  cases h with
  | @key entries e he hlong =>
    -- No key of a section is a long integer, so the key is unknown.
    have hunknown : (((entries.map Prod.fst).filter fun k => !isSectionKey k).any
        Scalar.isOverlong) = true := by
      rw [List.any_eq_true]
      refine ⟨e.1, List.mem_filter.mpr ⟨List.mem_map_of_mem he, ?_⟩, hlong⟩
      rw [not_isSectionKey_of_isOverlong hlong]
      rfl
    unfold ofValue
    dsimp only
    rw [hunknown]
    rfl
  | append hkeys happend =>
    rw [ofValue_of_keys hkeys, sectionTerms_of_showsLongTerm happend]
    rfl
  | replace hkeys happend hreplace =>
    -- The other section comes first, and nothing is wrong there.
    obtain ⟨m, hm⟩ := (exists_sectionTerms_iff .append).mpr happend
    rw [ofValue_of_keys hkeys, hm, sectionTerms_of_showsLongTerm hreplace]
    rfl

/-- What is wrong with plain data is told, unless an integer in it is too long to be shown. -/
theorem ofValue_eq_error (h : ofValue value = .error failure) :
    (∃ error, failure = .config error) ∨ failure = .overlongInteger ∧ ShowsLongInteger value := by
  cases value with
  | mapping entries =>
    by_cases hkeys : ∀ e ∈ entries, isSectionKey e.1 = true
    · rw [ofValue_of_keys hkeys] at h
      -- The sections are read in order, and the first that fails decides.
      rcases bind_eq_error_iff.mp h with h | ⟨append, happend, h⟩
      · exact (sectionTerms_eq_error h).imp_right fun ⟨heq, hlong⟩ => ⟨heq, .append hkeys hlong⟩
      · rcases bind_eq_error_iff.mp h with h | ⟨replace, -, h⟩
        · exact (sectionTerms_eq_error h).imp_right fun ⟨heq, hlong⟩ =>
            ⟨heq, .replace hkeys ((exists_sectionTerms_iff .append).mp ⟨append, happend⟩) hlong⟩
        · cases h
    · rcases ofValue_of_unknown hkeys with ⟨error, herror⟩ | ⟨herror, e, he, hlong⟩
      · rw [h] at herror
        cases herror
        exact Or.inl ⟨error, rfl⟩
      · rw [h] at herror
        cases herror
        exact Or.inr ⟨rfl, .key he hlong⟩
  | scalar s =>
    unfold ofValue at h
    split at h
    · cases h
    · rename_i heq
      cases heq
    · cases h
      exact Or.inl ⟨_, rfl⟩
  | _ =>
    cases h
    exact Or.inl ⟨_, rfl⟩

/-- A configuration is read of data that holds it. -/
theorem ofValue_of_holds (h : Holds value c) : ofValue value = .ok c := by
  cases h with
  | null => rfl
  | mapping hkeys hterms =>
    refine ofValue_mapping_eq_ok_iff.mpr ⟨fun e he => isSectionKey_iff.mpr (hkeys e he), fun part => ?_⟩
    rw [sectionValue?_eq_lookup]
    exact sectionTerms_of_holdsTerms (hterms part)

/-- What is read comes from null, or from the sections of a mapping without other keys. -/
theorem sections_of_ofValue (h : ofValue value = .ok c) :
    (value = .scalar .null ∧ c = empty) ∨ ∃ entries, value = .mapping entries ∧
      (∀ e ∈ entries, isSectionKey e.1 = true) ∧
      ∀ part, sectionTerms part (sectionValue? part entries) = .ok (c.terms part) := by
  cases value with
  | mapping entries => exact Or.inr ⟨entries, rfl, ofValue_mapping_eq_ok_iff.mp h⟩
  | scalar s =>
    unfold ofValue at h
    split at h
    · rename_i hnull
      cases h
      exact Or.inl ⟨hnull, rfl⟩
    · rename_i heq
      cases heq
    · cases h
  | _ => cases h

/-- Data in which no mapping has a key twice is read as nothing but the configuration that it holds. -/
theorem ofValue_eq_ok_iff (hdiffer : value.KeysDiffer) : ofValue value = .ok c ↔ Holds value c := by
  refine ⟨fun h => ?_, ofValue_of_holds⟩
  rcases sections_of_ofValue h with ⟨rfl, rfl⟩ | ⟨entries, rfl, hkeys, hterms⟩
  · exact .null
  · refine .mapping (fun e he => isSectionKey_iff.mp (hkeys e he)) fun part => ?_
    rw [← sectionValue?_eq_lookup]
    refine (sectionTerms_eq_ok_iff fun v hv => ?_).mp (hterms part)
    rw [sectionValue?_eq_lookup] at hv
    exact hdiffer.entry (mem_of_lookup hv)

/-- What a configuration is written as holds it. -/
theorem holds_toValue (c : TermsConfig) : Holds c.toValue c := by
  have hmap (m : TermMap) : HoldsTerms (some (mapValue m)) m :=
    .mapping (List.forall₂_map_left_iff.mpr
      (List.forall₂_same.mpr fun t _ => ⟨rfl, .list t.2⟩))
  refine .mapping (fun e he => ?_) fun part => ?_
  · rcases List.mem_pair.mp he with rfl | rfl
    · exact ⟨.append, rfl⟩
    · exact ⟨.replace, rfl⟩
  · cases part with
    | append => exact hmap c.append
    | replace => exact hmap c.replace

/-- A configuration is found again in its plain data. Suggestions come back in a list, and a section
without terms as an empty mapping. -/
theorem ofValue_toValue (c : TermsConfig) : ofValue c.toValue = .ok c :=
  ofValue_of_holds (holds_toValue c)

/-- Plain data is read as the configuration that it holds, if it holds one. For all other data there is
a configuration error, unless the message about it would have to show an integer that is too long to be
written. Then there is neither a configuration nor such an error. -/
theorem ofValue_answers_iff (hdiffer : value.KeysDiffer) :
    (∀ c, ofValue value = .ok c ↔ Holds value c) ∧
      ((∃ error, ofValue value = .error (.config error)) ↔
        (∀ c, ¬ Holds value c) ∧ ¬ ShowsLongInteger value) ∧
      (ShowsLongInteger value → ofValue value = .error .overlongInteger) := by
  refine ⟨fun c => ofValue_eq_ok_iff hdiffer, ⟨?_, ?_⟩, ofValue_of_showsLongInteger⟩
  · rintro ⟨error, herror⟩
    constructor
    · intro c hholds
      rw [ofValue_of_holds hholds] at herror
      cases herror
    · intro hlong
      rw [ofValue_of_showsLongInteger hlong] at herror
      cases herror
  · rintro ⟨hnone, hshort⟩
    cases hresult : ofValue value with
    | ok c => exact absurd ((ofValue_eq_ok_iff hdiffer).mp hresult) (hnone c)
    | error failure =>
      rcases ofValue_eq_error hresult with ⟨error, rfl⟩ | ⟨-, hlong⟩
      · exact ⟨error, rfl⟩
      · exact absurd hlong hshort

end Data

/-- Two sections, one of them null, with a list of suggestions, a tuple of three, and none. So all forms
of a section and of suggestions are there. -/
def sectionsValue : Value :=
  .mapping
    [(.text ConfigSection.replace.key, .scalar .null),
     (.text ConfigSection.append.key, .mapping
      [(.text "Sanity check", .list [.scalar (.text "coherence check")]),
       (.text "man hours", .tuple
        [.scalar (.text "labor hours"), .scalar (.text "work hours"), .scalar (.text "hours")]),
       (.text "dummy", .scalar .null)])]

/-- The general theorem for data with both sections. Its keys differ, and it shows no overlong integer. -/
theorem ofValue_answers_iff_sections :
    sectionsValue.KeysDiffer ∧ (∀ c, ofValue sectionsValue = .ok c ↔ Holds sectionsValue c) ∧
      ((∃ error, ofValue sectionsValue = .error (.config error)) ↔
        (∀ c, ¬ Holds sectionsValue c) ∧ ¬ ShowsLongInteger sectionsValue) ∧
      (ShowsLongInteger sectionsValue → ofValue sectionsValue = .error .overlongInteger) := by
  have hterms : ∀ e ∈ [(Scalar.text "Sanity check", Value.list [.scalar (.text "coherence check")]),
      (.text "man hours", .tuple
        [.scalar (.text "labor hours"), .scalar (.text "work hours"), .scalar (.text "hours")]),
      (.text "dummy", .scalar .null)], e.2.KeysDiffer := by
    intro e he
    simp only [List.mem_cons, List.not_mem_nil, or_false] at he
    rcases he with rfl | rfl | rfl
    · refine .list fun v hv => ?_
      rw [List.mem_singleton.mp hv]
      exact .scalar _
    · exact .tuple _
    · exact .scalar _
  have hdiffer : sectionsValue.KeysDiffer := by
    refine .mapping (by decide) fun e he => ?_
    rcases List.mem_pair.mp he with rfl | rfl
    · exact .scalar _
    · exact .mapping (by decide) hterms
  exact ⟨hdiffer, ofValue_answers_iff hdiffer⟩

/-- A mapping whose only key is an integer of 4335 digits. It is the key of no section, so the message
would have to show it. -/
def overlongKeyValue : Value :=
  .mapping [(.int (Nat.pow 16 3600 - 1), .scalar (.text "x"))]

/-- The mapping holds no configuration, and still there is no configuration error. The message would name
the key, which is an integer too long to be written. -/
theorem ofValue_overlongKey_unreported :
    overlongKeyValue.KeysDiffer ∧ (∀ c, ¬ Holds overlongKeyValue c) ∧
      ∀ error, ofValue overlongKeyValue ≠ .error (.config error) := by
  have hlong : ShowsLongInteger overlongKeyValue := .key List.mem_cons_self (by decide +kernel)
  refine ⟨?_, ?_, fun error herror => ?_⟩
  · refine .mapping (List.pairwise_singleton _ _) fun e he => ?_
    rw [List.mem_singleton.mp he]
    exact .scalar _
  · intro c h
    unfold overlongKeyValue at h
    cases h with
    | mapping hkeys _ =>
      obtain ⟨part, hpart⟩ := hkeys _ List.mem_cons_self
      cases hpart
  · rw [ofValue_of_showsLongInteger hlong] at herror
    cases herror

end TermAudit.TermsConfig
