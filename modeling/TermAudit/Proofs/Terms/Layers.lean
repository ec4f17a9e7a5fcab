import TermAudit.Command.Options
import TermAudit.Proofs.Result
import TermAudit.Proofs.Terms.Resolution

/-!
# `TermAudit.Proofs.Terms.Layers`: which layer of a configuration counts

`TermsConfig.merged` lays one configuration over another, spelling by spelling: a spelling of both
layers keeps its place in the lower one. Only when the table is made do the spellings of a term with
the same lowercase form come together, and then the last of them counts. So the place of a spelling
decides, and not its layer.

* `TermMap.lastSpelling?_union_iff`: when the last spelling of the upper layer is the last one of
  both;
* `TermsConfig.table_merged_overrides_iff`: a term of the upper layer has its suggestions in the table
  exactly then, unless two spellings have the same suggestions anyway. Other terms of the lower layer
  keep theirs;
* `TermsConfig.table_merged_not_overridden`: two spellings in the lower layer are enough for the first
  of them to be overridden in vain.
-/

set_option autoImplicit false

namespace TermAudit

namespace TermMap

/-- The terms with a lowercase form, in the order of the map. They are different texts, and become one
term when a table is made. -/
def spellings (m : TermMap) (form : Text) : List Text :=
  m.keys.filter fun term => term.lower == form

/-- The last term with a lowercase form. Its suggestions are those that a table has for the form. -/
def lastSpelling? (m : TermMap) (form : Text) : Option Text :=
  (m.spellings form).getLast?

/-- The spellings of a form are the terms that have it in lowercase. -/
theorem mem_spellings_iff {m : TermMap} {form term : Text} :
    term ∈ m.spellings form ↔ term ∈ m.keys ∧ term.lower = form := by
  unfold spellings
  rw [List.mem_filter, beq_iff_eq]

/-- A form has no last spelling exactly if it has none at all. -/
theorem lastSpelling?_eq_none_iff {m : TermMap} {form : Text} :
    m.lastSpelling? form = none ↔ ∀ term ∈ m.keys, term.lower ≠ form := by
  unfold lastSpelling?
  rw [List.getLast?_eq_none_iff, List.eq_nil_iff_forall_not_mem]
  simp only [mem_spellings_iff, not_and]

/-- The last entry with a lowercase form is that of the last term with it. -/
theorem lastSuggestions_entries (m : TermMap) (form : Text) :
    lastSuggestions form m.entries = (m.lastSpelling? form).bind m.get? := by
  have hspellings : m.spellings form =
      (m.entries.filter fun e => e.1.lower == form).map Prod.fst := by
    unfold spellings OrderedMap.keys
    rw [List.filter_map]
    rfl
  unfold lastSuggestions lastSpelling?
  rw [hspellings, List.getLast?_map]
  cases hlast : (m.entries.filter fun e => e.1.lower == form).getLast? with
  | none => rfl
  | some e =>
    have he : e ∈ m.entries := (List.mem_filter.mp (List.mem_of_getLast? hlast)).1
    exact (OrderedMap.get?_of_mem_entries he).symm

/-- There are suggestions for the lowercase forms of the terms. -/
theorem exists_lastSuggestions {m : TermMap} {form term : Text} (hterm : term ∈ m.spellings form) :
    ∃ suggestions, lastSuggestions form m.entries = some suggestions := by
  obtain ⟨last, hlast⟩ : ∃ last, m.lastSpelling? form = some last :=
    Option.ne_none_iff_exists'.mp fun hnone =>
      lastSpelling?_eq_none_iff.mp hnone term (mem_spellings_iff.mp hterm).1 (mem_spellings_iff.mp hterm).2
  have hkey : last ∈ m.keys := (mem_spellings_iff.mp (List.mem_of_getLast? hlast)).1
  refine Option.ne_none_iff_exists'.mp ?_
  rw [lastSuggestions_entries, hlast, Option.bind_some]
  exact fun hnone => OrderedMap.get?_eq_none_iff.mp hnone hkey

/-- The terms of two maps put together are those of each. -/
theorem mem_keys_union {m n : TermMap} {term : Text} :
    term ∈ (m.union n).keys ↔ term ∈ m.keys ∨ term ∈ n.keys :=
  OrderedMap.mem_keys_putAll

/-- In the union the spellings of the lower layer come first, and then the new ones of the upper
layer. -/
theorem spellings_union (base other : TermMap) (form : Text) :
    spellings (base.union other) form =
      base.spellings form ++ (other.spellings form).filter fun term => decide (term ∉ base.keys) := by
  unfold spellings
  rw [OrderedMap.keys_union, List.filter_append, List.filter_filter, List.filter_filter]
  refine congrArg _ (List.filter_congr fun term _ => ?_)
  rw [Bool.and_comm, Bool.eq_iff_iff]
  simp only [Bool.and_eq_true, decide_eq_true_eq]

/-- The last spelling of the upper layer comes last in the lower one or behind it: it is new, or it is the
last one of the lower layer as well and no spelling of the upper layer is new. New spellings come behind
all that are there, so one of them would be last. -/
def StaysLast (base other : TermMap) (form last : Text) : Prop :=
  last ∉ base.keys ∨
    (base.lastSpelling? form = some last ∧ ∀ term ∈ other.spellings form, term ∈ base.keys)

/-- The last spelling of the upper layer is the last one of both layers exactly if it stays last. In a
union the places come from the lower layer, and only new spellings stand behind them. -/
theorem lastSpelling?_union_iff {base other : TermMap} {form last : Text}
    (h : other.lastSpelling? form = some last) :
    lastSpelling? (base.union other) form = some last ↔ StaysLast base other form last := by
  have hmem : last ∈ other.spellings form := List.mem_of_getLast? h
  unfold lastSpelling? at h ⊢
  unfold StaysLast
  rw [spellings_union, List.getLast?_append]
  by_cases hnone : ∀ term ∈ other.spellings form, term ∈ base.keys
  · -- Nothing is new, so the spellings of the lower layer are those of both.
    have hfilter : ((other.spellings form).filter fun term => decide (term ∉ base.keys)) = [] := by
      refine List.filter_eq_nil_iff.mpr fun term hterm => ?_
      simpa using hnone term hterm
    rw [hfilter, List.getLast?_nil, Option.none_or]
    constructor
    · exact fun hlast => Or.inr ⟨hlast, hnone⟩
    · rintro (hnew | ⟨hlast, -⟩)
      · exact absurd (hnone last hmem) hnew
      · exact hlast
  · -- The last of the new spellings is the last one of both layers.
    rw [or_iff_left fun hstays => hnone hstays.2]
    obtain ⟨first, hspellings⟩ := List.getLast?_eq_some_iff.mp h
    constructor
    · intro hlast
      cases hnew : ((other.spellings form).filter fun term => decide (term ∉ base.keys)).getLast? with
      | none =>
        rw [List.getLast?_eq_none_iff, List.filter_eq_nil_iff] at hnew
        exact absurd (fun term hterm => by simpa using hnew term hterm) hnone
      | some term =>
        rw [hnew, Option.some_or] at hlast
        cases hlast
        exact of_decide_eq_true (List.mem_filter.mp (List.mem_of_getLast? hnew)).2
    · intro hnew
      have hself : ([last].filter fun term => decide (term ∉ base.keys)) = [last] := by
        simpa using hnew
      rw [hspellings, List.filter_append, hself, List.getLast?_concat, Option.some_or]

/-- If the upper layer has no spelling, the lower one decides. -/
theorem lastSuggestions_union_of_base {base other : TermMap} {form : Text}
    (h : ∀ term ∈ other.keys, term.lower ≠ form) :
    lastSuggestions form (OrderedMap.entries (base.union other)) = lastSuggestions form base.entries := by
  have hnone : other.spellings form = [] := by
    refine List.eq_nil_iff_forall_not_mem.mpr fun term hterm => ?_
    obtain ⟨hkey, hform⟩ := mem_spellings_iff.mp hterm
    exact h term hkey hform
  have hlast : lastSpelling? (base.union other) form = base.lastSpelling? form := by
    unfold lastSpelling?
    rw [spellings_union, hnone, List.filter_nil, List.append_nil]
  rw [lastSuggestions_entries, lastSuggestions_entries, hlast]
  cases hbase : base.lastSpelling? form with
  | none => rfl
  | some last =>
    -- The upper layer has no spelling, so it has not got this one.
    have hform : last.lower = form := (mem_spellings_iff.mp (List.mem_of_getLast? hbase)).2
    have hnew : other.get? last = none :=
      OrderedMap.get?_eq_none_iff.mpr fun hkey => h last hkey hform
    rw [Option.bind_some, Option.bind_some, OrderedMap.get?_union, hnew, Option.none_or]

/-- A map that is not empty has a term. -/
theorem isEmpty_eq_false_iff {m : TermMap} : m.isEmpty = false ↔ ∃ term, term ∈ m.keys := by
  rw [OrderedMap.isEmpty, List.isEmpty_eq_false_iff_exists_mem]
  constructor
  · rintro ⟨e, he⟩
    exact ⟨e.1, List.mem_map_of_mem he⟩
  · rintro ⟨term, hterm⟩
    obtain ⟨e, he, -⟩ := List.mem_map.mp hterm
    exact ⟨e, he⟩

/-- A layer over another one does not make it empty. -/
theorem isEmpty_union_eq_false {m : TermMap} (n : TermMap) (h : m.isEmpty = false) :
    OrderedMap.isEmpty (m.union n) = false := by
  obtain ⟨term, hterm⟩ := isEmpty_eq_false_iff.mp h
  exact isEmpty_eq_false_iff.mpr ⟨term, mem_keys_union.mpr (Or.inl hterm)⟩

/-- If nothing comes of two maps, there was nothing in the first. -/
theorem isEmpty_of_isEmpty_union {m n : TermMap} (h : (m.union n).isEmpty = true) :
    m.isEmpty = true := by
  cases hm : m.isEmpty with
  | true => rfl
  | false =>
    rw [isEmpty_union_eq_false n hm] at h
    exact h

end TermMap

namespace TermsConfig

open TermMap TermTable

/-- The terms of a section. Both sections are merged in the same way, and what is said here of one holds
of the other. -/
def terms (c : TermsConfig) : ConfigSection → TermMap
  | .append => c.append
  | .replace => c.replace

variable {builtIn : TermMap} {base other c : TermsConfig} {t : TermTable} {part : ConfigSection}

/-- Configurations are merged section by section. -/
theorem terms_merged (base other : TermsConfig) (part : ConfigSection) :
    (base.merged other).terms part = (base.terms part).union (other.terms part) := by
  cases part <;> rfl

/-- A configured term has the suggestions of the last term of its section with the same lowercase
form. Built-in terms come before those that are appended to them. -/
theorem get?_of_table (h : c.table builtIn = .ok t) {form : Text}
    (hform : ∃ term, term ∈ (c.terms part).spellings form) :
    t.terms.get? form = lastSuggestions form (c.terms part).entries := by
  obtain ⟨term, hterm⟩ := hform
  have hkey : term ∈ (c.terms part).keys := (mem_spellings_iff.mp hterm).1
  obtain ⟨suggestions, hlast⟩ := exists_lastSuggestions hterm
  obtain ⟨hone, -, rfl⟩ := resolve_eq_ok_iff.mp h
  show (lowered (usedEntries builtIn c.append c.replace)).get? form = _
  rw [get?_lowered, hlast]
  cases part with
  | append =>
    -- The sections are not used together, so the other one is empty.
    have happend : c.append.isEmpty = false := isEmpty_eq_false_iff.mpr ⟨term, hkey⟩
    have hreplace : c.replace.isEmpty = true := by
      rw [happend] at hone
      exact hone.resolve_left Bool.false_ne_true
    rw [usedEntries, if_pos hreplace, lastSuggestions_append]
    show (lastSuggestions form (c.terms .append).entries).or _ = _
    rw [hlast, Option.some_or]
  | replace =>
    have hreplace : c.replace.isEmpty = false := isEmpty_eq_false_iff.mpr ⟨term, hkey⟩
    rw [usedEntries, hreplace, if_neg Bool.false_ne_true]
    exact hlast

/-- Under another layer a configuration is refused as well, if its terms are of the kind that is asked
for. -/
theorem refused_merged (hrefused : Refused builtIn base.append base.replace) {term : Text}
    (hterm : term ∈ (base.terms part).keys) :
    Refused builtIn (base.merged other).append (base.merged other).replace := by
  rcases hrefused with ⟨happend, hreplace⟩ | hnil
  · exact Or.inl ⟨isEmpty_union_eq_false _ happend, isEmpty_union_eq_false _ hreplace⟩
  -- Only an empty term is refused now. The kind of terms does not change, and the layer keeps its keys.
  have hpart : (base.terms part).isEmpty = false := isEmpty_eq_false_iff.mpr ⟨term, hterm⟩
  cases part with
  | append =>
    have happend : (base.merged other).append.isEmpty = false := isEmpty_union_eq_false _ hpart
    cases hreplace : (base.merged other).replace.isEmpty with
    | false => exact Or.inl ⟨happend, hreplace⟩
    | true =>
      have hbase : base.replace.isEmpty = true := isEmpty_of_isEmpty_union hreplace
      rw [keys_usedEntries, if_pos hbase] at hnil
      refine Or.inr ?_
      rw [keys_usedEntries, if_pos hreplace]
      refine List.mem_append.mpr ((List.mem_append.mp hnil).imp_right fun h => ?_)
      exact mem_keys_union.mpr (Or.inl h)
  | replace =>
    have hmerged : (base.merged other).replace.isEmpty = false := isEmpty_union_eq_false _ hpart
    have hbase : base.replace.isEmpty = false := hpart
    rw [keys_usedEntries, hbase, if_neg Bool.false_ne_true] at hnil
    refine Or.inr ?_
    rw [keys_usedEntries, hmerged, if_neg Bool.false_ne_true]
    exact mem_keys_union.mpr (Or.inl hnil)

/-- Terms of the lower layer that the upper one does not spell in any way have the suggestions that the
lower layer gives them by itself. -/
theorem get?_of_table_merged_of_base (h : (base.merged other).table builtIn = .ok t) {term : Text}
    (hterm : term ∈ (base.terms part).keys)
    (hother : ∀ term' ∈ (other.terms part).keys, term'.lower ≠ term.lower) :
    ∃ t', base.table builtIn = .ok t' ∧ t.terms.get? term.lower = t'.terms.get? term.lower := by
  obtain ⟨t', ht'⟩ := exists_ok_iff.mpr fun hrefused =>
    exists_ok_iff.mp ⟨t, h⟩ (refused_merged hrefused hterm)
  have hmem : term ∈ (base.terms part).spellings term.lower := mem_spellings_iff.mpr ⟨hterm, rfl⟩
  have hmerged : term ∈ spellings ((base.merged other).terms part) term.lower := by
    rw [terms_merged]
    exact mem_spellings_iff.mpr ⟨mem_keys_union.mpr (Or.inl hterm), rfl⟩
  refine ⟨t', ht', ?_⟩
  rw [get?_of_table h ⟨term, hmerged⟩, get?_of_table ht' ⟨term, hmem⟩, terms_merged]
  exact lastSuggestions_union_of_base hother

/-- Terms of the upper layer have the suggestions of the last spelling in both layers. -/
theorem get?_of_table_merged_of_other (h : (base.merged other).table builtIn = .ok t) {term : Text}
    (hterm : term ∈ (other.terms part).keys) :
    ∃ winner, lastSpelling? ((base.merged other).terms part) term.lower = some winner ∧
      t.terms.get? term.lower = ((base.merged other).terms part).get? winner := by
  have hkey : term ∈ ((base.merged other).terms part).keys := by
    rw [terms_merged]
    exact mem_keys_union.mpr (Or.inr hterm)
  obtain ⟨winner, hwinner⟩ :
      ∃ winner, lastSpelling? ((base.merged other).terms part) term.lower = some winner :=
    Option.ne_none_iff_exists'.mp fun hnone => lastSpelling?_eq_none_iff.mp hnone term hkey rfl
  refine ⟨winner, hwinner, ?_⟩
  rw [get?_of_table h ⟨term, mem_spellings_iff.mpr ⟨hkey, rfl⟩⟩, lastSuggestions_entries, hwinner,
    Option.bind_some]

/-- A term of the upper layer has the suggestions of its last spelling there exactly if this spelling is
the last one of both layers, or the one that is has the same suggestions. Terms of the lower layer that
the upper one does not spell in any way keep their suggestions. -/
theorem table_merged_overrides_iff (h : (base.merged other).table builtIn = .ok t)
    (part : ConfigSection) :
    (∀ term ∈ (other.terms part).keys, ∃ last suggestions,
      (other.terms part).lastSpelling? term.lower = some last ∧
      lastSuggestions term.lower (other.terms part).entries = some suggestions ∧
      (t.terms.get? term.lower = some suggestions ↔
        StaysLast (base.terms part) (other.terms part) term.lower last ∨
          ∃ winner ≠ last, lastSpelling? ((base.merged other).terms part) term.lower = some winner ∧
            ((base.merged other).terms part).get? winner = some suggestions)) ∧
    ∀ term ∈ (base.terms part).keys, (∀ term' ∈ (other.terms part).keys, term'.lower ≠ term.lower) →
      ∃ t', base.table builtIn = .ok t' ∧ t.terms.get? term.lower = t'.terms.get? term.lower := by
  refine ⟨fun term hterm => ?_, fun term hterm hother => get?_of_table_merged_of_base h hterm hother⟩
  have hspelling : term ∈ (other.terms part).spellings term.lower := mem_spellings_iff.mpr ⟨hterm, rfl⟩
  obtain ⟨suggestions, hsuggestions⟩ := exists_lastSuggestions hspelling
  obtain ⟨last, hlast, hget⟩ : ∃ last, (other.terms part).lastSpelling? term.lower = some last ∧
      (other.terms part).get? last = some suggestions := by
    rw [lastSuggestions_entries] at hsuggestions
    exact Option.bind_eq_some_iff.mp hsuggestions
  refine ⟨last, suggestions, hlast, hsuggestions, ?_⟩
  obtain ⟨winner, hwinner, htable⟩ := get?_of_table_merged_of_other h hterm
  have hstays : lastSpelling? ((base.merged other).terms part) term.lower = some last ↔
      StaysLast (base.terms part) (other.terms part) term.lower last := by
    rw [terms_merged]
    exact lastSpelling?_union_iff hlast
  rw [hwinner] at hstays
  rw [htable]
  by_cases heq : winner = last
  · -- The spelling counts, and in both layers it has the suggestions of the upper one.
    subst heq
    refine iff_of_true ?_ (Or.inl (hstays.mp rfl))
    rw [terms_merged, OrderedMap.get?_union, hget, Option.some_or]
  · -- Another spelling comes last, so the suggestions are those of that one.
    have hnot : ¬ StaysLast (base.terms part) (other.terms part) term.lower last :=
      fun h => heq (Option.some.inj (hstays.mpr h))
    rw [or_iff_right hnot]
    constructor
    · exact fun hsame => ⟨winner, heq, hwinner, hsame⟩
    · rintro ⟨other, -, hother, hsame⟩
      rw [hwinner] at hother
      cases hother
      exact hsame

/-- A configuration that appends one term, as a single option does. -/
def appendingOne (term suggestion : Text) : TermsConfig :=
  ⟨.ofList [(term, [suggestion])], ∅⟩

/-- The theorem at a term that is spelled in two ways by two layers. -/
theorem table_merged_overrides_iff_spelling :
    let base := appendingOne "sanity check" "confidence check"
    let other := appendingOne "Sanity Check" "coherence check"
    ∃ t, (base.merged other).table TermMap.builtIn = .ok t ∧
      ((∀ term ∈ (other.terms .append).keys, ∃ last suggestions,
        (other.terms .append).lastSpelling? term.lower = some last ∧
        lastSuggestions term.lower (other.terms .append).entries = some suggestions ∧
        (t.terms.get? term.lower = some suggestions ↔
          StaysLast (base.terms .append) (other.terms .append) term.lower last ∨
            ∃ winner ≠ last,
              lastSpelling? ((base.merged other).terms .append) term.lower = some winner ∧
                ((base.merged other).terms .append).get? winner = some suggestions)) ∧
      ∀ term ∈ (base.terms .append).keys,
        (∀ term' ∈ (other.terms .append).keys, term'.lower ≠ term.lower) →
          ∃ t', base.table TermMap.builtIn = .ok t' ∧
            t.terms.get? term.lower = t'.terms.get? term.lower) := by
  obtain ⟨t, ht, -⟩ := exists_ok_of_toOption_any (p := fun _ => true)
    (x := ((appendingOne "sanity check" "confidence check").merged
      (appendingOne "Sanity Check" "coherence check")).table TermMap.builtIn)
    (by decide +kernel)
  exact ⟨t, ht, table_merged_overrides_iff ht .append⟩

/-- A configuration file with two spellings of a term. They differ in the case of one letter, so the file
is a proper mapping. -/
def twoSpellingsText : Text :=
  "appendNoninclusiveTerms:
  Sanity check: [soundness check]
  sanity check: [confidence check]
"

/-- Laid over the file, the first spelling with other suggestions changes nothing. The file has a second
spelling, which stays the last one, and it is the last one that counts when spellings become one term. -/
theorem table_merged_not_overridden :
    ∃ base terms t, ofText twoSpellingsText = .ok base ∧
      TermOption.parseAll ["Sanity check=coherence check"] = .ok terms ∧
      (base.merged ⟨terms, ∅⟩).table TermMap.builtIn = .ok t ∧
      lastSuggestions "sanity check" terms.entries = some [("coherence check" : Text)] ∧
      t.terms.get? "sanity check" = some [("confidence check" : Text)] := by
  obtain ⟨base, hbase, hany⟩ := exists_ok_of_toOption_any
    (x := ofText twoSpellingsText)
    (p := fun base => (TermOption.parseAll ["Sanity check=coherence check"]).toOption.any fun terms =>
      ((base.merged ⟨terms, ∅⟩).table TermMap.builtIn).toOption.any fun t =>
        lastSuggestions "sanity check" terms.entries == some [("coherence check" : Text)] &&
          t.terms.get? "sanity check" == some [("confidence check" : Text)])
    (by decide +kernel)
  obtain ⟨terms, hterms, hany⟩ := exists_ok_of_toOption_any hany
  obtain ⟨t, ht, hboth⟩ := exists_ok_of_toOption_any hany
  rw [Bool.and_eq_true, beq_iff_eq, beq_iff_eq] at hboth
  exact ⟨base, terms, t, hbase, hterms, ht, hboth.1, hboth.2⟩

end TermsConfig

end TermAudit
