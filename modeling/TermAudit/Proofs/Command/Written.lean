import TermAudit.Proofs.Command.Options
import TermAudit.Proofs.Terms.Data
import TermAudit.Proofs.Text.Blank

/-!
# `TermAudit.Proofs.Command.Written`: terms written as options

A term and its suggestions can be written as the value of an option (`TermOption.written`), unless one of
them has a sign that means something there, or white space around it (`TermOption.IsWritable`). Reading
such values gives the terms back (`TermOption.parse_written`), and a configuration with the same terms is
read as the same map (`TermOption.parseAll_agrees`).

Values that are not written in this way are read as well, as long as each has a `=`. `TermOption.Gives`
says which map they give: nothing in it has white space around it, and of a term that is repeated the first
place and the last value count.
-/

set_option autoImplicit false

namespace TermAudit

namespace TermOption

/-! ## One value -/

/-- The value of an option for a term and its suggestions, as one would type it: the term, an equals sign,
and the suggestions with commas between them and no white space. -/
def written (t : Text × List Text) : Text :=
  t.1 ++ ("=" : Text) ++ Text.joinWith "," t.2

/-- The text can be one of the suggestions in the value of an option. An empty one is left out when the
value is parsed, one with a comma is taken apart, and white space at its ends is stripped. -/
structure IsOffer (s : Text) : Prop where
  nonempty : s ≠ []
  noComma : CodePoint.ofChar ',' ∉ s
  stripped : s.IsStripped

/-- The term and its suggestions can be written as the value of an option. A term with an equals sign
would end at it, but suggestions may have one, as only the first counts. -/
structure IsWritable (t : Text × List Text) : Prop where
  noSign : CodePoint.ofChar '=' ∉ t.1
  stripped : t.1.IsStripped
  offers : ∀ s ∈ t.2, IsOffer s

/-- Whether a text can be a suggestion can be computed. -/
instance (s : Text) : Decidable (IsOffer s) :=
  decidable_of_iff (s ≠ [] ∧ CodePoint.ofChar ',' ∉ s ∧ s.IsStripped)
    ⟨fun h => ⟨h.1, h.2.1, h.2.2⟩, fun h => ⟨h.nonempty, h.noComma, h.stripped⟩⟩

/-- Whether a term with its suggestions can be written can be computed. -/
instance (t : Text × List Text) : Decidable (IsWritable t) :=
  decidable_of_iff (CodePoint.ofChar '=' ∉ t.1 ∧ t.1.IsStripped ∧ ∀ s ∈ t.2, IsOffer s)
    ⟨fun h => ⟨h.1, h.2.1, h.2.2⟩, fun h => ⟨h.noSign, h.stripped, h.offers⟩⟩

/-- The term that the value of an option is about. It is defined for values without an equals sign as
well, so that it can be said of all values which of them are about one term. -/
def term (value : Text) : Text :=
  (value.splitFirst '=').1.strip

/-- A value is parsed as what stands before the first `=`, stripped, and the parts behind it between
commas, stripped as well, of which the empty ones are left out. So a value may end with a comma, or have
no suggestions at all. -/
theorem parse_eq_some_iff {value term : Text} {suggestions : List Text} :
    parse value = some (term, suggestions) ↔ term = TermOption.term value ∧
      ∃ rest, (value.splitFirst '=').2 = some rest ∧
        suggestions = ((Text.splitAll ',' rest).map Text.strip).filter fun s => !s.isEmpty := by
  unfold parse TermOption.term
  split
  · rename_i h
    simp [h]
  · rename_i h
    simp [h, eq_comm]

/-- The term of a value is what stands before the first `=`, stripped. -/
theorem term_of_parse {value : Text} {t : Text × List Text} (h : parse value = some t) :
    t.1 = TermOption.term value :=
  (parse_eq_some_iff.mp h).1

/-- The terms of several values come in the order of the values. -/
theorem terms_of_parse {values : List Text} {ts : List (Text × List Text)}
    (h : values.map parse = ts.map some) : ts.map Prod.fst = values.map TermOption.term := by
  induction values generalizing ts with
  | nil =>
    rw [List.map_eq_nil_iff.mp h.symm]
    rfl
  | cons value values ih =>
    obtain ⟨t, ts, rfl, ht, hrest⟩ := List.map_eq_cons_iff.mp h.symm
    rw [List.map_cons, List.map_cons, term_of_parse ht.symm, ih hrest.symm]

/-- No later term is the one at hand exactly if no later value is about it. -/
theorem forall_term_ne_iff {values : List Text} {ts : List (Text × List Text)} {t : Text}
    (h : values.map parse = ts.map some) :
    (∀ t' ∈ ts, t'.1 ≠ t) ↔ ∀ value ∈ values, TermOption.term value ≠ t := by
  rw [← List.forall_mem_map (f := Prod.fst) (P := (· ≠ t)), terms_of_parse h, List.forall_mem_map]

/-- A value without `=` is refused, and no other one is. -/
theorem parse_eq_none_iff {value : Text} : parse value = none ↔ CodePoint.ofChar '=' ∉ value := by
  rw [← parse_isSome_iff, Option.not_isSome_iff_eq_none]

/-- The suggestions in a value can be written again. -/
theorem isOffer_of_parse {value term : Text} {suggestions : List Text}
    (h : parse value = some (term, suggestions)) {s : Text} (hs : s ∈ suggestions) : IsOffer s := by
  obtain ⟨-, rest, -, rfl⟩ := parse_eq_some_iff.mp h
  obtain ⟨hstripped, hnonempty⟩ := List.mem_filter.mp hs
  obtain ⟨piece, hpiece, rfl⟩ := List.mem_map.mp hstripped
  refine ⟨?_, fun hcomma => ?_, Text.isStripped_strip piece⟩
  · rintro hnil
    rw [hnil] at hnonempty
    cases hnonempty
  · exact Text.notMem_of_mem_splitAll hpiece (Text.mem_of_mem_strip hcomma)

/-- What is written is read back. The conditions on the term and its suggestions are those under which no
sign in them is taken for one of the value. -/
theorem parse_written {t : Text × List Text} (h : IsWritable t) : parse (written t) = some t := by
  obtain ⟨term, suggestions⟩ := t
  -- The term has no sign in it, so the text is split where it was put together.
  have hsplit : Text.splitFirst '=' (written (term, suggestions)) =
      (term, some (Text.joinWith "," suggestions)) := by
    have hwritten : written (term, suggestions) =
        term ++ CodePoint.ofChar '=' :: Text.joinWith "," suggestions :=
      List.append_assoc _ _ _
    rw [hwritten, Text.splitFirst_append _ h.noSign]
  refine parse_eq_some_iff.mpr ⟨?_, _, congrArg Prod.snd hsplit, ?_⟩
  · unfold TermOption.term
    rw [hsplit, Text.strip_of_isStripped h.stripped]
  · cases suggestions with
    | nil => rfl
    | cons s rest =>
      have hpieces : Text.splitAll ',' (Text.joinWith "," (s :: rest)) = s :: rest :=
        Text.splitAll_joinWith (List.cons_ne_nil _ _) fun s hs => (h.offers s hs).noComma
      have hstrip : (s :: rest).map Text.strip = s :: rest :=
        (List.map_congr_left fun s hs => Text.strip_of_isStripped (h.offers s hs).stripped).trans
          (List.map_id _)
      have hfilter : ((s :: rest).filter fun s => !s.isEmpty) = s :: rest :=
        List.filter_eq_self.mpr fun s hs => by simp [(h.offers s hs).nonempty]
      rw [hpieces, hstrip, hfilter]

/-! ## All values -/

/-- The values of an option are read one by one, and put into the map in their order. -/
theorem parseAll_eq_ok_iff {values : List Text} {m : TermMap} :
    parseAll values = .ok m ↔ ∃ ts, values.map parse = ts.map some ∧ m = .ofList ts := by
  unfold parseAll OrderedMap.ofList
  show values.foldlM _ OrderedMap.empty = _ ↔ _
  -- The map grows from the first value on, so the induction has to be about any map to start with.
  generalize (OrderedMap.empty : TermMap) = start
  induction values generalizing start with
  | nil =>
    constructor
    · intro h
      exact ⟨[], rfl, (Except.ok.inj h).symm⟩
    · rintro ⟨ts, hts, rfl⟩
      rw [List.map_eq_nil_iff.mp hts.symm]
      rfl
  | cons value values ih =>
    rw [List.foldlM_cons, List.map_cons]
    cases hvalue : parse value with
    | none =>
      refine iff_of_false (fun h => nomatch h) ?_
      rintro ⟨ts, hts, -⟩
      cases ts <;> cases hts
    | some t =>
      refine (ih (start.put t.1 t.2)).trans ?_
      constructor
      · rintro ⟨ts, hts, rfl⟩
        exact ⟨t :: ts, congrArg (some t :: ·) hts, rfl⟩
      · rintro ⟨ts, hts, rfl⟩
        obtain ⟨_, ts, rfl, heq, hrest⟩ := List.map_eq_cons_iff.mp hts.symm
        cases heq
        exact ⟨ts, hrest.symm, rfl⟩

/-- Values without a `=` are all that is refused. -/
theorem exists_parseAll_eq_error_iff {values : List Text} :
    (∃ value, parseAll values = .error value) ↔ ∃ value ∈ values, CodePoint.ofChar '=' ∉ value := by
  constructor
  · rintro ⟨value, herror⟩
    by_contra hall
    push Not at hall
    obtain ⟨m, hm⟩ := exists_parseAll_eq_ok hall
    rw [herror] at hm
    cases hm
  · rintro ⟨value, hvalue, hsign⟩
    cases hparse : parseAll values with
    | error other => exact ⟨other, rfl⟩
    | ok m =>
      obtain ⟨ts, hts, -⟩ := parseAll_eq_ok_iff.mp hparse
      have hnone : none ∈ ts.map some :=
        hts ▸ List.mem_map.mpr ⟨value, hvalue, parse_eq_none_iff.mpr hsign⟩
      obtain ⟨t, -, ht⟩ := List.mem_map.mp hnone
      cases ht

/-- The last pair with a term is what the last value with that term is read as. -/
theorem exists_last_iff {values : List Text} {ts : List (Text × List Text)} {t : Text}
    {suggestions : List Text} (h : values.map parse = ts.map some) :
    (∃ before after, ts = before ++ (t, suggestions) :: after ∧ ∀ t' ∈ after, t'.1 ≠ t) ↔
      ∃ before value after, values = before ++ value :: after ∧ parse value = some (t, suggestions) ∧
        ∀ other ∈ after, term other ≠ t := by
  constructor
  · rintro ⟨before, after, rfl, hafter⟩
    rw [List.map_append, List.map_cons] at h
    obtain ⟨values₁, values₂, rfl, -, h⟩ := List.map_eq_append_iff.mp h
    obtain ⟨value, values₃, rfl, hvalue, hrest⟩ := List.map_eq_cons_iff.mp h
    exact ⟨values₁, value, values₃, rfl, hvalue, (forall_term_ne_iff hrest).mp hafter⟩
  · rintro ⟨before, value, after, rfl, hvalue, hafter⟩
    rw [List.map_append, List.map_cons, hvalue] at h
    obtain ⟨ts₁, ts₂, rfl, -, h⟩ := List.map_eq_append_iff.mp h.symm
    obtain ⟨_, ts₃, rfl, heq, hrest⟩ := List.map_eq_cons_iff.mp h
    cases heq
    exact ⟨ts₁, ts₃, rfl, (forall_term_ne_iff hrest.symm).mpr hafter⟩

/-- What the values of an option give. A term that is repeated has the place of its first value and the
suggestions of the last one. It is said of the values as they are typed, without the parser. -/
structure Gives (values : List Text) (m : TermMap) : Prop where
  keys : m.keys = (values.map term).eraseDups
  last : ∀ t suggestions, m.get? t = some suggestions ↔
    ∃ before value after, values = before ++ value :: after ∧ parse value = some (t, suggestions) ∧
      ∀ other ∈ after, term other ≠ t
  stripped : ∀ t ∈ m.keys, t.IsStripped
  offers : ∀ e ∈ m.entries, ∀ s ∈ e.2, IsOffer s

/-- The map that is parsed from values is the one that they give. -/
theorem gives_of_parseAll {values : List Text} {m : TermMap} (h : parseAll values = .ok m) :
    Gives values m := by
  obtain ⟨ts, hts, rfl⟩ := parseAll_eq_ok_iff.mp h
  have hkeys : (OrderedMap.ofList ts : TermMap).keys = (values.map term).eraseDups := by
    rw [OrderedMap.keys_ofList, terms_of_parse hts]
  refine ⟨hkeys, fun t suggestions => ?_, fun t ht => ?_, fun e he s hs => ?_⟩
  · rw [OrderedMap.get?_ofList_eq_some_iff]
    exact exists_last_iff hts
  · rw [hkeys, List.mem_eraseDups] at ht
    obtain ⟨value, -, rfl⟩ := List.mem_map.mp ht
    exact Text.isStripped_strip _
  · have hsome : some e ∈ values.map parse :=
      hts ▸ List.mem_map_of_mem (OrderedMap.mem_entries_ofList he)
    obtain ⟨value, -, hvalue⟩ := List.mem_map.mp hsome
    exact isOffer_of_parse hvalue hs

end TermOption

namespace TermsConfig

/-- The configuration that has terms in one section alone. An option is for one of the two sections, so
this is what its values are to be compared with. -/
def ofSection (part : ConfigSection) (m : TermMap) : TermsConfig :=
  match part with
  | .append => ⟨m, ∅⟩
  | .replace => ⟨∅, m⟩

/-- A mapping with one section is read as the terms in this section. -/
theorem ofValue_section {part : ConfigSection} {entries : List (Scalar × Value)} {m : TermMap}
    (h : List.Forall₂ HoldsTerm entries m.entries) :
    ofValue (.mapping [(.text part.key, .mapping entries)]) = .ok (ofSection part m) := by
  refine ofValue_of_holds (.mapping (fun e he => ⟨part, ?_⟩) fun other => ?_)
  · rw [List.mem_singleton.mp he]
  · cases part <;> cases other
    · exact .mapping h
    · exact .missing
    · exact .missing
    · exact .mapping h

end TermsConfig

namespace TermOption

/-- Different terms that can be written as options are read from these as they are, and a mapping that holds
the same terms in one section of a configuration is read as the same map. Values of options are refused
exactly if one of them has no `=`, and all others give a map whose terms and suggestions have no white space
around them and no commas between. -/
theorem parseAll_agrees :
    (∀ ts : List (Text × List Text), (ts.map Prod.fst).Nodup → (∀ t ∈ ts, IsWritable t) →
      ∃ m, parseAll (ts.map written) = .ok m ∧ m.entries = ts ∧
        ∀ part entries, List.Forall₂ TermsConfig.HoldsTerm entries ts →
          TermsConfig.ofValue (.mapping [(.text part.key, .mapping entries)]) =
            .ok (TermsConfig.ofSection part m)) ∧
      ∀ values, ((∃ value, parseAll values = .error value) ↔
          ∃ value ∈ values, CodePoint.ofChar '=' ∉ value) ∧
        ∀ m, parseAll values = .ok m → Gives values m := by
  refine ⟨fun ts hnodup hwritable => ?_, fun values => ⟨exists_parseAll_eq_error_iff, ?_⟩⟩
  · have hentries : (OrderedMap.ofList ts : TermMap).entries = ts :=
      OrderedMap.entries_putAll_of_nodup (m := .empty) hnodup
    have hparse : (ts.map written).map parse = ts.map some := by
      rw [List.map_map]
      exact List.map_congr_left fun t ht => parse_written (hwritable t ht)
    refine ⟨.ofList ts, parseAll_eq_ok_iff.mpr ⟨ts, hparse, rfl⟩, hentries, fun part entries h => ?_⟩
    exact TermsConfig.ofValue_section (hentries.symm ▸ h)
  · exact fun m hm => gives_of_parseAll hm

/-- A term with a comma and a suggestion with a `=`, and a term without suggestions. -/
def signTerms : List (Text × List Text) :=
  [("a,b", ["c = d", "e"]), ("f g", [])]

/-- Options and a mapping with these terms, where a tuple and null stand for the lists. -/
theorem parseAll_agrees_signs :
    ∃ m, parseAll ["a,b=c = d,e", "f g="] = .ok m ∧ m.entries = signTerms ∧
      TermsConfig.ofValue (.mapping [(.text ConfigSection.append.key, .mapping
        [(.text "a,b", .tuple [.scalar (.text "c = d"), .scalar (.text "e")]),
         (.text "f g", .scalar .null)])]) = .ok ⟨m, ∅⟩ := by
  obtain ⟨m, hm, hentries, hsection⟩ := parseAll_agrees.1 signTerms (by decide) (by decide +kernel)
  refine ⟨m, hm, hentries, hsection .append _ (.cons ⟨rfl, .tuple ["c = d", "e"]⟩ (.cons ⟨rfl, .null⟩ .nil))⟩

end TermOption

end TermAudit
