import Mathlib.Data.List.Nodup
import TermAudit.Command.Run
import TermAudit.Proofs.Json.Printed
import TermAudit.Proofs.Terms.Data
import TermAudit.Proofs.Terms.Table
import TermAudit.Proofs.Yaml.Outline

/-!
# `TermAudit.Proofs.Terms.Printed`: printed tables as configurations

A table is printed as a configuration that puts its terms in the place of the built-in ones.
`TermTable.isReproduced_iff` says which tables a reader of configurations gets back from this: it can
be kept from it by a key that is too long for a key, and it reads a code point past the basic plane as
two.
-/

set_option autoImplicit false

namespace TermAudit

open JsonText (Tree JsonString)

/-! ## The printed text -/

/-- The map as the tree of a JSON text. The terms are keys, and the suggestions of each are an array of
strings. -/
def TermMap.tree (depth : Nat) (m : TermMap) : Tree :=
  .ofMembers depth (m.entries.map fun e =>
    (.written e.1, .ofItems (depth + 1) (e.2.map fun s => .string (.written s))))

/-- All texts in the map have the property, terms and suggestions alike. -/
def TermMap.Over (P : Text → Prop) (m : TermMap) : Prop :=
  ∀ e ∈ m.entries, P e.1 ∧ ∀ s ∈ e.2, P s

/-- The map is not changed by being printed and read: its terms are short enough for keys, and all of its
texts are in the basic plane. Both are asked of the printed form, where a term is longer by its
escapes. -/
structure TermMap.Survives (m : TermMap) : Prop where
  keysFit : ∀ term ∈ m.keys, (Json.string term).length ≤ 1024
  basic : m.Over fun t => t.isBasic = true

namespace TermsConfig

variable {c : TermsConfig}

/-- The sections as trees of a JSON text. -/
def sectionTrees (c : TermsConfig) : List (JsonString × Tree) :=
  [(.written ConfigSection.append.key, c.append.tree 1),
   (.written ConfigSection.replace.key, c.replace.tree 1)]

/-- The configuration as a JSON text. It ends with a line feed, as what a command prints does. -/
def document (c : TermsConfig) : JsonText.Document :=
  ⟨[], .ofMembers 0 c.sectionTrees, [.lineFeed]⟩

/-- The configuration as it is printed. -/
def printed (c : TermsConfig) : Text :=
  c.json.printed ++ ("\n" : Text)

/-- The tree of a map prints as the map does, at any depth. -/
theorem prints_tree (depth : Nat) (m : TermMap) : (m.tree depth).Prints depth m.json := by
  refine JsonText.prints_object (List.forall₂_map_left_iff.mpr (List.forall₂_map_right_iff.mpr
    (List.forall₂_same.mpr fun e _ => ⟨rfl, ?_⟩)))
  exact JsonText.prints_array (List.forall₂_map_left_iff.mpr (List.forall₂_map_right_iff.mpr
    (List.forall₂_same.mpr fun s _ => JsonText.prints_string s)))

/-- The printed configuration is a JSON text. -/
theorem text_document (c : TermsConfig) : c.document.text = c.printed := by
  have hroot : (Tree.ofMembers 0 c.sectionTrees).Prints 0 c.json :=
    JsonText.prints_object
      (.cons ⟨rfl, prints_tree 1 c.append⟩ (.cons ⟨rfl, prints_tree 1 c.replace⟩ .nil))
  unfold JsonText.Document.text JsonText.Document.chars document printed Json.printed
  rw [← hroot, Text.ofChars_append, Text.ofChars_append]
  rfl

/-- The printed configuration has nothing but what may stand in a line, and line feeds. So it can be read as
a document without being refused for a code point. -/
theorem all_printed (c : TermsConfig) : c.printed.all Json.isLinePoint = true := by
  unfold printed Json.printed
  rw [List.all_append, Json.all_printedAt]
  rfl

/-! ## The text as a document -/

/-- The tree of a map has strings in lists under strings, and no other values. -/
theorem isPlain_tree (depth : Nat) (m : TermMap) : (m.tree depth).IsPlain := by
  refine JsonText.isPlain_ofMembers fun e he => ?_
  obtain ⟨entry, -, rfl⟩ := List.mem_map.mp he
  refine ⟨⟨entry.1, rfl⟩, JsonText.isPlain_ofItems fun t ht => ?_⟩
  obtain ⟨s, -, rfl⟩ := List.mem_map.mp ht
  exact JsonText.isPlain_string s

/-- The tree of a configuration has the trees of two maps under strings. -/
theorem isPlain_root (c : TermsConfig) : c.document.root.IsPlain := by
  show (Tree.ofMembers 0 c.sectionTrees).IsPlain
  refine JsonText.isPlain_ofMembers fun e he => ?_
  rcases List.mem_pair.mp he with rfl | rfl
  · exact ⟨⟨_, rfl⟩, isPlain_tree 1 c.append⟩
  · exact ⟨⟨_, rfl⟩, isPlain_tree 1 c.replace⟩

/-- The keys of a map fit if each of its terms takes at most 1024 characters as it is printed, quotation
marks and escapes counted. Suggestions are no keys and may be longer. -/
theorem keysFit_tree_iff {depth : Nat} {m : TermMap} : (m.tree depth).keysFit = true ↔
    ∀ term ∈ m.keys, (Json.string term).length ≤ 1024 := by
  have hstrings (l : List Text) :
      (Tree.ofItems (depth + 1) (l.map fun s => .string (.written s))).keysFit = true := by
    rw [(JsonText.keys_ofItems _).1]
    refine List.all_eq_true.mpr fun t ht => ?_
    obtain ⟨s, -, rfl⟩ := List.mem_map.mp ht
    rfl
  unfold TermMap.tree OrderedMap.keys
  rw [JsonText.keysFit_ofMembers, List.all_map, List.all_eq_true, List.forall_mem_map]
  refine forall₂_congr fun e _ => ?_
  rw [Function.comp_apply, hstrings, Bool.and_true, JsonString.fitsKey_written, decide_eq_true_eq]

/-- The keys of a configuration fit if those of both maps do. The two names of sections are short enough. -/
theorem keysFit_root_iff : c.document.root.keysFit = true ↔
    (∀ term ∈ c.append.keys, (Json.string term).length ≤ 1024) ∧
      ∀ term ∈ c.replace.keys, (Json.string term).length ≤ 1024 := by
  have hsections : (Json.string ConfigSection.append.key).length ≤ 1024 ∧
      (Json.string ConfigSection.replace.key).length ≤ 1024 := by
    decide
  show (Tree.ofMembers 0 c.sectionTrees).keysFit = true ↔ _
  unfold sectionTrees
  rw [JsonText.keysFit_ofMembers, List.all_cons, List.all_cons, List.all_nil]
  dsimp only
  rw [JsonString.fitsKey_written, JsonString.fitsKey_written, decide_eq_true hsections.1,
    decide_eq_true hsections.2, Bool.true_and, Bool.true_and, Bool.and_true, Bool.and_eq_true,
    keysFit_tree_iff, keysFit_tree_iff]

/-- The printed configuration is a document if its terms are short enough for keys. -/
theorem readable_iff : c.document.Readable ↔ c.document.root.keysFit = true := by
  constructor
  · exact fun h => h.keysFit
  · intro hfit
    refine ⟨fun x hx => ?_, rfl, rfl, (isPlain_root c).scannable, hfit⟩
    have hmem : CodePoint.ofChar x ∈ c.printed := by
      rw [← text_document]
      exact List.mem_map_of_mem hx
    have hline := List.all_eq_true.mp (all_printed c) _ hmem
    unfold Json.isLinePoint at hline
    unfold Yaml.Source.allows
    simp only [Bool.or_eq_true, Bool.and_eq_true, decide_eq_true_eq, beq_iff_eq] at hline ⊢
    omega

/-! ## The document as data -/

/-- The keys of a map differ when they are read, if its terms are in the basic plane. Past it two different
terms could be read as the same units. -/
theorem keysDiffer_tree {depth : Nat} {m : TermMap} (h : ∀ term ∈ m.keys, term.isBasic = true) :
    (m.tree depth).keysDiffer = true := by
  -- Lists of suggestions have no keys.
  have hstrings (l : List Text) :
      (Tree.ofItems (depth + 1) (l.map fun s => .string (.written s))).keysDiffer = true := by
    rw [(JsonText.keys_ofItems _).2]
    refine List.all_eq_true.mpr fun t ht => ?_
    obtain ⟨s, -, rfl⟩ := List.mem_map.mp ht
    rfl
  -- Terms are different texts, and the printer writes different strings for them.
  have hnodup : (m.keys.map fun term => JsonString.value (.written term)).Nodup := by
    refine List.Nodup.map_on (fun s hs t ht heq => ?_) m.nodup
    exact JsonString.value_written_inj (h s hs) (h t ht) heq
  unfold TermMap.tree
  rw [JsonText.keysDiffer_ofMembers, List.map_map, List.map_map, Bool.and_eq_true]
  refine ⟨decide_eq_true ?_, ?_⟩
  · rw [OrderedMap.keys, List.map_map] at hnodup
    exact hnodup
  · rw [List.all_map]
    exact List.all_eq_true.mpr fun e _ => hstrings e.2

/-- A map in the basic plane is read as it was. -/
theorem reading_tree (depth : Nat) {m : TermMap} (h : m.Over fun t => t.isBasic = true) :
    (m.tree depth).reading = mapValue m := by
  -- A text in the basic plane is its own units, so it is read as it was.
  have hread {t : Text} (ht : t.isBasic = true) : JsonString.reading (.written t) = t := by
    rw [JsonString.reading_written, Text.units_of_isBasic ht]
  have hstrings {l : List Text} (hl : ∀ s ∈ l, s.isBasic = true) :
      (Tree.ofItems (depth + 1) (l.map fun s => .string (.written s))).reading =
        .list (l.map fun s => .scalar (.text s)) := by
    unfold Tree.reading
    rw [JsonText.Tree.data_ofItems, List.map_map]
    refine congrArg Value.list (List.map_congr_left fun s hs => ?_)
    exact congrArg (fun t => Value.scalar (.text t)) (hread (hl s hs))
  unfold TermMap.tree Tree.reading mapValue
  rw [JsonText.Tree.data_ofMembers, List.map_map]
  refine congrArg Value.mapping (List.map_congr_left fun e he => ?_)
  obtain ⟨hterm, hsuggestions⟩ := h e he
  exact Prod.ext (congrArg Scalar.text (hread hterm)) (hstrings hsuggestions)

/-- A configuration that survives is read as it was. -/
theorem reading_root (happend : c.append.Over fun t => t.isBasic = true)
    (hreplace : c.replace.Over fun t => t.isBasic = true) :
    c.document.root.reading = c.toValue := by
  have hkey (part : ConfigSection) : JsonString.reading (.written part.key) = part.key := by
    rw [JsonString.reading_written, Text.units_of_isBasic]
    cases part <;> decide
  show (Tree.ofMembers 0 c.sectionTrees).reading = _
  unfold Tree.reading
  rw [JsonText.Tree.data_ofMembers]
  unfold sectionTrees toValue
  rw [List.map_cons, List.map_cons, hkey, hkey]
  have hvalues := And.intro (reading_tree 1 happend) (reading_tree 1 hreplace)
  unfold Tree.reading at hvalues
  rw [hvalues.1, hvalues.2]
  rfl

/-- A configuration in plain data ends with the suggestions. -/
theorem ends_toValue (c : TermsConfig) : c.toValue.Ends depth := by
  have hmap (m : TermMap) : (mapValue m).Ends 3 := by
    intro e he
    obtain ⟨entry, -, rfl⟩ := List.mem_map.mp he
    intro v hv
    obtain ⟨s, -, rfl⟩ := List.mem_map.mp hv
    exact trivial
  intro e he
  rcases List.mem_pair.mp he with rfl | rfl
  · exact hmap c.append
  · exact hmap c.replace

/-- A configuration that is read is that of a document, or there is no document and no term. -/
theorem document_of_ofText {text : Text} (h : ofText text = .ok c) :
    (Yaml.Document.ofText text = .ok none ∧ c = empty) ∨
      ∃ d v, Yaml.Document.ofText text = .ok (some d) ∧ Yaml.Outline.ofDocument depth d = .ok v ∧
        ofValue v = .ok c := by
  unfold ofText at h
  cases hdocument : Yaml.Document.ofText text with
  | error fault =>
    rw [hdocument] at h
    -- No text whose document cannot be read is a configuration.
    cases fault <;> cases h
  | ok read =>
    rw [hdocument] at h
    cases read with
    | none =>
      cases h
      exact Or.inl ⟨rfl, rfl⟩
    | some d =>
      dsimp only [bind, Except.bind] at h
      -- Nor is one whose value cannot be made.
      cases hvalue : Yaml.Outline.ofDocument depth d with
      | error fault =>
        rw [hvalue] at h
        cases fault <;> cases h
      | ok v =>
        rw [hvalue] at h
        exact Or.inr ⟨d, v, rfl, hvalue, h⟩

/-- What the printed configuration is read as, if its maps survive. -/
theorem ofText_printed (happend : c.append.Survives) (hreplace : c.replace.Survives) :
    ofText c.printed = .ok c := by
  have hreadable : c.document.Readable :=
    readable_iff.mpr (keysFit_root_iff.mpr ⟨happend.keysFit, hreplace.keysFit⟩)
  have hkeys {m : TermMap} (h : m.Survives) : ∀ term ∈ m.keys, term.isBasic = true := by
    intro term hterm
    obtain ⟨e, he, rfl⟩ := List.mem_map.mp hterm
    exact (h.basic e he).1
  -- The two sections have different names, and so have the terms in each of them.
  have hdiffer : c.document.root.keysDiffer = true := by
    show (Tree.ofMembers 0 c.sectionTrees).keysDiffer = true
    rw [JsonText.keysDiffer_ofMembers]
    unfold sectionTrees
    rw [List.all_cons, List.all_cons, keysDiffer_tree (hkeys happend),
      keysDiffer_tree (hkeys hreplace)]
    rfl
  -- The printed text is a document that shows the value that was printed.
  obtain ⟨d, hd, hshows⟩ := hreadable.exists_document hdiffer (isPlain_root c).writable
  rw [reading_root happend.basic hreplace.basic] at hshows
  have hvalue := Yaml.Outline.ofDocument_of_shows hshows (ends_toValue c)
  rw [text_document] at hd
  unfold ofText
  rw [hd]
  dsimp only [bind, Except.bind]
  rw [hvalue]
  exact ofValue_toValue c

/-! ## The document read back -/

variable {P : Text → Prop}

/-- If all texts of a value have the property, so has the text that the value is. -/
theorem over_text {v : Value} {s : Text} (hv : v.Over P) (h : v.text? = some s) : P s := by
  unfold Value.text? at h
  split at h
  · cases h
    cases hv with
    | scalar hx => exact hx _ rfl
  · cases h

/-- If all texts of some items have the property, so have the texts that the items are. -/
theorem over_texts {items : List Value} {l : List Text} (hitems : ∀ v ∈ items, v.Over P)
    (h : items.mapM Value.text? = some l) : ∀ s ∈ l, P s := by
  induction items generalizing l with
  | nil =>
    cases h
    exact fun _ hs => absurd hs List.not_mem_nil
  | cons v items ih =>
    rw [List.mapM_cons] at h
    obtain ⟨s, hs, h⟩ := Option.bind_eq_some_iff.mp h
    obtain ⟨l', hl', h⟩ := Option.bind_eq_some_iff.mp h
    cases h
    obtain ⟨hv, hrest⟩ := List.forall_mem_cons.mp hitems
    exact List.forall_mem_cons.mpr ⟨over_text hv hs, ih hrest hl'⟩

/-- Suggestions that are read of a value have the property if all texts of the value have it. -/
theorem over_suggestions {v : Value} {l : List Text} (hv : v.Over P)
    (h : suggestions? v = some l) : ∀ s ∈ l, P s := by
  unfold suggestions? at h
  split at h
  · cases h
    exact fun _ hs => absurd hs List.not_mem_nil
  · cases hv with
    | list hall => exact over_texts hall h
  · cases hv with
    | tuple hall => exact over_texts hall h
  · cases h

/-- A term that is put into a map keeps the property of all its texts. -/
theorem over_putTerm {part : ConfigSection} {m m' : TermMap} {entry : Scalar × Value}
    (hm : m.Over P) (hkey : entry.1.Over P) (hvalue : entry.2.Over P)
    (h : putTerm part m entry = .ok m') : m'.Over P := by
  obtain ⟨key, value⟩ := entry
  unfold putTerm at h
  split at h
  · rename_i term value' heq
    cases heq
    split at h
    · -- What is put is the term itself with its suggestions.
      rename_i suggestions hsuggestions
      cases h
      intro e he
      rcases OrderedMap.mem_entries_put he with rfl | he
      · exact ⟨hkey term rfl, over_suggestions hvalue hsuggestions⟩
      · exact hm e he
    · cases h
  · split at h
    · cases h
    · cases h

/-- Terms that are put one after the other keep the property of all texts of the map. -/
theorem over_putTerms {part : ConfigSection} {terms : List (Scalar × Value)} {m m' : TermMap}
    (hm : m.Over P) (hterms : ∀ e ∈ terms, e.1.Over P ∧ e.2.Over P)
    (h : terms.foldlM (putTerm part) m = .ok m') : m'.Over P := by
  induction terms generalizing m with
  | nil =>
    cases h
    exact hm
  | cons e terms ih =>
    rw [List.foldlM_cons] at h
    obtain ⟨next, hnext, h⟩ := bind_eq_ok_iff.mp h
    obtain ⟨he, hterms⟩ := List.forall_mem_cons.mp hterms
    exact ih (over_putTerm hm he.1 he.2 hnext) hterms h

/-- The empty map has no texts. -/
theorem over_empty : TermMap.Over P ∅ :=
  fun _ he => absurd he List.not_mem_nil

/-- The terms and suggestions of a section are texts of the value. -/
theorem over_sectionTerms {part : ConfigSection} {entries : List (Scalar × Value)} {m : TermMap}
    (hv : (Value.mapping entries).Over P)
    (h : sectionTerms part (sectionValue? part entries) = .ok m) : m.Over P := by
  cases hsection : sectionValue? part entries with
  | none =>
    rw [hsection] at h
    cases h
    exact over_empty
  | some value =>
    -- The value of the section is one of the values of the mapping.
    have hvalue : value.Over P := by
      unfold sectionValue? at hsection
      obtain ⟨e, he, rfl⟩ := Option.map_eq_some_iff.mp hsection
      cases hv with
      | mapping _ hvalues => exact hvalues e (List.mem_of_find?_eq_some he)
    rw [hsection] at h
    unfold sectionTerms at h
    split at h
    · cases h
      exact over_empty
    · cases h
      exact over_empty
    · rename_i terms heq
      cases heq
      cases hvalue with
      | mapping hkeys hvalues =>
        exact over_putTerms over_empty (fun e he => ⟨hkeys e he, hvalues e he⟩) h
    · cases h

/-- A configuration has no other texts than the value that it is read from. -/
theorem over_ofValue {v : Value} (hv : v.Over P) (h : ofValue v = .ok c) :
    c.append.Over P ∧ c.replace.Over P := by
  rcases sections_of_ofValue h with ⟨-, rfl⟩ | ⟨entries, rfl, -, hterms⟩
  · exact ⟨over_empty, over_empty⟩
  · exact ⟨over_sectionTerms hv (hterms .append), over_sectionTerms hv (hterms .replace)⟩

/-- Whatever a printed configuration is read as is in the basic plane, and it is only read if its
terms are short enough for keys. -/
theorem basic_of_ofText_printed {c' : TermsConfig} (h : ofText c.printed = .ok c') :
    c.document.Readable ∧ c'.append.Over (fun t => t.isBasic = true) ∧
      c'.replace.Over fun t => t.isBasic = true := by
  -- Whatever is printed, it stands for units.
  have hspeaks (depth : Nat) (m : TermMap) : (m.tree depth).Speaks fun t => t.isBasic = true := by
    refine JsonText.speaks_ofMembers fun e he => ?_
    obtain ⟨entry, -, rfl⟩ := List.mem_map.mp he
    refine ⟨JsonString.reading_written entry.1 ▸ Text.isBasic_units entry.1,
      JsonText.speaks_ofItems fun t ht => ?_⟩
    obtain ⟨s, -, rfl⟩ := List.mem_map.mp ht
    exact JsonText.speaks_string (Text.isBasic_units s)
  have hroot : c.document.root.Speaks fun t => t.isBasic = true := by
    show (Tree.ofMembers 0 c.sectionTrees).Speaks _
    refine JsonText.speaks_ofMembers fun e he => ?_
    rcases List.mem_pair.mp he with rfl | rfl
    · exact ⟨JsonString.reading_written _ ▸ Text.isBasic_units _, hspeaks 1 c.append⟩
    · exact ⟨JsonString.reading_written _ ▸ Text.isBasic_units _, hspeaks 1 c.replace⟩
  rcases document_of_ofText h with ⟨hd, rfl⟩ | ⟨d, v, hd, hv, hc⟩
  · rw [← text_document] at hd
    exact ⟨JsonText.Document.readable_of_ofText hd, over_empty, over_empty⟩
  · rw [← text_document] at hd
    -- The document has no other texts than the printed text, and neither has its value.
    have hover := JsonText.Document.over_ofText (P := fun t => t.isBasic = true) rfl hroot hd
    exact ⟨JsonText.Document.readable_of_ofText hd,
      over_ofValue (Yaml.Outline.over_ofDocument hover hv) hc⟩

end TermsConfig

namespace TermTable

/-- The configuration that a table is printed as: its terms in the place of the built-in ones. In this way
nothing of the built-in terms comes back when it is read, whatever they are then. -/
def config (t : TermTable) : TermsConfig :=
  ⟨∅, t.terms⟩

/-- The built-in terms are in the basic plane. -/
theorem over_builtIn : TermMap.builtIn.Over fun t => t.isBasic = true := by
  have hall : (TermMap.builtIn.entries.all fun e => e.1.isBasic && e.2.all Text.isBasic) = true := by
    decide +kernel
  intro e he
  have hbasic := List.all_eq_true.mp hall e he
  rw [Bool.and_eq_true] at hbasic
  exact ⟨hbasic.1, List.all_eq_true.mp hbasic.2⟩

/-- A table that a configuration in the basic plane makes of the built-in terms is there as well. -/
theorem over_table {c : TermsConfig} {t : TermTable}
    (happend : c.append.Over fun t => t.isBasic = true)
    (hreplace : c.replace.Over fun t => t.isBasic = true)
    (h : c.table TermMap.builtIn = .ok t) : t.terms.Over fun t => t.isBasic = true := by
  obtain ⟨-, -, rfl⟩ := resolve_eq_ok_iff.mp h
  intro e he
  obtain ⟨used, hused, rfl⟩ := List.mem_map.mp (OrderedMap.mem_entries_ofList he)
  have hbasic : used.1.isBasic = true ∧ ∀ s ∈ used.2, s.isBasic = true := by
    unfold usedEntries at hused
    split at hused
    · rcases List.mem_append.mp hused with hused | hused
      · exact over_builtIn used hused
      · exact happend used hused
    · exact hreplace used hused
  exact ⟨Text.isBasic_lower hbasic.1, hbasic.2⟩

/-- A table is made again of the configuration that it is printed as exactly if it survives. -/
theorem config_found_iff {c : TermsConfig} {t : TermTable} (h : c.table TermMap.builtIn = .ok t) :
    (∃ c' : TermsConfig, TermsConfig.ofText t.config.printed = .ok c' ∧
      c'.table TermMap.builtIn = .ok t) ↔ t.terms.Survives := by
  constructor
  · rintro ⟨c', hread, htable⟩
    obtain ⟨hreadable, happend, hreplace⟩ := TermsConfig.basic_of_ofText_printed hread
    have hfit := TermsConfig.keysFit_root_iff.mp (TermsConfig.readable_iff.mp hreadable)
    exact ⟨hfit.2, over_table happend hreplace htable⟩
  · intro hsurvives
    have hempty : TermMap.Survives ∅ :=
      ⟨fun _ hterm => absurd hterm List.not_mem_nil, TermsConfig.over_empty⟩
    exact ⟨t.config, TermsConfig.ofText_printed hempty hsurvives, table_config h⟩

end TermTable

end TermAudit
