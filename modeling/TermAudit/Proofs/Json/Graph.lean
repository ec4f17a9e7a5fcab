import TermAudit.Proofs.Json.Events
import TermAudit.Proofs.Json.Numbers
import TermAudit.Proofs.Yaml.Graph

/-!
# `TermAudit.Proofs.Json.Graph`: the document that a JSON text is read as

A JSON text that is readable is a document, and its graph shows the reading of the text
(`Document.Readable.exists_document`). Any other is none (`Document.exists_fault_of_not_readable`).
Keys that differ are read as different texts, because a key that fits has no line breaks that could be
folded.
-/

set_option autoImplicit false

namespace TermAudit.JsonText

open Yaml (Builder Graph NodeId Source.isBreak Source.allows)
open Yaml.Builder (GivesValue GivesItems GivesEntries)

/-! ## Keys -/

namespace JsonString

/-- A string without line breaks that stand for themselves is read part by part. -/
theorem readingFrom_of_breakless {s : JsonString} (h : ∀ p ∈ s, p.break? = none) :
    readingFrom none s = s.map StringPart.codePoint := by
  induction s with
  | nil => rfl
  | cons p rest ih =>
    have hrest : ∀ q ∈ rest, q.break? = none := fun q hq => h q (List.mem_cons_of_mem _ hq)
    -- No line starts in the rest, since the first part that is no space is no break either.
    have hstarts : startsLine rest = false := by
      unfold startsLine
      cases hhead : (rest.dropWhile StringPart.isSpace).head? with
      | none => rfl
      | some q =>
        have hmem : q ∈ rest := (List.dropWhile_sublist _).mem (List.mem_of_head? hhead)
        rw [Option.bind_some, hrest q hmem]
        rfl
    unfold readingFrom
    rw [hstarts, h p (List.mem_cons_self ..), ih hrest, List.map_cons]
    cases p.isSpace
    · rfl
    · rfl

/-- What a key that fits stands for can be told from what it is read as. -/
theorem value_of_fitsKey {key : JsonString} {g : Gap} (h : fitsKey key g = true) :
    value key = paired (reading key) := by
  have hbreakless : ∀ p ∈ key, p.break? = none := by
    intro p hp
    obtain ⟨cs, hcs⟩ := p.chars_eq_cons
    have hmem : p.first ∈ chars key ++ gapChars g := by
      have hinner : p.first ∈ inner key :=
        List.mem_flatMap.mpr ⟨p, hp, by rw [hcs]; exact List.mem_cons_self ..⟩
      exact List.mem_append_left _ (List.mem_cons_of_mem _ (List.mem_append_left _ hinner))
    unfold fitsKey at h
    rw [Bool.and_eq_true, Bool.not_eq_true', List.any_eq_false] at h
    rw [p.break?_eq, if_neg (h.2 _ hmem)]
  unfold value reading
  rw [readingFrom_of_breakless hbreakless]

end JsonString

namespace Members

/-- The keys of an object are its strings, in their order. -/
theorem keys_data (string : JsonString → Text) (number : Number → Scalar) (members : Members) :
    (members.data string number).map Prod.fst = members.keys.map fun key => .text (string key) := by
  match members with
  | .last _ _ _ _ _ _ => rfl
  | .more _ key _ _ _ _ rest => exact congrArg (List.cons _) (rest.keys_data string number)

/-- What a key of an object stands for can be told from what it is read as, if all keys of the object fit.
Induction on the members. -/
theorem value_of_mem_keys {members : Members} (hfit : members.keysFit = true) {key : JsonString}
    (h : key ∈ members.keys) : JsonString.value key = JsonString.paired (JsonString.reading key) := by
  match members with
  | .last _ key' behindKey _ _ _ =>
    rw [keysFit, Bool.and_eq_true] at hfit
    rw [List.mem_singleton.mp h]
    exact JsonString.value_of_fitsKey hfit.1
  | .more _ key' behindKey _ _ _ rest =>
    rw [keysFit, Bool.and_eq_true, Bool.and_eq_true] at hfit
    rcases List.mem_cons.mp h with rfl | h
    · exact JsonString.value_of_fitsKey hfit.1.1
    · exact rest.value_of_mem_keys hfit.2 h

/-- Keys that stand for different texts are read as different texts. -/
theorem nodup_reading {members : Members} (hfit : members.keysFit = true)
    (h : (members.keys.map JsonString.value).Nodup) :
    ((members.data JsonString.reading Number.reading).map Prod.fst).Nodup := by
  rw [keys_data]
  rw [List.map_congr_left fun key hkey => value_of_mem_keys hfit hkey] at h
  rw [List.nodup_iff_pairwise_ne, List.pairwise_map] at h ⊢
  exact h.imp fun hne heq => hne (by rw [Scalar.text.inj heq])

end Members

/-! ## Nodes -/

mutual

/-- The node of a value shows its reading. -/
theorem Tree.gives (t : Tree) (hfit : t.keysFit = true) (hdiffer : t.keysDiffer = true)
    (hwritable : t.isWritable = true) : GivesValue t.happenings t.reading := by
  match t with
  | .null => exact Builder.givesValue_scalar fun g id => shows_null
  | .bool true =>
    exact Builder.givesValue_scalar fun g id =>
      shows_bool ofPlain_truthWords.1 readBool_truthWords.1
  | .bool false =>
    exact Builder.givesValue_scalar fun g id =>
      shows_bool ofPlain_truthWords.2 readBool_truthWords.2
  | .number n => exact Builder.givesValue_scalar fun g id => n.shows_reading hwritable
  | .string s => exact Builder.givesValue_scalar fun g id htag hcontent => .text _ htag hcontent
  | .emptyArray _ => exact Builder.givesValue_list Builder.givesItems_nil
  | .array items => exact Builder.givesValue_list (items.gives hfit hdiffer hwritable)
  | .emptyObject _ =>
    have hnodup : (List.map Prod.fst ([] : List (Scalar × Value))).Nodup := List.nodup_nil
    exact Builder.givesValue_mapping hnodup Builder.givesEntries_nil
  | .object members =>
    rw [Tree.keysDiffer, Bool.and_eq_true] at hdiffer
    exact Builder.givesValue_mapping
      (Members.nodup_reading hfit (of_decide_eq_true hdiffer.1))
      (members.gives hfit hdiffer.2 hwritable)

/-- The nodes of items. -/
theorem Items.gives (items : Items) (hfit : items.keysFit = true)
    (hdiffer : items.keysDiffer = true) (hwritable : items.isWritable = true) :
    GivesItems items.happenings (items.data JsonString.reading Number.reading) := by
  match items with
  | .last _ item _ =>
    have hall := Builder.givesItems_cons (item.gives hfit hdiffer hwritable) Builder.givesItems_nil
    rw [List.append_nil] at hall
    exact hall
  | .more _ item _ rest =>
    rw [Items.keysFit, Bool.and_eq_true] at hfit
    rw [Items.keysDiffer, Bool.and_eq_true] at hdiffer
    rw [Items.isWritable, Bool.and_eq_true] at hwritable
    exact Builder.givesItems_cons (item.gives hfit.1 hdiffer.1 hwritable.1)
      (rest.gives hfit.2 hdiffer.2 hwritable.2)

/-- The nodes of members. -/
theorem Members.gives (members : Members) (hfit : members.keysFit = true)
    (hdiffer : members.keysDiffer = true) (hwritable : members.isWritable = true) :
    GivesEntries members.happenings (members.data JsonString.reading Number.reading) := by
  match members with
  | .last _ key _ _ item _ =>
    rw [Members.keysFit, Bool.and_eq_true] at hfit
    have hall : GivesEntries (bareScalar .string (JsonString.reading key) :: item.happenings ++ [])
        [(.text (JsonString.reading key), item.reading)] :=
      Builder.givesEntries_cons (item.gives hfit.2 hdiffer hwritable) Builder.givesEntries_nil
    rw [List.append_nil] at hall
    exact hall
  | .more _ key _ _ item _ rest =>
    rw [Members.keysFit, Bool.and_eq_true, Bool.and_eq_true] at hfit
    rw [Members.keysDiffer, Bool.and_eq_true] at hdiffer
    rw [Members.isWritable, Bool.and_eq_true] at hwritable
    exact Builder.givesEntries_cons (item.gives hfit.1.2 hdiffer.1 hwritable.1)
      (rest.gives hfit.2 hdiffer.2 hwritable.2)

end

/-! ## Documents -/

/-- A text is read if all its characters are allowed. -/
theorem source_chars_ofChars (cs : List Char) :
    ((∀ c ∈ cs, Source.allows (.ofChar c) = true) ∧ Yaml.Source.chars (.ofChars cs) = .ok cs) ∨
    (¬ (∀ c ∈ cs, Source.allows (.ofChar c) = true) ∧
      ∃ fault, Yaml.Source.chars (.ofChars cs) = .error fault) := by
  -- All code points are characters here, so none gets lost when the text is turned into characters.
  have hfilter : (Text.ofChars cs).filterMap CodePoint.toChar? = cs := by
    unfold Text.ofChars
    rw [List.filterMap_map]
    have heach : CodePoint.toChar? ∘ CodePoint.ofChar = some := funext toChar?_ofChar
    rw [heach, List.filterMap_some]
  unfold Yaml.Source.chars
  cases hfind : (Text.ofChars cs).findIdx? fun c => !Source.allows c with
  | none =>
    refine Or.inl ⟨fun c hc => ?_, congrArg Except.ok hfilter⟩
    have hall := List.findIdx?_eq_none_iff.mp hfind (.ofChar c) (List.mem_map_of_mem hc)
    simpa using hall
  | some i =>
    refine Or.inr ⟨fun hall => ?_, _, rfl⟩
    obtain ⟨hi, hnot, -⟩ := List.findIdx?_eq_some_iff_getElem.mp hfind
    obtain ⟨c, hc, heq⟩ := List.mem_map.mp (List.getElem_mem hi)
    rw [← heq, hall c hc] at hnot
    cases hnot

namespace Document

variable {d : Document}

/-- A JSON text whose characters are allowed is read as its events say. -/
theorem readable_iff (d : Document) : d.Readable ↔
    (∀ c ∈ d.chars, Source.allows (.ofChar c) = true) ∧
      d.isScannable = true ∧ d.root.keysFit = true := by
  unfold Document.isScannable
  constructor
  · intro h
    rw [h.before, h.scannable, h.after]
    exact ⟨h.printable, rfl, h.keysFit⟩
  · rintro ⟨hprintable, hscan, hfit⟩
    rw [Bool.and_eq_true, Bool.and_eq_true] at hscan
    exact ⟨hprintable, hscan.1.1, hscan.2, hscan.1.2, hfit⟩

/-- A JSON text that a reader of YAML accepts is the document of its reading. Its graph shows the value,
so making values of it needs no look at the text any more. -/
theorem Readable.exists_document (h : d.Readable) (hdiffer : d.root.keysDiffer = true)
    (hwritable : d.root.isWritable = true) :
    ∃ doc : Yaml.Document, Yaml.Document.ofText d.text = .ok (some doc) ∧
      doc.graph.Shows doc.root d.root.reading := by
  have hgives := d.root.gives h.keysFit hdiffer hwritable
  obtain ⟨hprintable, hgood⟩ := d.readable_iff.mp h
  rcases d.events with ⟨-, -, hfault, hevents⟩ | ⟨hbad, -⟩
  · obtain ⟨doc, hdoc, hshows⟩ := Yaml.Document.exists_of_gives hgives hfault hevents
    rcases source_chars_ofChars d.chars with ⟨-, hchars⟩ | ⟨hnot, -⟩
    · exact ⟨doc, bind_eq_ok_iff.mpr ⟨d.chars, hchars, hdoc⟩, hshows⟩
    · exact absurd hprintable hnot
  · exact absurd hgood hbad

/-- Any other JSON text is no document. Which fault it has depends on what is met first, and does not
matter here. -/
theorem exists_fault_of_not_readable (h : ¬ d.Readable) :
    ∃ fault, Yaml.Document.ofText d.text = .error fault := by
  rw [readable_iff, not_and] at h
  rcases source_chars_ofChars d.chars with ⟨hprintable, hchars⟩ | ⟨-, fault, hchars⟩
  · rcases d.events with ⟨hscan, hfit, -⟩ | ⟨-, hends⟩
    · exact absurd ⟨hscan, hfit⟩ (h hprintable)
    · obtain ⟨fault, hfault⟩ := Yaml.Document.exists_error_of_fault hends
      exact ⟨fault, bind_eq_error_iff.mpr (Or.inr ⟨d.chars, hchars, hfault⟩)⟩
  · exact ⟨fault, bind_eq_error_iff.mpr (Or.inl hchars)⟩

end Document

end TermAudit.JsonText
