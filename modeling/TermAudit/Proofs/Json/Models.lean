import TermAudit.Proofs.Json.Graph
import TermAudit.Proofs.Model.Reading

/-!
# `TermAudit.Proofs.Json.Models`: models in JSON texts

A model in a JSON text is read as if the text were YAML. `Document.reads_model_iff` says when this
gives the model that the text stands for: the text has to be readable, and what it is read as has to
describe the same model. Both can fail. A tab between tokens makes a text unreadable
(`reads_model_tab`), and a number such as `1e5` is read as a text.
-/

set_option autoImplicit false

namespace TermAudit.JsonText

/-- A string of characters that stand for themselves. Others are left out, so it is meant for strings
without them. -/
def JsonString.ofString (s : String) : JsonString :=
  s.toList.filterMap fun c => if h : isPlainChar c = true then some (.plain c h) else none

namespace Document

variable {d : Document}

/-- A text that is readable is read as the model that its reading describes. -/
theorem Readable.ofText_cases (h : d.Readable) (hdiffer : d.root.keysDiffer = true)
    (hwritable : d.root.isWritable = true) (file : Text) :
    (∃ m, Model.ofText file d.text = .ok m ∧ d.root.reading.model? = some m.unlocated) ∨
      ((∃ e, Model.ofText file d.text = .error e) ∧ d.root.reading.model? = none) := by
  obtain ⟨doc, hdoc, hshows⟩ := h.exists_document hdiffer hwritable
  have hread : Model.ofText file d.text = Model.ofDocument ⟨file, d.text⟩ doc := by
    unfold Model.ofText
    rw [hdoc]
  rw [hread]
  unfold Model.ofDocument
  rcases ModelReader.agrees_document hshows ⟨file, d.text⟩ (.start doc.graph)
      (Yaml.Evaluation.faithful_start doc.graph) with
    ⟨m, s, m', hrun, -, hmodel, rfl⟩ | ⟨⟨e, hrun⟩, hnone⟩
  · exact Or.inl ⟨m, by rw [hrun]; rfl, hmodel⟩
  · exact Or.inr ⟨⟨e, by rw [hrun]; rfl⟩, hnone⟩

/-- Any other text is an error. -/
theorem exists_error_of_not_readable (h : ¬ d.Readable) (file : Text) :
    ∃ e, Model.ofText file d.text = .error e := by
  obtain ⟨fault, hfault⟩ := exists_fault_of_not_readable h
  unfold Model.ofText
  rw [hfault]
  cases fault <;> exact ⟨_, rfl⟩

/-- The model that a JSON text stands for is read from it exactly if the text is readable and its reading
describes the same model. The text is read as a document in flow style, so it can be refused for white space
or for a long key, and numbers and surrogates can be read as something else than they stand for. The
hypotheses leave out texts that say less by themselves: objects with two values for a key, and numbers too
long to be written. -/
theorem reads_model_iff (hdiffer : d.root.keysDiffer = true) (hwritable : d.root.isWritable = true)
    {m : Model} (hm : d.value.model? = some m) (file : Text) :
    (∃ m', Model.ofText file d.text = .ok m' ∧ m'.unlocated = m) ↔
      d.Readable ∧ d.root.reading.model? = d.value.model? := by
  rw [hm]
  constructor
  · rintro ⟨m', hread, rfl⟩
    by_cases hreadable : d.Readable
    · refine ⟨hreadable, ?_⟩
      rcases hreadable.ofText_cases hdiffer hwritable file with ⟨m, hok, hmodel⟩ | ⟨⟨e, herror⟩, -⟩
      · rw [hread] at hok
        cases hok
        exact hmodel
      · rw [hread] at herror
        cases herror
    · obtain ⟨e, herror⟩ := exists_error_of_not_readable hreadable file
      rw [hread] at herror
      cases herror
  · rintro ⟨hreadable, hmodel⟩
    rcases hreadable.ofText_cases hdiffer hwritable file with ⟨m', hok, hmodel'⟩ | ⟨-, hnone⟩
    · rw [hmodel] at hmodel'
      exact ⟨m', hok, (Option.some.inj hmodel').symm⟩
    · rw [hmodel] at hnone
      cases hnone

/-- A text with one shape, which has one trait. Its white space is of all kinds but tabs, to see that none
of it matters. -/
def shapeText : Document :=
  let gap : Gap := [.lineFeed, .space]
  let value : Tree := .string (.ofString "main")
  let traits : Members := .last [] (.ofString "c#d") [] [.space] value []
  let properties : Members :=
    .more gap (.ofString "type") [] [] (.string (.ofString "string")) [.carriageReturn]
      (.last gap (.ofString "traits") [.space] gap (.object traits) gap)
  let shapes : Members := .last gap (.ofString "a#B") [] [] (.object properties) []
  ⟨gap, .object (.last [] (.ofString "shapes") [] [.space] (.object shapes) gap), [.lineFeed]⟩

/-- The theorem at a text over several lines. -/
theorem reads_model_iff_shapeText :
    shapeText.root.keysDiffer = true ∧ shapeText.root.isWritable = true ∧
      ∃ m, shapeText.value.model? = some m ∧
        ((∃ m', Model.ofText "m.json" shapeText.text = .ok m' ∧ m'.unlocated = m) ↔
          shapeText.Readable ∧ shapeText.root.reading.model? = shapeText.value.model?) := by
  have hdiffer : shapeText.root.keysDiffer = true := by decide +kernel
  have hwritable : shapeText.root.isWritable = true := by decide +kernel
  have hmodel : shapeText.value.model?.isSome = true := by decide +kernel
  obtain ⟨m, hm⟩ := Option.isSome_iff_exists.mp hmodel
  exact ⟨hdiffer, hwritable, m, hm, reads_model_iff hdiffer hwritable hm "m.json"⟩

/-- A text with a tab between a colon and an empty object. A tab is white space in JSON, and in YAML it
cannot stand before a token. -/
def tabText : Document :=
  ⟨[], .object (.last [] (.ofString "metadata") [] [.tab] (.emptyObject []) []), []⟩

/-- The text stands for the empty model, but is no document of YAML. The tab in it is white space between
tokens in the one, and cannot begin a token in the other. -/
theorem reads_model_tab :
    tabText.text = Text.ofString "\x7b\"metadata\":\t\x7b\x7d\x7d" ∧
      tabText.root.keysDiffer = true ∧ tabText.root.isWritable = true ∧
      tabText.value.model? = some .empty ∧
      ∀ file, ∃ e, Model.ofText file tabText.text = .error e := by
  have hscan : tabText.root.isScannable = false := by decide +kernel
  have hnot : ¬ tabText.Readable := by
    intro h
    rw [h.scannable] at hscan
    cases hscan
  exact ⟨by decide +kernel, by decide +kernel, by decide +kernel, rfl,
    exists_error_of_not_readable hnot⟩

end Document

end TermAudit.JsonText
