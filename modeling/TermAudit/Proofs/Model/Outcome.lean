import TermAudit.Proofs.Loading
import TermAudit.Proofs.Yaml.Wording

/-!
# `TermAudit.Proofs.Model.Outcome`: what becomes of a text that is read as a model

Reading a model ought to end with an answer: the model, or an error at a place in the named file. Some
faults in a document are not made into such an error. `Model.Escape` says which faults these are and
what in the text they come from, and `Model.ofText_answers_or_escapes` that there is nothing else.

Two kinds of faults escape. A number in the text can be too large while the text is still read as
characters and tokens; and a scalar in a value can have a text that its tag has no reading for, which is
no fault of the document's form.
-/

set_option autoImplicit false

namespace TermAudit

open Yaml

/-- The result of reading the named file is an answer: a model, or an error at a place in the file. An
error without a place in this file would not tell its reader where to look. -/
def IsAnswer (file : Text) : Except ReadError Model → Prop
  | .ok _ => True
  | .error (.model error) => error.location.file = file
  | .error _ => False

/-- Whether a result is an answer can be computed. -/
instance (file : Text) : DecidablePred (IsAnswer file)
  | .ok _ => inferInstanceAs (Decidable True)
  | .error (.model error) => inferInstanceAs (Decidable (error.location.file = file))
  | .error (.fault _) => inferInstanceAs (Decidable False)
  | .error .impossiblePath => inferInstanceAs (Decidable False)

namespace Model

/-- A fault in the text that no error of a model reports. The two cases are the two stages of reading: the
text has to become a document before values are made. -/
inductive Escape (text : Text) : Fault → Prop
  /-- An escape for a character that does not exist, or a version with too many digits. -/
  | ofText {fault : Fault} (h : Document.ofText text = .error fault) (hfault : fault.OfText)
    (hnot : ∀ report, fault ≠ .malformed report) : Escape text fault
  /-- A scalar that cannot be made in the document. -/
  | ofValue {d : Document} {fault : Fault} (h : Document.ofText text = .ok (some d))
    (hunreported : fault.Unreported) (hcauses : d.graph.Causes fault) : Escape text fault

/-- A document is read as a model or refused at a place in its file, but for faults in values. -/
theorem ofDocument_cases (origin : ModelReader.Origin) (d : Document) :
    (∃ m, ofDocument origin d = .ok m) ∨
      ∃ e, ofDocument origin d = .error e ∧ ModelReader.Founded d.graph origin.file e := by
  unfold ofDocument
  rcases ModelReader.leaves_document d.root origin (.start d.graph) (.refl _) with
    ⟨m, s, hrun, -⟩ | ⟨e, hrun, he⟩
  · exact Or.inl ⟨m, by rw [hrun]; rfl⟩
  · exact Or.inr ⟨e, by rw [hrun]; rfl, he⟩

/-- Whatever the text and the name of its file, the text is read as a model, or refused at a place in
the file, or else a fault escapes. What is wrong with the form of a document or with a declaration is
always answered. A fault escapes from where a scalar is made, as the code that makes it raises errors of
its own. -/
theorem ofText_answers_or_escapes (file text : Text) :
    IsAnswer file (ofText file text) ∨
      ∃ fault, ofText file text = .error (.fault fault) ∧ Escape text fault := by
  unfold ofText
  split
  · exact Or.inl trivial
  · rename_i d hdocument
    rcases ofDocument_cases ⟨file, text⟩ d with ⟨m, hread⟩ | ⟨e, hread, hfounded⟩
    · rw [hread]
      exact Or.inl trivial
    · rw [hread]
      cases hfounded with
      | model hfile => exact Or.inl hfile
      | fault hunreported hcauses =>
        exact Or.inr ⟨_, rfl, .ofValue hdocument hunreported hcauses⟩
  · refine Or.inl ?_
    dsimp only
    split
    · rfl
    · rfl
  · rename_i fault hnot hdocument
    exact Or.inr ⟨fault, rfl, .ofText hdocument (Document.fromText_ofText text fault hdocument) hnot⟩

/-- A truth value in metadata that is none of the words for one is not reported: the table of words has no
entry for it, and this error is not one that the reader expects. -/
theorem no_answer_unknownWord :
    ¬ IsAnswer "m.yaml" (ofText "m.yaml" "metadata: \x7ba: !!bool x\x7d") := by
  decide +kernel

end Model

end TermAudit
