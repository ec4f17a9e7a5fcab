import TermAudit.Proofs.Terms.Data
import TermAudit.Proofs.Yaml.Rejected
import TermAudit.Proofs.Yaml.Wording

/-!
# `TermAudit.Proofs.Terms.Outcome`: what becomes of a text that is read as a configuration

Reading a configuration ought to end with an answer: the configuration, or an error that says what is
wrong with it. Some failures are not made into such an error. `TermsConfig.Escape` says which ones these
are, and what in the text they come from; `TermsConfig.ofText_answers_iff` that there is an answer if and
only if there is none of them.

A failure can escape at three stages. A number in the text can be too large while the text is still read
as characters and tokens. A scalar anywhere in the document can have a text that its tag has no reading
for, also where no configuration would look at it. And an integer can be a key where a text is needed,
but be too long to be shown in the message about it.
-/

set_option autoImplicit false

namespace TermAudit.TermsConfig

open Yaml

/-- The result of reading is an answer: a configuration, or an error that says what is wrong with it. A
configuration error has words and no place. -/
def IsAnswer : Except ConfigFailure TermsConfig → Prop
  | .ok _ => True
  | .error (.config _) => True
  | .error _ => False

/-- Whether a result is an answer can be computed. -/
instance : DecidablePred IsAnswer
  | .ok _ => inferInstanceAs (Decidable True)
  | .error (.config _) => inferInstanceAs (Decidable True)
  | .error (.fault _) => inferInstanceAs (Decidable False)
  | .error .overlongInteger => inferInstanceAs (Decidable False)
  | .error .impossiblePath => inferInstanceAs (Decidable False)

/-- A failure in the text that no error of a configuration reports. The cases are the stages of reading:
the characters and tokens, the scalars of the document, and the data that they make. -/
inductive Escape (text : Text) : ConfigFailure → Prop
  /-- An escape for a character that does not exist, or a version with too many digits. -/
  | ofText {fault : Fault} (h : Document.ofText text = .error fault) (hfault : fault.OfText)
    (hnot : ∀ report, fault ≠ .malformed report) : Escape text (.fault fault)
  /-- A scalar that is rejected, wherever in the document it is. -/
  | ofScalar {d : Document} {fault : Fault} (h : Document.ofText text = .ok (some d))
    (hvalue : Outline.ofDocument depth d = .error fault) (hrejects : d.graph.Rejects fault)
    (hnot : ∀ report, fault ≠ .malformed report) : Escape text (.fault fault)
  /-- An integer in a message that is too long to be shown. -/
  | ofInteger {d : Document} {value : Value} (h : Document.ofText text = .ok (some d))
    (hvalue : Outline.ofDocument depth d = .ok value) (hlong : ShowsLongInteger value) :
    Escape text .overlongInteger

/-- The plain data in a text: the value of its document. A text without a document holds null, as an empty
file does. -/
def dataOf (text : Text) : Except Fault Value := do
  match ← Document.ofText text with
  | none => return .scalar .null
  | some d => Outline.ofDocument depth d

/-- A configuration is read of the data in the text. A report about the text becomes an error, and any other
fault stays one. -/
theorem ofText_eq (text : Text) : ofText text =
    match dataOf text with
    | .ok value => ofValue value
    | .error (.malformed report) => .error (.config (.invalidDocument (report.shown text)))
    | .error fault => .error (.fault fault) :=
  rfl

variable {text : Text} {failure : ConfigFailure} {fault : Fault}

/-- There is no data if the text is no document, or if a value in the document cannot be made. -/
theorem dataOf_eq_error_iff : dataOf text = .error fault ↔ Document.ofText text = .error fault ∨
    ∃ d, Document.ofText text = .ok (some d) ∧ Outline.ofDocument depth d = .error fault := by
  refine bind_eq_error_iff.trans (or_congr_right ⟨?_, ?_⟩)
  · rintro ⟨document, h, hvalue⟩
    cases document with
    | none => cases hvalue
    | some d => exact ⟨d, h, hvalue⟩
  · rintro ⟨d, h, hvalue⟩
    exact ⟨some d, h, hvalue⟩

/-- A fault in a text is reported if it is one of the document's form. -/
theorem ofText_of_fault (h : dataOf text = .error fault) (hnot : ∀ report, fault ≠ .malformed report) :
    ofText text = .error (.fault fault) := by
  rw [ofText_eq, h]
  cases fault with
  | malformed report => exact absurd rfl (hnot report)
  | _ => rfl

/-- Every escape is reached: it is what reading the text ends with. -/
theorem ofText_of_escape (h : Escape text failure) : ofText text = .error failure := by
  cases h with
  | ofText h _ hnot => exact ofText_of_fault (dataOf_eq_error_iff.mpr (Or.inl h)) hnot
  | ofScalar h hvalue _ hnot =>
    exact ofText_of_fault (dataOf_eq_error_iff.mpr (Or.inr ⟨_, h, hvalue⟩)) hnot
  | @ofInteger d value h hvalue hlong =>
    have hdata : dataOf text = .ok value := bind_eq_ok_iff.mpr ⟨some d, h, hvalue⟩
    rw [ofText_eq, hdata]
    exact ofValue_of_showsLongInteger hlong

/-- What is wrong with a text is told, unless it escapes. -/
theorem ofText_eq_error (h : ofText text = .error failure) :
    (∃ error, failure = .config error) ∨ Escape text failure := by
  rw [ofText_eq] at h
  split at h
  · rename_i value hdata
    obtain ⟨document, hdocument, hvalue⟩ := bind_eq_ok_iff.mp hdata
    refine (ofValue_eq_error h).imp_right fun ⟨heq, hlong⟩ => ?_
    subst heq
    cases document with
    | none =>
      -- A text without document is an empty configuration, and there is nothing to show.
      cases hvalue
      cases hlong
    | some d => exact .ofInteger hdocument hvalue hlong
  · cases h
    exact Or.inl ⟨_, rfl⟩
  · rename_i fault hnot hdata
    cases h
    rcases dataOf_eq_error_iff.mp hdata with hdocument | ⟨d, hdocument, hvalue⟩
    · exact Or.inr (.ofText hdocument (Document.fromText_ofText text fault hdocument) hnot)
    · rcases Outline.ofDocument_rejects hvalue with ⟨report, rfl⟩ | hrejects
      · exact absurd rfl (hnot report)
      · exact Or.inr (.ofScalar hdocument hvalue hrejects hnot)

/-- A configuration text has an answer unless a failure escapes, and then this failure is the result. The
second part says that no escape is ever hidden: there is one way to read a text, and the cause that comes
first in it decides. -/
theorem ofText_answers_iff (text : Text) :
    (IsAnswer (ofText text) ↔ ¬ ∃ failure, Escape text failure) ∧
      ∀ failure, Escape text failure → ofText text = .error failure := by
  refine ⟨⟨?_, fun hnone => ?_⟩, fun failure => ofText_of_escape⟩
  · rintro hanswer ⟨failure, hescape⟩
    rw [ofText_of_escape hescape] at hanswer
    cases hescape with
    | ofText => exact hanswer
    | ofScalar => exact hanswer
    | ofInteger => exact hanswer
  · cases hresult : ofText text with
    | ok c => trivial
    | error failure =>
      rcases ofText_eq_error hresult with ⟨error, rfl⟩ | hescape
      · trivial
      · exact absurd ⟨failure, hescape⟩ hnone

/-- A day that no calendar has is not reported. It has the form of a date, so it is made as one, and what
refuses it is not an error of the document. -/
theorem no_answer_impossibleDay :
    ¬ IsAnswer (ofText "appendNoninclusiveTerms:\n  2023-02-30: [x]\n") := by
  decide +kernel

end TermAudit.TermsConfig
