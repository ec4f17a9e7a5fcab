import TermAudit.Diagnostic
import TermAudit.Message
import TermAudit.Terms.Search

/-!
# `TermAudit.Validation`: the terms of a table in a model

`TermTable.checkInstances` reports a warning for every term of a table in every one of some text
instances, in their order first and in the order of the table second. `TermTable.check` does so
for the text index of a model, where it never fails.
-/

set_option autoImplicit false

namespace TermAudit

/-- The name under which findings are reported. It is that of the validator in the registry, too. -/
def Diagnostic.termsId : Text := "NoninclusiveTerms"

namespace TextInstance

/-- Where a finding in the text is reported: the location and the shape. Namespaces are declared
nowhere. -/
def origin (i : TextInstance) : Except InstanceError (Location × Option ShapeId) :=
  match i.place with
  | .namespaceName => .ok (.nowhere, none)
  | .traitValue =>
    match i.appliedTrait, i.shape with
    | some t, some s => .ok (t.location, some s.id)
    | _, _ => .error (.incompleteTrait i.text)
  | .shapeName =>
    match i.shape with
    | some s => .ok (s.location, some s.id)
    | none => .error (.missingShape i.text)
  | .other place => .error (.unknownPlace place)

end TextInstance

namespace TermTable

/-- The terms of the table in a text instance, in the order of the table, with their suggestions. -/
def findings (t : TermTable) (i : TextInstance) : List Finding :=
  (t.terms.scan i.text).map fun found =>
    ⟨found.term, (t.terms.get? found.term).getD [], found.matched, i⟩

/-- The warning about a finding. -/
def warning (f : Finding) : Except InstanceError Diagnostic := do
  let message ← f.message
  let (location, shape) ← f.source.origin
  return ⟨Diagnostic.termsId, .warning, message, location, shape⟩

/-- The warnings about all terms in text instances, or the error of the first instance that has a term and
cannot be reported. An instance without a term is never refused, since nothing has to be said about it. -/
def checkInstances (t : TermTable) (instances : List TextInstance) :
    Except InstanceError (List Diagnostic) :=
  (instances.flatMap t.findings).mapM warning

/-- The warnings about all terms in a model. -/
def check (t : TermTable) (m : Model) : Except InstanceError (List Diagnostic) :=
  t.checkInstances m.textIndex

end TermTable

end TermAudit
