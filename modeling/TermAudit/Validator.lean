import TermAudit.Registry
import TermAudit.Terms.Config
import TermAudit.Validation

/-!
# `TermAudit.Validator`: validators and their classes

A `ValidatorClass` builds a `Validator` from plain data. `ValidatorClass.terms` is the class of
validators that look for terms, and the only one in `Registry.standard`. Other classes can be
declared with `ValidatorClass.unconfigured`. `Registry.create` builds a validator by the name of its
class.
-/

set_option autoImplicit false

namespace TermAudit

/-- Why a model cannot be checked. -/
inductive CheckError where
  /-- A text instance cannot be reported. -/
  | unreportable (error : InstanceError)
  /-- A path in the model holds an integer that is too long to be written. -/
  | overlongInteger

/-- A validator that is ready to check models. What its class has made of the configuration is in `check`
already, and the table is there to be shown. -/
structure Validator where
  /-- The name of its class. -/
  className : Text
  id : Text
  /-- The terms it looks for, if it looks for any. -/
  table : Option TermTable
  check : Model → Except CheckError (List Diagnostic)

/-- Why no validator can be built from a configuration. -/
inductive BuildError where
  | config (failure : ConfigFailure)
  /-- The class has no configuration. -/
  | notConfigurable (className : Text)
  /-- The class is one of another package, and building has ended without a result. -/
  | raised (what : Raised)

/-- The refusal of a class without configuration in words. -/
def BuildError.refusal (className : Text) : Text :=
  className ++ (" does not accept configuration" : Text)

/-- A class of validators. Its name is the one it has for itself, which need not be the one that a
registry knows it by. -/
structure ValidatorClass where
  name : Text
  build : Value → Except BuildError Validator

/-- Whether a value says anything: it is neither absent nor empty nor zero. A class without configuration
takes a value that says nothing for none. -/
def Value.isTruthy : Value → Bool
  | .scalar .null => false
  | .scalar (.bool b) => b
  | .scalar (.int n) => n != 0
  | .scalar (.float x) => !x.isInt 0
  | .scalar (.text t) => !t.isEmpty
  | .scalar (.octets bytes) => !bytes.isEmpty
  | .scalar _ => true
  | .list items => !items.isEmpty
  | .tuple items => !items.isEmpty
  | .set elements => !elements.isEmpty
  | .mapping entries => !entries.isEmpty

/-- The warnings about all terms in a model whose paths can be written. The whole index is made before
anything is looked for, so a path that cannot be written is noticed first. -/
def TermTable.checkWritable (t : TermTable) (m : Model) : Except CheckError (List Diagnostic) :=
  if m.hasUnwritablePath then .error .overlongInteger
  else (t.check m).mapError .unreportable

/-- The validator that looks for the terms of a table. -/
def Validator.ofTable (table : TermTable) : Validator where
  className := "NoninclusiveTermsValidator"
  id := Diagnostic.termsId
  table := some table
  check := table.checkWritable

/-- The validator of a configuration. -/
def Validator.ofConfig (c : TermsConfig) : Except ConfigFailure Validator :=
  match c.table TermMap.builtIn with
  | .ok table => .ok (.ofTable table)
  | .error error => .error (.config (.table error))

namespace ValidatorClass

/-- The class of validators that look for terms. -/
def terms : ValidatorClass where
  name := "NoninclusiveTermsValidator"
  build config := (TermsConfig.ofValue config >>= Validator.ofConfig).mapError .config

/-- A class whose validators check all models in the same way. It accepts no configuration but one that
says nothing. -/
def unconfigured (name id : Text) (check : Model → List Diagnostic) : ValidatorClass where
  name := name
  build config :=
    if config.isTruthy then .error (.notConfigurable name)
    else .ok ⟨name, id, none, fun m => .ok (check m)⟩

end ValidatorClass

/-- Why a registry gives no validator. -/
inductive CreateError where
  | registry (error : RegistryError)
  | build (error : BuildError)

namespace Registry

/-- The registry of the program. -/
def standard : Registry ValidatorClass :=
  ⟨.ofList [(Diagnostic.termsId, .terms)]⟩

/-- The validator of a registered class and a configuration. The name is looked up first. -/
def create (r : Registry ValidatorClass) (name : Text) (config : Value) :
    Except CreateError Validator := do
  let c ← (r.get name).mapError .registry
  (c.build config).mapError .build

end Registry

end TermAudit
