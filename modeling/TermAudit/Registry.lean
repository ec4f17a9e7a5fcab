import TermAudit.Number.Reading
import TermAudit.OrderedMap
import TermAudit.Text.Quoted

/-!
# `TermAudit.Registry`: validators by name

A `Registry` gives names to the classes of validators. A name is given once, and only to a class of
validators; anything else that is offered under a name is refused. `Registry.load` takes in what
other packages declare: there an entry that cannot be taken is passed over.

The registry runs code of others in two places. A refusal shows the thing that was offered, which writes
itself, and an entry of another package is imported. Either can end with something `Raised` in place of a
result. `Registry.load` passes over what it knows, and what it does not know ends the loading
half-way. What goes to a log is left out, and with it the name that a class has for itself.

The type of classes is a parameter, because the rules of the registry do not depend on it.
-/

set_option autoImplicit false

namespace TermAudit

/-- The kinds of errors that the registry tells apart when code of others raises one. -/
inductive RaisedKind where
  /-- The kind of the registry's own refusal of what is no class of validators. -/
  | wrongType
  /-- The kind of the registry's own refusal of a name that is there. -/
  | alreadyRegistered
  /-- Any other error. -/
  | error
  /-- No error, but the wish to end the program. -/
  | exit
deriving DecidableEq

/-- What code of others ends with when it gives no result. -/
structure Raised where
  kind : RaisedKind
  message : Text
deriving DecidableEq

/-- Whether an import that ends like this has failed. An import that asks for the end of the program has
not: there is nothing to go on with. -/
def Raised.isFailure (raised : Raised) : Bool :=
  raised.kind ≠ .exit

/-- Whether this looks like a refusal of the registry itself. -/
def Raised.isRefusal (raised : Raised) : Bool :=
  raised.kind = .wrongType || raised.kind = .alreadyRegistered

/-- Something that is offered for registration. -/
inductive Candidate (κ : Type) where
  /-- A class of validators. -/
  | validator (c : κ)
  /-- Anything else, with what comes of writing it. Things write themselves, so that this can fail. -/
  | other (written : Except Raised Text)

/-- An integer that is offered. It is no class, and one with too many digits cannot even be written, so
that its refusal fails. -/
def Candidate.ofInt {κ : Type} (n : Int) : Candidate κ :=
  .other (if isOverlong n then .error ⟨.error, overlongMessage⟩ else .ok (Text.ofInt n))

/-- What another package declares: a name, and what comes of the import of the thing that it stands
for. -/
structure EntryPoint (κ : Type) where
  name : Text
  imported : Except Raised (Candidate κ)

/-- Why the registry does not do what it is asked for. The refusal of a name that is not there lists the
names that are. -/
inductive RegistryError where
  | notFound (name : Text) (available : List Text)
  | alreadyRegistered (name : Text)
  | notValidator (shown name : Text)
  /-- Code of others has ended without a result. -/
  | raised (what : Raised)
deriving DecidableEq

/-- Whether a candidate is refused with this error. An error that the candidate raised while it was
written counts as well if it is of the kind of a refusal. -/
def RegistryError.isRefusal : RegistryError → Bool
  | .alreadyRegistered _ | .notValidator .. => true
  | .notFound .. => false
  | .raised what => what.isRefusal

/-- The error in words. -/
def RegistryError.message : RegistryError → Text
  | .notFound name available =>
    ("Validator " : Text) ++ name.quoted ++ (" is not registered. Available validators: " : Text)
      ++ (if available.isEmpty then ("(none)" : Text) else Text.joinWith ", " available)
      ++ (". Check that the package is installed and its entry-points are declared." : Text)
  | .alreadyRegistered name =>
    ("Validator " : Text) ++ name.quoted ++ (" is already registered. " : Text)
      ++ ("Use a unique name or explicitly deregister the existing entry first." : Text)
  | .notValidator shown name =>
    ("Cannot register " : Text) ++ shown ++ (" under " : Text) ++ name.quoted
      ++ (": it must be a subclass of ModelValidator." : Text)
  | .raised what => what.message

/-- Names for classes of validators. The order in which the names came is kept by the map, but nothing
that a registry answers depends on it. -/
structure Registry (κ : Type) where
  classes : OrderedMap Text κ

namespace Registry

variable {κ : Type}

/-- The registry without names. -/
def empty : Registry κ := ⟨∅⟩

/-- The registered names in lexicographic order. Refusals list them as well. -/
def names (r : Registry κ) : List Text :=
  Text.sorted r.classes.keys

/-- Whether the name is registered. -/
def contains (r : Registry κ) (name : Text) : Bool :=
  r.classes.contains name

/-- How many names are registered. -/
def size (r : Registry κ) : Nat :=
  r.classes.size

/-- Registers a candidate under a name. The name is looked up first, so that nothing is written for the
refusal of a name that is there. -/
def register (r : Registry κ) (name : Text) (candidate : Candidate κ) :
    Except RegistryError (Registry κ) :=
  if r.contains name then .error (.alreadyRegistered name)
  else
    match candidate with
    | .validator c => .ok ⟨r.classes.put name c⟩
    | .other (.ok shown) => .error (.notValidator shown name)
    | .other (.error raised) => .error (.raised raised)

/-- Takes a name out of the registry. -/
def deregister (r : Registry κ) (name : Text) : Except RegistryError (Registry κ) :=
  if r.contains name then .ok ⟨r.classes.erase name⟩ else .error (.notFound name r.names)

/-- The class registered under a name, or a refusal that lists the names. -/
def get (r : Registry κ) (name : Text) : Except RegistryError κ :=
  match r.classes.get? name with
  | some c => .ok c
  | none => .error (.notFound name r.names)

/-- Takes in one entry, or passes it over. An entry with a name that is there is not imported. -/
def loadEntry (r : Registry κ) (e : EntryPoint κ) : Except RegistryError (Registry κ) :=
  if r.contains e.name then .ok r
  else
    match e.imported with
    | .error raised => if raised.isFailure then .ok r else .error (.raised raised)
    | .ok candidate =>
      match r.register e.name candidate with
      | .ok r => .ok r
      | .error error => if error.isRefusal then .ok r else .error error

/-- Takes in the entries in their order. An entry that fails ends the loading, and what was taken in
before it stays. -/
def load (r : Registry κ) : List (EntryPoint κ) → Except RegistryError Unit × Registry κ
  | [] => (.ok (), r)
  | e :: rest =>
    match r.loadEntry e with
    | .ok next => next.load rest
    | .error error => (.error error, r)

/-- The registry in writing. -/
def shown (r : Registry κ) : Text :=
  ("ValidatorRegistry(validators=[" : Text) ++ Text.joinWith ", " (r.names.map Text.quoted)
    ++ ("])" : Text)

end Registry

end TermAudit
