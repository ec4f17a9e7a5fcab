import TermAudit.Validator

/-!
# `TermAudit.Registry.Session`: a registry in use

A `Request` asks something of a registry. `Registry.respond` gives what comes back, which is an answer or
an error, together with the registry as it is then. `Registry.run` takes one request after the other and
keeps each of them with its response.
-/

set_option autoImplicit false

namespace TermAudit

namespace Registry

/-- What can be asked of a registry. All of it goes through `respond`, so that a session can mix requests
in any order. -/
inductive Request where
  | register (name : Text) (candidate : Candidate ValidatorClass)
  /-- Registration where the candidate is declared, which hands it on. -/
  | decorate (name : Text) (candidate : Candidate ValidatorClass)
  | deregister (name : Text)
  | get (name : Text)
  | create (name : Text) (config : Value)
  | contains (name : Text)
  | load (entries : List (EntryPoint ValidatorClass))

/-- What comes back if nothing fails. A change only tells that it is done, a declared candidate is handed
on, and the other requests give what they ask for. -/
inductive Answer where
  | done
  | handedOn (candidate : Candidate ValidatorClass)
  | found (c : ValidatorClass)
  | created (v : Validator)
  | registered (isRegistered : Bool)

/-- An answer, or why there is none. -/
abbrev Response := Except CreateError Answer

/-- The response to a change of the registry, and the registry then. If the change fails, the registry is
the one from before. -/
def settle (r : Registry ValidatorClass) (answer : Answer) :
    Except RegistryError (Registry ValidatorClass) → Response × Registry ValidatorClass
  | .ok changed => (.ok answer, changed)
  | .error error => (.error (.registry error), r)

/-- The response to a request, and the registry then. -/
def respond (r : Registry ValidatorClass) : Request → Response × Registry ValidatorClass
  | .register name candidate => r.settle .done (r.register name candidate)
  | .decorate name candidate => r.settle (.handedOn candidate) (r.register name candidate)
  | .deregister name => r.settle .done (r.deregister name)
  | .get name => (((r.get name).mapError .registry).map .found, r)
  | .create name config => ((r.create name config).map .created, r)
  | .contains name => (.ok (.registered (r.contains name)), r)
  | .load entries =>
    let (result, loaded) := r.load entries
    ((result.mapError .registry).map fun () => .done, loaded)

/-- The responses to requests in their order, and the registry after the last one. -/
def run (r : Registry ValidatorClass) :
    List Request → List (Request × Response) × Registry ValidatorClass
  | [] => ([], r)
  | request :: rest =>
    let (response, next) := r.respond request
    let (session, last) := next.run rest
    ((request, response) :: session, last)

end Registry

end TermAudit
