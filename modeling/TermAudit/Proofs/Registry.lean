import Mathlib.Data.List.Induction
import Mathlib.Data.List.Sort
import Mathlib.Logic.Function.Basic
import TermAudit.Proofs.OrderedMap
import TermAudit.Proofs.Text.Order
import TermAudit.Registry.Session

/-!
# `TermAudit.Proofs.Registry`: a registry is a finite map

Whatever is asked of a registry, in whatever order, it does what a partial map from names to classes
does. `NameMap.Answers` says what that is, one rule for each way in which a request can end, and which
`NameMap.Change`s it makes. Loading declared entries is one request, but each entry is offered by itself
(`NameMap.Loads`).

A request can also end with what code of others has raised, and the rules say when. For a single candidate
it is harmless: the candidate is not registered, with another error than the one that is meant for it. An
entry that raises ends the loading, and leaves the map with what the entries before it have changed. So
"a request that fails changes nothing" is true of all requests but this one.

* `Registry.respond_answers`: a request is answered by the rules;
* `Registry.run_runs`: so is a list of requests;
* `NameMap.Runs.eq_some_iff`: a name has the class that was registered last, unless it was taken away
  after that;
* `NameMap.Runs.unique`: the rules leave no choice;
* `Registry.respond_raised_iff`: when a request ends with what code of others has raised;
* `Registry.respond_of_error`: what a request that fails leaves behind;
* `Registry.run_acts_as_map`: the registry after any requests, with its names in increasing order.
-/

set_option autoImplicit false

namespace TermAudit

open Registry (Request Response)

/-- What becomes of an entry whose name is new: it gives the name to a class, or it ends the loading with
what code of others has raised. Nothing, if the entry is passed over: an import that fails and a
candidate that is refused are as if the entry were not there. -/
def EntryPoint.decision? (e : EntryPoint ValidatorClass) : Option (Except Raised ValidatorClass) :=
  match e.imported with
  | .ok (.validator c) => some (.ok c)
  | .ok (.other (.ok _)) => none
  | .ok (.other (.error raised)) => if raised.isRefusal then none else some (.error raised)
  | .error raised => if raised.isFailure then none else some (.error raised)

/-- A partial map from names to classes of validators. It has no order and no size, so what the registry
lists and counts has to be said by rules. -/
abbrev NameMap := Text → Option ValidatorClass

namespace NameMap

/-- A name is given to a class, or taken away. What has become of a registry can be told from its changes
alone, without the requests that made them. -/
inductive Change where
  | registered (name : Text) (c : ValidatorClass)
  | deregistered (name : Text)

namespace Change

/-- The name concerned. -/
def name : Change → Text
  | .registered name _ => name
  | .deregistered name => name

/-- The class that the name has then. -/
def result : Change → Option ValidatorClass
  | .registered _ c => some c
  | .deregistered _ => none

end Change

/-- The names of the map in strictly increasing order. There is at most one such list, so the rule fixes
what is listed. -/
structure Lists (f : NameMap) (names : List Text) : Prop where
  increasing : names.Pairwise Text.Before
  mem_iff : ∀ name, name ∈ names ↔ f name ≠ none

/-! ## The rules -/

/-- A candidate is offered under a name. Whether the name is there counts before what the candidate is,
and a candidate that is no class has to be written before it can be refused. If writing it raises, this
error takes the place of the refusal. -/
inductive Takes (f : NameMap) (name : Text) :
    Candidate ValidatorClass → Option RegistryError → List Change → NameMap → Prop
  | new {c : ValidatorClass} (h : f name = none) :
    Takes f name (.validator c) none [.registered name c] (Function.update f name (some c))
  | alreadyRegistered {candidate : Candidate ValidatorClass} (h : f name ≠ none) :
    Takes f name candidate (some (.alreadyRegistered name)) [] f
  | notValidator {shown : Text} (h : f name = none) :
    Takes f name (.other (.ok shown)) (some (.notValidator shown name)) [] f
  | unwritable {raised : Raised} (h : f name = none) :
    Takes f name (.other (.error raised)) (some (.raised raised)) [] f

/-- An entry is met. It is passed over, or it gives its name to a class, or it ends the loading. An entry
whose name is there is not even imported, so nothing it would raise counts. -/
inductive Meets (f : NameMap) (e : EntryPoint ValidatorClass) :
    Option Raised → List Change → NameMap → Prop
  | known (h : f e.name ≠ none) : Meets f e none [] f
  | passedOver (h : f e.name = none) (hd : e.decision? = none) : Meets f e none [] f
  | taken {c : ValidatorClass} (h : f e.name = none) (hd : e.decision? = some (.ok c)) :
    Meets f e none [.registered e.name c] (Function.update f e.name (some c))
  | ended {raised : Raised} (h : f e.name = none) (hd : e.decision? = some (.error raised)) :
    Meets f e (some raised) [] f

/-- Entries are met one after the other, until one of them ends the loading. The changes up to there are
made, and the entries that are left are not met. -/
inductive Loads :
    NameMap → List (EntryPoint ValidatorClass) → Option Raised → List Change → NameMap → Prop
  | nil (f : NameMap) : Loads f [] none [] f
  | cons {f f' g : NameMap} {e : EntryPoint ValidatorClass} {rest : List (EntryPoint ValidatorClass)}
    {ending : Option Raised} {here changes : List Change} (hhere : Meets f e none here f')
    (hrest : Loads f' rest ending changes g) : Loads f (e :: rest) ending (here ++ changes) g
  | ended {f g : NameMap} {e : EntryPoint ValidatorClass} {rest : List (EntryPoint ValidatorClass)}
    {raised : Raised} {changes : List Change} (hhere : Meets f e (some raised) changes g) :
    Loads f (e :: rest) (some raised) changes g

/-- The map answers a request, makes the changes, and is another map then. There is one rule for each way
in which a request can end, and they exclude each other, so the answer is determined. -/
inductive Answers (f : NameMap) : Request → Response → List Change → NameMap → Prop
  | register {name : Text} {candidate : Candidate ValidatorClass} {changes : List Change} {g : NameMap}
    (h : Takes f name candidate none changes g) :
    Answers f (.register name candidate) (.ok .done) changes g
  | registerFails {name : Text} {candidate : Candidate ValidatorClass} {error : RegistryError}
    {changes : List Change} {g : NameMap} (h : Takes f name candidate (some error) changes g) :
    Answers f (.register name candidate) (.error (.registry error)) changes g
  | decorate {name : Text} {candidate : Candidate ValidatorClass} {changes : List Change} {g : NameMap}
    (h : Takes f name candidate none changes g) :
    Answers f (.decorate name candidate) (.ok (.handedOn candidate)) changes g
  | decorateFails {name : Text} {candidate : Candidate ValidatorClass} {error : RegistryError}
    {changes : List Change} {g : NameMap} (h : Takes f name candidate (some error) changes g) :
    Answers f (.decorate name candidate) (.error (.registry error)) changes g
  | deregister {name : Text} (h : f name ≠ none) :
    Answers f (.deregister name) (.ok .done) [.deregistered name] (Function.update f name none)
  | deregisterFails {name : Text} {names : List Text} (h : f name = none) (hnames : f.Lists names) :
    Answers f (.deregister name) (.error (.registry (.notFound name names))) [] f
  | get {name : Text} {c : ValidatorClass} (h : f name = some c) :
    Answers f (.get name) (.ok (.found c)) [] f
  | getFails {name : Text} {names : List Text} (h : f name = none) (hnames : f.Lists names) :
    Answers f (.get name) (.error (.registry (.notFound name names))) [] f
  | create {name : Text} {config : Value} {c : ValidatorClass} {v : Validator} (h : f name = some c)
    (hbuild : c.build config = .ok v) : Answers f (.create name config) (.ok (.created v)) [] f
  | createRefused {name : Text} {config : Value} {c : ValidatorClass} {error : BuildError}
    (h : f name = some c) (hbuild : c.build config = .error error) :
    Answers f (.create name config) (.error (.build error)) [] f
  | createFails {name : Text} {config : Value} {names : List Text} (h : f name = none)
    (hnames : f.Lists names) :
    Answers f (.create name config) (.error (.registry (.notFound name names))) [] f
  | contains (name : Text) :
    Answers f (.contains name) (.ok (.registered (f name).isSome)) [] f
  | load {entries : List (EntryPoint ValidatorClass)} {changes : List Change} {g : NameMap}
    (h : Loads f entries none changes g) : Answers f (.load entries) (.ok .done) changes g
  | loadEnds {entries : List (EntryPoint ValidatorClass)} {raised : Raised} {changes : List Change}
    {g : NameMap} (h : Loads f entries (some raised) changes g) :
    Answers f (.load entries) (.error (.registry (.raised raised))) changes g

/-- Code of others raises something on the way to an answer, and the registry has no answer of its own to
it: a candidate that cannot be written is offered under a new name, or an entry that ends the loading is
reached. This is the exact condition for a request that ends with what was raised. -/
inductive ComesUpon (f : NameMap) : Request → Raised → Prop
  | register {name : Text} {raised : Raised} (h : f name = none) :
    ComesUpon f (.register name (.other (.error raised))) raised
  | decorate {name : Text} {raised : Raised} (h : f name = none) :
    ComesUpon f (.decorate name (.other (.error raised))) raised
  | load {before after : List (EntryPoint ValidatorClass)} {e : EntryPoint ValidatorClass}
    {changes : List Change} {g : NameMap} {raised : Raised} (hbefore : Loads f before none changes g)
    (h : g e.name = none) (hd : e.decision? = some (.error raised)) :
    ComesUpon f (.load (before ++ e :: after)) raised

/-- The map answers one request after the other. The log has all changes in their order, those of a
loading that was cut short included. -/
inductive Runs : NameMap → List (Request × Response) → List Change → NameMap → Prop
  | nil (f : NameMap) : Runs f [] [] f
  | cons {f f' g : NameMap} {request : Request} {response : Response} {changes log : List Change}
    {rest : List (Request × Response)} (hfirst : Answers f request response changes f')
    (hrest : Runs f' rest log g) : Runs f ((request, response) :: rest) (changes ++ log) g

/-- In the log, the name is given to the class, and later on it is neither given nor taken away. It is
said of the log without the map, so that the two can be compared. -/
def LastRegistered (log : List Change) (name : Text) (c : ValidatorClass) : Prop :=
  ∃ before after, log = before ++ .registered name c :: after ∧ ∀ change ∈ after, change.name ≠ name

/-! ## Changes -/

/-- The map after changes, made one after the other. Of the changes of a name the last one counts. -/
def changed (f : NameMap) (changes : List Change) : NameMap :=
  changes.foldl (fun f change => Function.update f change.name change.result) f

variable {f g : NameMap} {changes log : List Change}

/-- Changes are made in their order, so a log can be cut anywhere. -/
theorem changed_append (f : NameMap) (changes log : List Change) :
    f.changed (changes ++ log) = (f.changed changes).changed log :=
  List.foldl_append

/-- What becomes of the map is what its changes make of it, whether a candidate is taken or refused.
`Runs.eq_changed` puts this together for a session, so that the log tells the whole story. -/
theorem Takes.eq_changed {name : Text} {candidate : Candidate ValidatorClass}
    {error : Option RegistryError} (h : Takes f name candidate error changes g) :
    g = f.changed changes := by
  cases h <;> rfl

/-- What becomes of the map at an entry is what its changes make of it: the entry gives its name to a class,
or it changes nothing. -/
theorem Meets.eq_changed {e : EntryPoint ValidatorClass} {ending : Option Raised}
    (h : Meets f e ending changes g) : g = f.changed changes := by
  cases h <;> rfl

/-- What loading makes of the map is what its changes make of it, also where an entry has ended the loading.
Induction on the entries met. -/
theorem Loads.eq_changed {entries : List (EntryPoint ValidatorClass)} {ending : Option Raised}
    (h : Loads f entries ending changes g) : g = f.changed changes := by
  induction h with
  | nil f => rfl
  | cons hhere _ ih => rw [changed_append, ← hhere.eq_changed, ih]
  | ended hhere => exact hhere.eq_changed

/-- Loading that is ended by an entry, after the entries in front of it have been met. -/
theorem Loads.append_ended {before after : List (EntryPoint ValidatorClass)}
    {e : EntryPoint ValidatorClass} {raised : Raised} {g' : NameMap} {changes' : List Change}
    (hbefore : Loads f before none changes g) (h : Meets g e (some raised) changes' g') :
    Loads f (before ++ e :: after) (some raised) (changes ++ changes') g' := by
  generalize hending : (none : Option Raised) = ending at hbefore
  induction hbefore with
  | nil f => exact .ended h
  | cons hhere _ ih =>
    rw [List.append_assoc]
    exact .cons hhere (ih h hending)
  | ended => cases hending

/-- What a request makes of the map is what its changes make of it, whatever the answer. -/
theorem Answers.eq_changed {request : Request} {response : Response}
    (h : Answers f request response changes g) : g = f.changed changes := by
  cases h with
  | register h => exact h.eq_changed
  | registerFails h => exact h.eq_changed
  | decorate h => exact h.eq_changed
  | decorateFails h => exact h.eq_changed
  | load h => exact h.eq_changed
  | loadEnds h => exact h.eq_changed
  | _ => rfl

/-- The map after a session is what the changes in its log make of the map before it. -/
theorem Runs.eq_changed {session : List (Request × Response)} (h : Runs f session log g) :
    g = f.changed log := by
  induction h with
  | nil f => rfl
  | cons hfirst _ ih => rw [changed_append, ← hfirst.eq_changed, ih]

/-- The last change in a log is the one that counts for its name. -/
theorem lastRegistered_append_singleton {change : Change} {name : Text} {c : ValidatorClass} :
    LastRegistered (log ++ [change]) name c ↔
      if name = change.name then change.result = some c else LastRegistered log name c := by
  constructor
  · rintro ⟨before, after, heq, hafter⟩
    -- The registration is the last change itself, or the last change is one after it.
    rcases List.eq_nil_or_concat after with rfl | ⟨after, last, rfl⟩
    · obtain ⟨-, hlast⟩ := List.append_inj' heq rfl
      cases List.singleton_inj.mp hlast
      simp [Change.name, Change.result]
    · rw [List.concat_eq_append, ← List.cons_append, ← List.append_assoc] at heq
      obtain ⟨rfl, hlast⟩ := List.append_inj' heq rfl
      cases List.singleton_inj.mp hlast
      have hne : change.name ≠ name := hafter change (by simp)
      rw [if_neg (Ne.symm hne)]
      exact ⟨before, after, rfl, fun other hother => hafter other (by simp [hother])⟩
  · intro h
    split at h
    · rename_i hname
      subst hname
      cases change with
      | registered name c' =>
        cases h
        exact ⟨log, [], rfl, by simp⟩
      | deregistered name => cases h
    · rename_i hname
      -- The last change is about another name, so it may stand behind the registration.
      obtain ⟨before, after, rfl, hafter⟩ := h
      refine ⟨before, after ++ [change], by simp, ?_⟩
      intro other hother
      rcases List.mem_append.mp hother with hother | hother
      · exact hafter other hother
      · rw [List.mem_singleton.mp hother]
        exact Ne.symm hname

/-- After a run from the empty map, a name has the class that was registered last. Induction from the
end of the log, where the change that counts is. -/
theorem Runs.eq_some_iff {session : List (Request × Response)}
    (h : Runs (fun _ => none) session log g) (name : Text) (c : ValidatorClass) :
    g name = some c ↔ LastRegistered log name c := by
  rw [h.eq_changed]
  clear h
  induction log using List.reverseRecOn with
  | nil => simp [changed, LastRegistered]
  | append_singleton log change ih =>
    have hlast : changed (fun _ => none) (log ++ [change]) =
        Function.update (changed (fun _ => none) log) change.name change.result :=
      changed_append _ log [change]
    rw [hlast, Function.update_apply, lastRegistered_append_singleton]
    split
    · exact Iff.rfl
    · exact ih

/-! ## No choice -/

/-- The names of a map can be listed in one way only: two strictly increasing lists of the same texts are
equal. -/
theorem Lists.unique {names names' : List Text} (h : f.Lists names) (h' : f.Lists names') :
    names' = names := by
  refine h'.increasing.eq_of_mem_iff h.increasing fun name => ?_
  rw [h'.mem_iff, h.mem_iff]

section Unique

variable {changes' log' : List Change} {g' : NameMap}

/-- A map has one way to take a candidate. What is there decides between the cases, so no two of them can
apply. -/
theorem Takes.unique {name : Text} {candidate : Candidate ValidatorClass}
    {error error' : Option RegistryError} (h : Takes f name candidate error changes g)
    (h' : Takes f name candidate error' changes' g') :
    error' = error ∧ changes' = changes ∧ g' = g := by
  cases h with
  | new hnone =>
    cases h' with
    | new => exact ⟨rfl, rfl, rfl⟩
    | alreadyRegistered hthere => exact absurd hnone hthere
  | alreadyRegistered hthere =>
    cases h' with
    | alreadyRegistered => exact ⟨rfl, rfl, rfl⟩
    | new hnone => exact absurd hnone hthere
    | notValidator hnone => exact absurd hnone hthere
    | unwritable hnone => exact absurd hnone hthere
  | notValidator hnone =>
    cases h' with
    | notValidator => exact ⟨rfl, rfl, rfl⟩
    | alreadyRegistered hthere => exact absurd hnone hthere
  | unwritable hnone =>
    cases h' with
    | unwritable => exact ⟨rfl, rfl, rfl⟩
    | alreadyRegistered hthere => exact absurd hnone hthere

/-- The name and the decision of an entry settle what meeting it does, since they tell the rules apart. -/
theorem Meets.unique {e : EntryPoint ValidatorClass} {ending ending' : Option Raised}
    (h : Meets f e ending changes g) (h' : Meets f e ending' changes' g') :
    ending' = ending ∧ changes' = changes ∧ g' = g := by
  cases h with
  | known hthere =>
    cases h' with
    | known => exact ⟨rfl, rfl, rfl⟩
    | _ => exact absurd ‹f e.name = none› hthere
  | passedOver hnone hd =>
    cases h' with
    | known hthere => exact absurd hnone hthere
    | passedOver => exact ⟨rfl, rfl, rfl⟩
    | taken _ hd' => exact nomatch hd.symm.trans hd'
    | ended _ hd' => exact nomatch hd.symm.trans hd'
  | taken hnone hd =>
    cases h' with
    | known hthere => exact absurd hnone hthere
    | passedOver _ hd' => exact nomatch hd.symm.trans hd'
    | taken _ hd' =>
      cases hd.symm.trans hd'
      exact ⟨rfl, rfl, rfl⟩
    | ended _ hd' => exact nomatch hd.symm.trans hd'
  | ended hnone hd =>
    cases h' with
    | known hthere => exact absurd hnone hthere
    | passedOver _ hd' => exact nomatch hd.symm.trans hd'
    | taken _ hd' => exact nomatch hd.symm.trans hd'
    | ended _ hd' =>
      cases hd.symm.trans hd'
      exact ⟨rfl, rfl, rfl⟩

/-- Entries are loaded in one way only, to the same end. Induction on the entries, with what is met at the
first one decided by the map and the entry. -/
theorem Loads.unique {entries : List (EntryPoint ValidatorClass)} {ending ending' : Option Raised}
    (h : Loads f entries ending changes g) (h' : Loads f entries ending' changes' g') :
    ending' = ending ∧ changes' = changes ∧ g' = g := by
  induction h generalizing changes' with
  | nil f =>
    cases h'
    exact ⟨rfl, rfl, rfl⟩
  | cons hhere _ ih =>
    cases h' with
    | cons hhere' hrest' =>
      -- The same entry meets the same map, so the rest meets the same map, too.
      obtain ⟨-, rfl, rfl⟩ := hhere.unique hhere'
      obtain ⟨rfl, rfl, rfl⟩ := ih hrest'
      exact ⟨rfl, rfl, rfl⟩
    | ended hhere' => exact nomatch (hhere.unique hhere').1
  | ended hhere =>
    cases h' with
    | cons hhere' => exact nomatch (hhere.unique hhere').1
    | ended hhere' =>
      obtain ⟨hraised, hrest⟩ := hhere.unique hhere'
      exact ⟨hraised, hrest⟩

/-- The map decides about the answer to a request. No two rules apply to one map and one request, so there
is one answer, one list of changes and one map afterwards. -/
theorem Answers.unique {request : Request} {response response' : Response}
    (h : Answers f request response changes g) (h' : Answers f request response' changes' g') :
    response' = response ∧ changes' = changes ∧ g' = g := by
  cases h with
  -- A candidate is taken or refused, and never both.
  | register h =>
    cases h' with
    | register h' => exact ⟨rfl, (h.unique h').2⟩
    | registerFails h' => exact nomatch (h.unique h').1
  | registerFails h =>
    cases h' with
    | register h' => exact nomatch (h.unique h').1
    | registerFails h' =>
      obtain ⟨herror, hrest⟩ := h.unique h'
      cases herror
      exact ⟨rfl, hrest⟩
  | decorate h =>
    cases h' with
    | decorate h' => exact ⟨rfl, (h.unique h').2⟩
    | decorateFails h' => exact nomatch (h.unique h').1
  | decorateFails h =>
    cases h' with
    | decorate h' => exact nomatch (h.unique h').1
    | decorateFails h' =>
      obtain ⟨herror, hrest⟩ := h.unique h'
      cases herror
      exact ⟨rfl, hrest⟩
  | load h =>
    cases h' with
    | load h' => exact ⟨rfl, (h.unique h').2⟩
    | loadEnds h' => exact nomatch (h.unique h').1
  | loadEnds h =>
    cases h' with
    | load h' => exact nomatch (h.unique h').1
    | loadEnds h' =>
      obtain ⟨hraised, hrest⟩ := h.unique h'
      cases hraised
      exact ⟨rfl, hrest⟩
  | contains name =>
    cases h'
    exact ⟨rfl, rfl, rfl⟩
  -- What is left depends on the class of a name alone, or on the names in order if there is none.
  | deregisterFails h hnames =>
    cases h' with
    | deregister hthere => exact absurd h hthere
    | deregisterFails _ hnames' => exact ⟨by rw [hnames.unique hnames'], rfl, rfl⟩
  | getFails h hnames =>
    cases h' with
    | get hfound => simp_all
    | getFails _ hnames' => exact ⟨by rw [hnames.unique hnames'], rfl, rfl⟩
  | createFails h hnames =>
    cases h' with
    | createFails _ hnames' => exact ⟨by rw [hnames.unique hnames'], rfl, rfl⟩
    | _ => simp_all
  | _ => cases h' <;> simp_all

/-- The map decides about the answers to all requests. Induction on the requests, each of which leaves one
map for the next. -/
theorem Runs.unique {session session' : List (Request × Response)} (h : Runs f session log g)
    (h' : Runs f session' log' g') (hsame : session'.map Prod.fst = session.map Prod.fst) :
    session' = session ∧ log' = log ∧ g' = g := by
  induction h generalizing session' log' with
  | nil f =>
    cases h' with
    | nil => exact ⟨rfl, rfl, rfl⟩
    | cons => cases hsame
  | cons hfirst _ ih =>
    cases h' with
    | nil => cases hsame
    | cons hfirst' hrest' =>
      obtain ⟨hrequest, hrest⟩ := List.cons.inj hsame
      cases hrequest
      obtain ⟨rfl, rfl, rfl⟩ := hfirst.unique hfirst'
      obtain ⟨rfl, rfl, rfl⟩ := ih hrest' hrest
      exact ⟨rfl, rfl, rfl⟩

end Unique

end NameMap

/-! ## Registries -/

namespace Registry

open NameMap

variable (r : Registry ValidatorClass)

/-- The registry as a map. The order in which classes were registered is left out, as no request tells
it. -/
def view : NameMap :=
  r.classes.get?

/-- A new registry knows no name. -/
theorem view_empty : (empty : Registry ValidatorClass).view = fun _ => none := rfl

/-- Putting a class under a name is an update of the map at this name. -/
theorem view_put (name : Text) (c : ValidatorClass) :
    view ⟨r.classes.put name c⟩ = Function.update r.view name (some c) := by
  funext other
  rw [Function.update_apply]
  exact OrderedMap.get?_put r.classes name c other

/-- Erasing a name is an update of the map, which knows it no more. -/
theorem view_erase (name : Text) :
    view ⟨r.classes.erase name⟩ = Function.update r.view name none := by
  funext other
  rw [Function.update_apply]
  exact OrderedMap.get?_erase r.classes name other

/-- The map knows exactly the names that are kept. -/
theorem view_ne_none_iff (name : Text) : r.view name ≠ none ↔ name ∈ r.classes.keys := by
  unfold view
  rw [ne_eq, OrderedMap.get?_eq_none_iff, not_not]

/-- To ask for a name is to ask whether the map knows it. -/
theorem contains_iff (name : Text) : r.contains name = true ↔ r.view name ≠ none := by
  rw [view_ne_none_iff]
  exact OrderedMap.contains_iff

/-- The same as an equation, for the answer to a request. -/
theorem contains_eq (name : Text) : r.contains name = (r.view name).isSome := by
  rw [Bool.eq_iff_iff, contains_iff, ne_eq, ← Option.not_isSome_iff_eq_none, not_not]

/-- The names that are listed are those of the map. -/
theorem lists_names : r.view.Lists r.names where
  increasing := Text.before_sorted r.classes.nodup
  mem_iff name := by
    rw [view_ne_none_iff]
    exact Text.mem_sorted

/-- There are as many names as classes. Sorting the names loses none of them. -/
theorem length_names : r.names.length = r.size := by
  show (Text.sorted r.classes.keys).length = r.classes.entries.length
  rw [Text.length_sorted, OrderedMap.keys, List.length_map]

/-! ## Requests -/

/-- A candidate is registered, or refused for the reason that the rules give. -/
theorem register_takes (name : Text) (candidate : Candidate ValidatorClass) :
    (∃ next changes, r.register name candidate = .ok next ∧
        Takes r.view name candidate none changes next.view) ∨
      ∃ error changes, r.register name candidate = .error error ∧
        Takes r.view name candidate (some error) changes r.view := by
  unfold register
  by_cases hthere : r.contains name = true
  · rw [if_pos hthere]
    exact Or.inr ⟨_, _, rfl, .alreadyRegistered ((contains_iff r name).mp hthere)⟩
  · have hnone : r.view name = none := by
      rwa [contains_iff, not_not] at hthere
    rw [if_neg hthere]
    cases candidate with
    | validator c =>
      refine Or.inl ⟨_, [.registered name c], rfl, ?_⟩
      rw [view_put]
      exact .new hnone
    | other written =>
      cases written with
      | ok shown => exact Or.inr ⟨_, _, rfl, .notValidator hnone⟩
      | error raised => exact Or.inr ⟨_, _, rfl, .unwritable hnone⟩

/-- An entry under a new name does what it decides. -/
theorem loadEntry_of_new {e : EntryPoint ValidatorClass} (h : r.view e.name = none) : r.loadEntry e =
    match e.decision? with
    | none => .ok r
    | some (.ok c) => .ok ⟨r.classes.put e.name c⟩
    | some (.error raised) => .error (.raised raised) := by
  have hnew : ¬ r.contains e.name = true := by
    rwa [contains_iff, not_not]
  unfold loadEntry EntryPoint.decision?
  rw [if_neg hnew]
  -- The import comes first, and what has been imported counts only if there is anything.
  cases e.imported with
  | error raised =>
    dsimp only
    split <;> rfl
  | ok candidate =>
    simp only [register, if_neg hnew]
    cases candidate with
    | validator c => rfl
    | other written =>
      cases written with
      | ok shown => rfl
      | error raised =>
        by_cases hrefusal : raised.isRefusal = true
        · simp [RegistryError.isRefusal, hrefusal]
        · simp [RegistryError.isRefusal, hrefusal]

/-- An entry with a name that is there is passed over, whatever it stands for. -/
theorem loadEntry_of_known {e : EntryPoint ValidatorClass} (h : r.view e.name ≠ none) :
    r.loadEntry e = .ok r :=
  if_pos ((contains_iff r e.name).mpr h)

/-- An entry is met as the rules say. -/
theorem loadEntry_meets (e : EntryPoint ValidatorClass) :
    (∃ next changes, r.loadEntry e = .ok next ∧ Meets r.view e none changes next.view) ∨
      ∃ raised, r.loadEntry e = .error (.raised raised) ∧ Meets r.view e (some raised) [] r.view := by
  by_cases hnew : r.view e.name = none
  · have hentry := r.loadEntry_of_new hnew
    cases hd : e.decision? with
    | none =>
      rw [hd] at hentry
      exact Or.inl ⟨r, [], hentry, .passedOver hnew hd⟩
    | some decision =>
      rw [hd] at hentry
      cases decision with
      | ok c =>
        refine Or.inl ⟨_, [.registered e.name c], hentry, ?_⟩
        rw [view_put]
        exact .taken hnew hd
      | error raised => exact Or.inr ⟨raised, hentry, .ended hnew hd⟩
  · exact Or.inl ⟨r, [], r.loadEntry_of_known hnew, .known hnew⟩

/-- An entry that is taken in or passed over is followed by the others. -/
theorem load_cons_of_ok {e : EntryPoint ValidatorClass} {next : Registry ValidatorClass}
    (h : r.loadEntry e = .ok next) (entries : List (EntryPoint ValidatorClass)) :
    r.load (e :: entries) = next.load entries := by
  simp only [load, h]

/-- An entry that fails is the last one, and leaves the registry as it was met. -/
theorem load_cons_of_error {e : EntryPoint ValidatorClass} {error : RegistryError}
    (h : r.loadEntry e = .error error) (entries : List (EntryPoint ValidatorClass)) :
    r.load (e :: entries) = (.error error, r) := by
  simp only [load, h]

/-- Entries are loaded by the rules. Induction on the entries, where the next entry meets the registry as
the first one leaves it. -/
theorem load_loads (entries : List (EntryPoint ValidatorClass)) :
    (∃ changes, (r.load entries).1 = .ok () ∧
        Loads r.view entries none changes (r.load entries).2.view) ∨
      ∃ raised changes, (r.load entries).1 = .error (.raised raised) ∧
        Loads r.view entries (some raised) changes (r.load entries).2.view := by
  induction entries generalizing r with
  | nil => exact Or.inl ⟨[], rfl, .nil _⟩
  | cons e entries ih =>
    rcases r.loadEntry_meets e with ⟨next, here, hentry, hmeets⟩ | ⟨raised, hentry, hmeets⟩
    · rw [r.load_cons_of_ok hentry]
      rcases ih next with ⟨changes, hdone, hrest⟩ | ⟨raised, changes, hends, hrest⟩
      · exact Or.inl ⟨here ++ changes, hdone, .cons hmeets hrest⟩
      · exact Or.inr ⟨raised, here ++ changes, hends, .cons hmeets hrest⟩
    · rw [r.load_cons_of_error hentry]
      exact Or.inr ⟨raised, [], rfl, .ended hmeets⟩

/-- Looking up a name gives its class, or fails with the names that are there. -/
theorem get_eq (name : Text) : r.get name =
    match r.view name with
    | some c => .ok c
    | none => .error (.notFound name r.names) := by
  unfold get view
  cases r.classes.get? name <;> rfl

/-- A class is found under a name exactly if the map has it there. -/
theorem get_eq_ok_iff {name : Text} {c : ValidatorClass} :
    r.get name = .ok c ↔ r.view name = some c := by
  rw [get_eq]
  cases r.view name with
  | none => simp
  | some c' => simp

/-- A request is answered by the rules of the map. There is a rule for every request in every state, so
the rules leave nothing open. -/
theorem respond_answers (request : Request) :
    ∃ changes, Answers r.view request (r.respond request).1 changes (r.respond request).2.view := by
  cases request with
  | register name candidate =>
    rcases register_takes r name candidate with ⟨next, changes, h, htakes⟩ | ⟨error, changes, h, htakes⟩
    · simp only [respond, h, settle]
      exact ⟨changes, .register htakes⟩
    · simp only [respond, h, settle]
      exact ⟨changes, .registerFails htakes⟩
  | decorate name candidate =>
    rcases register_takes r name candidate with ⟨next, changes, h, htakes⟩ | ⟨error, changes, h, htakes⟩
    · simp only [respond, h, settle]
      exact ⟨changes, .decorate htakes⟩
    · simp only [respond, h, settle]
      exact ⟨changes, .decorateFails htakes⟩
  | deregister name =>
    by_cases hthere : r.contains name = true
    · simp only [respond, deregister, if_pos hthere, settle, view_erase]
      exact ⟨_, .deregister ((contains_iff r name).mp hthere)⟩
    · have hnone : r.view name = none := by
        rwa [contains_iff, not_not] at hthere
      simp only [respond, deregister, if_neg hthere, settle]
      exact ⟨_, .deregisterFails hnone r.lists_names⟩
  | get name =>
    cases hview : r.view name with
    | none =>
      simp only [respond, get_eq, hview]
      exact ⟨_, .getFails hview r.lists_names⟩
    | some c =>
      simp only [respond, get_eq, hview]
      exact ⟨_, .get hview⟩
  | create name config =>
    cases hview : r.view name with
    | none =>
      simp only [respond, create, get_eq, hview]
      exact ⟨_, .createFails hview r.lists_names⟩
    | some c =>
      -- The name is there, so what remains is up to the class.
      have hcreate : r.create name config = (c.build config).mapError .build := by
        simp only [create, get_eq, hview]
        rfl
      cases hbuild : c.build config with
      | ok v =>
        simp only [respond, hcreate, hbuild]
        exact ⟨_, .create hview hbuild⟩
      | error error =>
        simp only [respond, hcreate, hbuild]
        exact ⟨_, .createRefused hview hbuild⟩
  | contains name =>
    simp only [respond, contains_eq]
    exact ⟨_, .contains name⟩
  | load entries =>
    rcases r.load_loads entries with ⟨changes, hdone, hloads⟩ | ⟨raised, changes, hends, hloads⟩
    · simp only [respond, hdone]
      exact ⟨changes, .load hloads⟩
    · simp only [respond, hends]
      exact ⟨changes, .loadEnds hloads⟩

/-- Loading is ended by the first entry that decides so under a name that is still new. The entries before
it are loaded without an end, and the registry is left as they make it. -/
theorem exists_of_load_error {entries : List (EntryPoint ValidatorClass)} {error : RegistryError}
    (h : (r.load entries).1 = .error error) :
    ∃ before e after raised, entries = before ++ e :: after ∧ error = .raised raised ∧
      r.load before = (.ok (), (r.load entries).2) ∧ (r.load entries).2.view e.name = none ∧
      e.decision? = some (.error raised) := by
  induction entries generalizing r with
  | nil => cases h
  | cons e entries ih =>
    rcases r.loadEntry_meets e with ⟨next, -, hentry, -⟩ | ⟨raised, hentry, hmeets⟩
    · rw [r.load_cons_of_ok hentry] at h ⊢
      obtain ⟨before, e', after, raised, rfl, herror, hbefore, hnew, hd⟩ := ih next h
      refine ⟨e :: before, e', after, raised, rfl, herror, ?_, hnew, hd⟩
      rw [r.load_cons_of_ok hentry, hbefore]
    · rw [r.load_cons_of_error hentry] at h ⊢
      cases h
      cases hmeets with
      | ended hnew hd => exact ⟨[], e, entries, raised, rfl, rfl, rfl, hnew, hd⟩

/-- The request loads entries, one of them ends the loading, and the registry is left as the entries
before it make it. The name of this entry is new then, and stays so. It is the one way in which a request
that fails changes a registry. -/
def CutShort (request : Request) (raised : Raised) (left : Registry ValidatorClass) : Prop :=
  ∃ before e after, request = .load (before ++ e :: after) ∧
    r.respond (.load before) = (.ok .done, left) ∧ left.contains e.name = false ∧
    e.decision? = some (.error raised)

/-- Loading fails only if an entry ends it, and then it has been cut short there, with what was taken before
in place. There is no other error: an entry that cannot be used is passed over. -/
theorem cutShort_of_load_error {entries : List (EntryPoint ValidatorClass)} {error : CreateError}
    (h : (r.respond (.load entries)).1 = .error error) :
    ∃ raised, error = .registry (.raised raised) ∧
      r.CutShort (.load entries) raised (r.respond (.load entries)).2 := by
  cases hresult : (r.load entries).1 with
  | ok done =>
    simp only [respond, hresult] at h
    cases h
  | error e =>
    obtain ⟨before, e, after, raised, heq, rfl, hbefore, hnew, hd⟩ := r.exists_of_load_error hresult
    simp only [respond, hresult] at h
    cases h
    refine ⟨raised, rfl, before, e, after, congrArg _ heq, ?_, ?_, hd⟩
    · simp only [respond, hbefore]
      rfl
    · show (r.load entries).2.contains e.name = false
      rw [contains_eq, hnew]
      rfl

/-- A request ends with what code of others has raised if it comes upon it, and never else. The registry
raises no such error by itself. -/
theorem respond_raised_iff {request : Request} {raised : Raised} :
    (r.respond request).1 = .error (.registry (.raised raised)) ↔ ComesUpon r.view request raised := by
  obtain ⟨changes, hanswers⟩ := r.respond_answers request
  generalize (r.respond request).2.view = g at hanswers
  constructor
  · intro h
    rw [h] at hanswers
    -- Of the rules only those of a candidate and of loading give such a response.
    cases hanswers with
    | registerFails htakes =>
      cases htakes with
      | unwritable hnew => exact .register hnew
    | decorateFails htakes =>
      cases htakes with
      | unwritable hnew => exact .decorate hnew
    | @loadEnds entries =>
      obtain ⟨_, heq, before, e, after, hentries, hbefore, hnew, hd⟩ := r.cutShort_of_load_error h
      cases heq
      cases hentries
      obtain ⟨changes, hloads⟩ := r.respond_answers (.load before)
      rw [hbefore] at hloads
      rw [contains_eq, Option.isSome_eq_false_iff, Option.isNone_iff_eq_none] at hnew
      cases hloads with
      | load hloads => exact .load hloads hnew hd
  · intro h
    cases h with
    | register hnew => exact (Answers.unique (.registerFails (.unwritable hnew)) hanswers).1
    | decorate hnew => exact (Answers.unique (.decorateFails (.unwritable hnew)) hanswers).1
    | load hbefore hnew hd =>
      exact (Answers.unique (.loadEnds (hbefore.append_ended (.ended hnew hd))) hanswers).1

/-- A request that fails leaves the registry as it was, unless it is loading that has been cut short. Then
the entries before the one that raised are taken in, and stay. -/
theorem respond_of_error {request : Request} {error : CreateError}
    (h : (r.respond request).1 = .error error) :
    (r.respond request).2 = r ∨
      ∃ raised, error = .registry (.raised raised) ∧ r.CutShort request raised (r.respond request).2 := by
  have hsettle (answer : Answer) (result : Except RegistryError (Registry ValidatorClass))
      (h : (r.settle answer result).1 = .error error) : (r.settle answer result).2 = r := by
    cases result with
    | ok next => cases h
    | error e => rfl
  cases request with
  | register name candidate => exact Or.inl (hsettle _ _ h)
  | decorate name candidate => exact Or.inl (hsettle _ _ h)
  | deregister name => exact Or.inl (hsettle _ _ h)
  | load entries => exact Or.inr (r.cutShort_of_load_error h)
  | _ => exact Or.inl rfl

/-- A list of requests is answered by the rules of the map, and the log that goes with them has all that
was changed. -/
theorem run_runs (requests : List Request) :
    ∃ log, Runs r.view (r.run requests).1 log (r.run requests).2.view := by
  induction requests generalizing r with
  | nil => exact ⟨[], .nil _⟩
  | cons request rest ih =>
    obtain ⟨changes, hfirst⟩ := r.respond_answers request
    obtain ⟨log, hrest⟩ := ih (r.respond request).2
    exact ⟨changes ++ log, .cons hfirst hrest⟩

/-- Every request of a session is answered, in its order. -/
theorem requests_run (requests : List Request) : (r.run requests).1.map Prod.fst = requests := by
  induction requests generalizing r with
  | nil => rfl
  | cons request rest ih => exact congrArg (request :: ·) (ih (r.respond request).2)

/-- A registry does what a partial map from names to classes does, whatever is asked of it, and the map
could not do otherwise. After any requests a name has the class that was registered last under it, unless
it was taken away after that; the names are listed in increasing order, as many as there are.

A further request ends with what code of others has raised exactly if it comes upon it. If it fails, be it
for this or for any other reason, it changes nothing, except where an entry has cut loading short. -/
theorem run_acts_as_map (requests : List Request) :
    ∃ session last log, (empty : Registry ValidatorClass).run requests = (session, last) ∧
      session.map Prod.fst = requests ∧ Runs (fun _ => none) session log last.view ∧
      (∀ session' log' g, Runs (fun _ => none) session' log' g → session'.map Prod.fst = requests →
        session' = session ∧ log' = log ∧ g = last.view) ∧
      (∀ name c, last.get name = .ok c ↔ LastRegistered log name c) ∧
      last.view.Lists last.names ∧ last.names.length = last.size ∧
      (∀ request raised, (last.respond request).1 = .error (.registry (.raised raised)) ↔
        ComesUpon last.view request raised) ∧
      ∀ request error, (last.respond request).1 = .error error →
        (last.respond request).2 = last ∨ ∃ raised, error = .registry (.raised raised) ∧
          last.CutShort request raised (last.respond request).2 := by
  obtain ⟨log, hruns⟩ := (empty : Registry ValidatorClass).run_runs requests
  have hrequests := requests_run (empty : Registry ValidatorClass) requests
  -- The registry begins as the map without names, and the last registration counts for runs from there.
  rw [view_empty] at hruns
  refine ⟨_, _, log, rfl, hrequests, hruns, ?_, ?_, lists_names _, length_names _, ?_, ?_⟩
  · intro session log' g h hsame
    exact hruns.unique h (hsame.trans hrequests.symm)
  · intro name c
    rw [get_eq_ok_iff]
    exact hruns.eq_some_iff name c
  · intro request raised
    exact respond_raised_iff _
  · intro request error h
    exact respond_of_error _ h

/-- An integer of 5001 digits, offered as a class of validators. It cannot be written in decimal, so it
cannot be shown in the words of a refusal. -/
def overlongCandidate : Candidate ValidatorClass :=
  .ofInt (Nat.pow 10 5000)

/-- The integer 10 ^ 5000 has 5001 digits, more than are written, so it is a candidate that cannot be
written. -/
theorem overlongCandidate_eq : overlongCandidate = .other (.error ⟨.error, overlongMessage⟩) := by
  have hlong : isOverlong (Nat.pow 10 5000) = true := by decide +kernel
  unfold overlongCandidate Candidate.ofInt
  rw [if_pos hlong]

/-- The integer is no class of validators, and its name is new. Still it is not refused as what it is,
since the words of the refusal would have to show it. Behind an entry that is taken in it makes loading
fail, and the registry is not what it was before. -/
theorem respond_overlongCandidate :
    (∀ shown name, ((empty : Registry ValidatorClass).respond (.register "n" overlongCandidate)).1 ≠
        .error (.registry (.notValidator shown name))) ∧
      ∃ error last, (empty : Registry ValidatorClass).respond
          (.load [⟨"terms", .ok (.validator .terms)⟩, ⟨"n", .ok overlongCandidate⟩]) =
            (.error error, last) ∧
        (empty : Registry ValidatorClass).get "terms" ≠ .ok .terms ∧ last.get "terms" = .ok .terms := by
  rw [overlongCandidate_eq]
  exact ⟨nofun, _, _, rfl, nofun, rfl⟩

end Registry

end TermAudit
