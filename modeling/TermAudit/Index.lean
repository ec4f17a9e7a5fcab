import TermAudit.Model.Shape

/-!
# `TermAudit.Index`: the texts that people wrote into a model

`Model.textIndex` lists the pieces of text in a model: the names of shapes and members, the texts
inside of traits, and the namespaces. Each `TextInstance` says where it was found. Shapes come in
the order of `Model.walk`, each followed by the texts in its traits, and each namespace comes once,
at the end.

A text inside of a trait has a path, the keys and the positions that lead to it. Only mappings and
lists are looked into, and traits whose values name shapes are passed over. A model whose paths
cannot all be written has no index (`Model.index?`).
-/

set_option autoImplicit false

namespace TermAudit

/-- Where a piece of text was found. The place decides how a finding is worded and where it is
reported. -/
inductive TextPlace where
  | namespaceName
  | shapeName
  | traitValue
  /-- A place that the program does not know. -/
  | other (name : Text)
deriving DecidableEq

/-- A piece of text in a model, with what a message has to say about its place. Which of the optional
fields are needed depends on the place, and an instance that lacks one cannot be reported. -/
structure TextInstance where
  text : Text
  place : TextPlace
  /-- The shape it belongs to. -/
  shape : Option Shape
  /-- The trait whose value it is in. -/
  appliedTrait : Option Trait
  /-- What leads to it in the value of the trait. -/
  path : List Text

namespace TextInstance

/-- The name of a namespace. It belongs to no shape, since many shapes can be in it. -/
def ofNamespace (ns : Text) : TextInstance :=
  ⟨ns, .namespaceName, none, none, []⟩

/-- The name of a shape or a member. Of the id of a member only its own name counts, as the name of its
shape is a text already. -/
def ofShape (s : Shape) : TextInstance :=
  ⟨s.name, .shapeName, some s, none, []⟩

/-- A text in the value of a trait. -/
def ofTrait (s : Shape) (t : Trait) (path : List Text) (text : Text) : TextInstance :=
  ⟨text, .traitValue, some s, some t, path⟩

end TextInstance

namespace Value

mutual

/-- The texts in a value with their paths behind `path`, in the order of items and entries. Only lists and
mappings are looked into: keys are steps of a path, and what is inside of a tuple or a set has no path. -/
def textsFrom (path : List Text) : Value → List (List Text × Text)
  | .scalar (.text t) => [(path, t)]
  | .scalar _ => []
  | .list items => textsInItems path 0 items
  | .mapping entries => textsInEntries path entries
  | .tuple _ => []
  | .set _ => []

/-- The texts in the items of a list, the first of which has the position `n`. -/
def textsInItems (path : List Text) (n : Nat) : List Value → List (List Text × Text)
  | [] => []
  | v :: rest => textsFrom (path ++ [Text.ofNat n]) v ++ textsInItems path (n + 1) rest

/-- The texts in the entries of a mapping. -/
def textsInEntries (path : List Text) : List (Scalar × Value) → List (List Text × Text)
  | [] => []
  | (k, v) :: rest => textsFrom (path ++ [k.plainText]) v ++ textsInEntries path rest

end

/-- The texts in a value with their paths. -/
def texts (v : Value) : List (List Text × Text) :=
  textsFrom [] v

mutual

/-- Whether a key on a path into the value is an integer too long to be written. Every key that is passed
gets written, whether or not there is a text behind it, so that one such key spoils all paths. -/
def hasOverlongKey : Value → Bool
  | .list items => anyOverlongKey items
  | .mapping entries => anyOverlongEntry entries
  | _ => false

/-- The same for the items of a list. -/
def anyOverlongKey : List Value → Bool
  | [] => false
  | v :: rest => hasOverlongKey v || anyOverlongKey rest

/-- The same for the entries of a mapping. -/
def anyOverlongEntry : List (Scalar × Value) → Bool
  | [] => false
  | (k, v) :: rest => k.isOverlong || hasOverlongKey v || anyOverlongEntry rest

end

end Value

/-- The traits of a shape whose values are looked into. Traits that refer to other shapes are left out,
since they hold ids and no prose. -/
def Shape.proseTraits (s : Shape) : List Trait :=
  s.traits.filter fun t => !t.isReference

/-- The texts of a shape: its name, and those in its traits. -/
def Shape.textInstances (s : Shape) : List TextInstance :=
  .ofShape s ::
    s.proseTraits.flatMap fun t =>
      t.value.texts.map fun (path, text) => .ofTrait s t path text

namespace Model

/-- All texts of a model: those of one shape after the other, and the namespaces behind them, each once.
This is the order in which findings are reported. -/
def textIndex (m : Model) : List TextInstance :=
  m.walk.flatMap Shape.textInstances ++ (namespacesOf m.walk).map .ofNamespace

/-- Whether some path in the index cannot be written. -/
def hasUnwritablePath (m : Model) : Bool :=
  m.walk.any fun s => s.proseTraits.any fun t => t.value.hasOverlongKey

/-- The index of a model, if every path in it can be written. Otherwise making the index fails, and
nothing at all is reported about the model. -/
def index? (m : Model) : Option (List TextInstance) :=
  if m.hasUnwritablePath then none else some m.textIndex

end Model

end TermAudit
