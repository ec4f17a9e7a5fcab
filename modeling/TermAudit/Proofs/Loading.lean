import TermAudit.Loading
import TermAudit.Proofs.Terms.Outcome

/-!
# `TermAudit.Proofs.Loading`: the faults that reading leaves to its caller

A fault in a document is either reported, as an error of the model or of the configuration, or left
to the caller. The reader of models has no words for the faults of values that are `Unreported`.
`ReadError.Left` and `ConfigFailure.Left` say what else can come out of a file.

* `ModelReader.leaves_document`: errors of a model are in its file, and of the faults in values reading
  a model leaves the unreported ones alone, each with its cause in the document;
* `Model.left_of_ofContent`: a malformed document is always reported as an error of the model;
* `TermsConfig.left_of_ofContent`: and as an error of the configuration.
-/

set_option autoImplicit false

namespace TermAudit

open Yaml

/-- What comes out of reading a model in place of one: an error of the model, or a fault of anything but
the form of the document. A malformed document never gets here, since its fault becomes an error of the
model. -/
inductive ReadError.Left : ReadError → Prop
  | model (error : ModelError) : Left (.model error)
  | fault (fault : Fault) (h : ∀ report, fault ≠ .malformed report) : Left (.fault fault)

/-- The same for a configuration, which may also hold an integer that is too long to be written. The error
message would have to show it. -/
inductive ConfigFailure.Left : ConfigFailure → Prop
  | config (error : ConfigError) : Left (.config error)
  | fault (fault : Fault) (h : ∀ report, fault ≠ .malformed report) : Left (.fault fault)
  | overlongInteger : Left .overlongInteger

namespace ModelReader

/-- The faults that the reader of models has no words for are the unreported ones. -/
theorem unreported_of_reason? {document : Text} {fault : Fault} (h : reason? document fault = none) :
    fault.Unreported := by
  cases fault with
  | malformed report => cases h
  | unreadable what => cases h
  | timeNotText => cases h
  | notUtf8 => exact .notUtf8
  | tooLarge => exact .tooLarge
  | unknownWord => exact .unknownWord
  | emptyNumber => exact .emptyNumber
  | formlessTime => exact .formlessTime
  | endless => exact .endless

/-- Reading the document with the graph `g` may end with this: an error of the model in the file, or an
unreported fault with a cause in the graph. Every fault that escapes is traced to a scalar in this way. -/
inductive Founded (g : Graph) (file : Text) : ReadError → Prop
  | model {error : ModelError} (h : error.location.file = file) : Founded g file (.model error)
  | fault {fault : Fault} (hunreported : fault.Unreported) (hcauses : g.Causes fault) :
    Founded g file (.fault fault)

/-- From a state whose graph comes from `g` the computation goes to another one, or it ends with a founded
error. It is what each step of the reader preserves, and the graph may change on the way, as merged
mappings are put into it. -/
def Leaves {α : Type} (g : Graph) (x : Reading α) : Prop :=
  ∀ (origin : Origin) (s : Evaluation), s.graph.StemsFrom g →
    (∃ a s', (x.run origin).run s = .ok (a, s') ∧ s'.graph.StemsFrom g) ∨
    ∃ e, (x.run origin).run s = .error e ∧ Founded g origin.file e

variable {α β : Type} {g : Graph}

/-- A result changes nothing and ends with no error. -/
theorem leaves_pure (a : α) : Leaves g (pure a : Reading α) :=
  fun _ => concludes_pure a

/-- For each origin, reading is a computation with a state. -/
theorem leaves_bind {x : Reading α} {f : α → Reading β} (hx : Leaves g x)
    (hf : ∀ a, Leaves g (f a)) : Leaves g (x >>= f) :=
  fun origin => Concludes.bind (hx origin) fun a => hf a origin

/-- A list of computations ends with the first error among them. -/
theorem leaves_mapM {f : α → Reading β} (hf : ∀ a, Leaves g (f a)) (l : List α) :
    Leaves g (l.mapM f) := by
  induction l with
  | nil => exact leaves_pure []
  | cons a l ih =>
    rw [List.mapM_cons]
    exact leaves_bind (hf a) fun b => leaves_bind ih fun bs => leaves_pure _

/-- The same for a loop with a state. -/
theorem leaves_foldlM {f : β → α → Reading β} (hf : ∀ b a, Leaves g (f b a)) (l : List α) (b : β) :
    Leaves g (l.foldlM f b) := by
  induction l generalizing b with
  | nil => exact leaves_pure b
  | cons a l ih =>
    rw [List.foldlM_cons]
    exact leaves_bind (hf b a) ih

/-- To look at the graph changes nothing, and gives it. -/
theorem leaves_graph : Leaves g graph :=
  fun _ s hs => Or.inl ⟨s.graph, s, rfl, hs⟩

/-- To ask where the document comes from changes nothing either: the origin is no part of the state. -/
theorem leaves_read : Leaves g (read : Reading Origin) :=
  fun origin s hs => Or.inl ⟨origin, s, rfl, hs⟩

/-- A location is looked up in the graph. -/
theorem leaves_location (id : NodeId) : Leaves g (location id) :=
  fun _ s hs => Or.inl ⟨_, s, rfl, hs⟩

/-- A refusal is an error of the model, at a place in its file. -/
theorem leaves_refuse (id : NodeId) (problem : ModelProblem) :
    Leaves g (refuse id problem : Reading α) :=
  fun _ _ _ => Or.inr ⟨_, rfl, .model rfl⟩

/-- A refusal under a condition, in front of something else. -/
theorem leaves_guard {id : NodeId} {problem : ModelProblem} (c : Prop) [Decidable c]
    {x : Reading α} (hx : Leaves g x) :
    Leaves g (if c then refuse id problem >>= fun _ : PUnit => x else x) := by
  split
  · exact leaves_bind (leaves_refuse _ _) fun _ => hx
  · exact hx

/-- Keys that are no texts, or come again, are refused. Induction on the entries. -/
theorem leaves_checkItems (part : MappingPart) (entries : List (NodeId × NodeId))
    (seen : List Text) : Leaves g (checkItems part entries seen) := by
  induction entries generalizing seen with
  | nil => exact leaves_pure []
  | cons entry rest ih =>
    unfold checkItems
    refine leaves_bind leaves_graph fun g => ?_
    split
    · exact leaves_guard _ (leaves_bind (ih _) fun _ => leaves_pure _)
    · exact leaves_refuse _ _

/-- What is no mapping is refused. -/
theorem leaves_items (id : NodeId) (part : MappingPart) : Leaves g (items id part) := by
  unfold items
  refine leaves_bind leaves_graph fun g => ?_
  split
  · exact leaves_checkItems _ _ _
  · exact leaves_refuse _ _

/-- What is no string is refused. -/
theorem leaves_string (id : NodeId) (part : StringPart) : Leaves g (string id part) := by
  unfold string
  refine leaves_bind leaves_graph fun g => ?_
  dsimp only
  split
  · exact leaves_pure _
  · exact leaves_refuse _ _

/-- What is no id is refused. -/
theorem leaves_shapeId (text : Text) (id : NodeId) : Leaves g (shapeId text id) := by
  unfold shapeId
  split
  · exact leaves_pure _
  · exact leaves_refuse _ _

/-- The values that have been made are at hand. -/
theorem run_getThe_bind {origin : Origin} {s : Evaluation} (k : Evaluation → Reading α) :
    ((getThe Evaluation >>= k : Reading α).run origin).run s = ((k s).run origin).run s :=
  rfl

/-- A value that can be made is read, and the graph is left with its merges. -/
theorem plainValue_of_ok {origin : Origin} {id : NodeId} {s s' : Evaluation} {v : Value}
    (h : (Evaluation.value id).run s = .ok (v, s')) :
    ((plainValue id).run origin).run s = .ok (v, s') := by
  unfold plainValue
  rw [run_getThe_bind, h]
  rfl

/-- A value leaves a fault only if there are no words for it, and then the graph has its cause. -/
theorem leaves_plainValue (id : NodeId) : Leaves g (plainValue id) := by
  intro origin s hs
  rcases Evaluation.value_causes id s hs with ⟨v, s', hrun, hs'⟩ | ⟨fault, hrun, hcauses⟩
  · exact Or.inl ⟨v, s', plainValue_of_ok hrun, hs'⟩
  · unfold plainValue
    rw [run_getThe_bind, hrun]
    refine leaves_bind (leaves_read (g := g)) (fun origin => ?_) origin s hs
    split
    · exact leaves_refuse _ _
    · rename_i hreason
      have hunreported := unreported_of_reason? hreason
      exact fun _ _ _ => Or.inr ⟨_, rfl, .fault hunreported (hcauses hunreported)⟩

/-- A trait is an id and a value, so this is where faults of values come in. -/
theorem leaves_trait (item : Item) : Leaves g (trait item) :=
  leaves_bind (leaves_shapeId _ _) fun _ => leaves_bind (leaves_plainValue _) fun _ =>
    leaves_bind (leaves_location _) fun _ => leaves_pure _

/-- The traits of a mapping one after the other. -/
theorem leaves_traits (id : NodeId) : Leaves g (traits id) :=
  leaves_bind (leaves_items _ _) fun _ => leaves_mapM leaves_trait _

/-- A property of a member is a target or traits, or is passed over. -/
theorem leaves_memberProperty (parts : MemberParts) (item : Item) :
    Leaves g (memberProperty parts item) := by
  unfold memberProperty
  split
  · exact leaves_bind (leaves_string _ _) fun _ =>
      leaves_bind (leaves_shapeId _ _) fun _ => leaves_pure _
  · split
    · exact leaves_bind (leaves_traits _) fun _ => leaves_pure _
    · exact leaves_pure _

/-- A member without a target is refused. -/
theorem leaves_member (id : ShapeId) (keyNode value : NodeId) : Leaves g (member id keyNode value) := by
  unfold member
  refine leaves_bind (leaves_items _ _) fun _ =>
    leaves_bind (leaves_foldlM leaves_memberProperty _ _) fun parts => ?_
  split
  · exact leaves_refuse _ _
  · exact leaves_bind (leaves_location _) fun _ => leaves_pure _

/-- The members of a mapping one after the other. -/
theorem leaves_members (key : Text) (shape : ShapeId) (id : NodeId) :
    Leaves g (members key shape id) :=
  leaves_bind (leaves_items _ _) fun _ => leaves_mapM (fun _ => leaves_member _ _ _) _

/-- A word that is no type is refused. -/
theorem leaves_shapeType (id : NodeId) : Leaves g (shapeType id) := by
  unfold shapeType
  refine leaves_bind (leaves_string _ _) fun word => ?_
  split
  · exact leaves_refuse _ _
  · exact leaves_refuse _ _
  · exact leaves_pure _

/-- A property of a shape is a type, traits or members, or is passed over. -/
theorem leaves_shapeProperty (key : Text) (id : ShapeId) (parts : ShapeParts) (item : Item) :
    Leaves g (shapeProperty key id parts item) := by
  unfold shapeProperty
  split
  · exact leaves_bind (leaves_shapeType _) fun _ => leaves_pure _
  · split
    · exact leaves_bind (leaves_traits _) fun _ => leaves_pure _
    · split
      · exact leaves_bind (leaves_members _ _ _) fun _ => leaves_pure _
      · split
        · exact leaves_bind (leaves_member _ _ _) fun _ => leaves_pure _
        · exact leaves_pure _

/-- A shape without a type is refused, and so is one with the id of a member. -/
theorem leaves_shape (item : Item) : Leaves g (shape item) := by
  unfold shape
  refine leaves_bind (leaves_shapeId _ _) fun id => leaves_guard _ ?_
  refine leaves_bind (leaves_items _ _) fun _ =>
    leaves_bind (leaves_foldlM (leaves_shapeProperty _ _) _ _) fun parts => ?_
  split
  · exact leaves_refuse _ _
  · exact leaves_bind (leaves_location _) fun _ => leaves_pure _

/-- A part of the document is a version, metadata or shapes, and anything else is refused. -/
theorem leaves_documentPart (m : Model) (item : Item) : Leaves g (documentPart m item) := by
  unfold documentPart
  split
  · exact leaves_bind (leaves_string _ _) fun _ => leaves_pure _
  · split
    · refine leaves_bind (leaves_plainValue _) fun value => ?_
      split
      · exact leaves_pure _
      · exact leaves_refuse _ _
    · split
      · exact leaves_bind (leaves_items _ _) fun _ =>
          leaves_bind (leaves_mapM leaves_shape _) fun _ => leaves_pure _
      · exact leaves_refuse _ _

/-- So reading a document ends with a founded error, if with any. The steps of the reader are gone through
one by one, each of which leaves founded errors alone. -/
theorem leaves_document (root : NodeId) : Leaves g (document root) :=
  leaves_bind (leaves_items _ _) fun _ => leaves_foldlM leaves_documentPart _ _

end ModelReader

namespace Model

/-- Reading a model out of a text reports whatever makes a document malformed. -/
theorem left_of_ofText {file text : Text} {e : ReadError} (h : ofText file text = .error e) :
    e.Left := by
  unfold ofText at h
  split at h
  · cases h
  · rename_i d _
    unfold ofDocument at h
    cases hread : ((ModelReader.document d.root).run ⟨file, text⟩).run (.start d.graph) with
    | error e' =>
      rw [hread] at h
      cases h
      rcases ModelReader.leaves_document d.root ⟨file, text⟩ (.start d.graph) (.refl _) with
        ⟨m, s', hok, -⟩ | ⟨e, herror, hfounded⟩
      · rw [hread] at hok
        cases hok
      · rw [hread] at herror
        cases herror
        cases hfounded with
        | model _ => exact .model _
        | fault hunreported _ => exact .fault _ hunreported.ne_malformed
    | ok r =>
      rw [hread] at h
      cases h
  · cases h
    exact .model _
  · rename_i fault hnot _
    cases h
    exact .fault fault hnot

/-- A file with a possible path is decoded and read. All that can come of it in place of a model is an
error of the model, or a fault that is no report. A malformed document is reported as an error of the
model. -/
theorem left_of_ofContent {path : Text} {content : FileContent} {e : ReadError}
    (hpath : Path.isImpossible path = false) (h : ofContent path content = .error e) : e.Left := by
  unfold ofContent at h
  dsimp only at h
  rw [hpath, if_neg (by simp)] at h
  split at h
  · cases h
    exact .model _
  · split at h
    · cases h
      exact .fault _ (by simp)
    · exact left_of_ofText h

end Model

namespace TermsConfig

/-- Reading a configuration out of a text reports whatever makes a document malformed. -/
theorem left_of_ofText {text : Text} {e : ConfigFailure} (h : ofText text = .error e) :
    e.Left := by
  rcases ofText_eq_error h with ⟨error, rfl⟩ | hescape
  · exact .config error
  · cases hescape with
    | ofText _ _ hnot => exact .fault _ hnot
    | ofScalar _ _ _ hnot => exact .fault _ hnot
    | ofInteger => exact .overlongInteger

/-- The same for a configuration. A malformed document is reported as a configuration error. -/
theorem left_of_ofContent {path : Text} {content : FileContent} {e : ConfigFailure}
    (hpath : Path.isImpossible path = false) (h : ofContent path content = .error e) : e.Left := by
  unfold ofContent at h
  rw [hpath, if_neg (by simp)] at h
  split at h
  · cases h
    exact .config _
  · split at h
    · cases h
      exact .fault _ (by simp)
    · exact left_of_ofText h

end TermsConfig

end TermAudit
