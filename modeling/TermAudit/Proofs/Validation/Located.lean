import TermAudit.Command.Run
import TermAudit.Proofs.Model.Places
import TermAudit.Proofs.Validation

/-!
# `TermAudit.Proofs.Validation.Located`: where diagnostics say that they belong

A diagnostic about a namespace has no location and names no shape. In JSON both are null then, and
only then: a location that was read has a line and a column of at least one, so it is never taken for the
one that stands for none, whatever the document is called. All other diagnostics are located at the key
of the shape, member or trait that they are about.

* `Located`: this property of a diagnostic about a text;
* `Validator.located_of_check`: the diagnostics about a model that is read have it.
-/

set_option autoImplicit false

namespace TermAudit

open ModelReader (placeOf traitKey Origin)
open Yaml (Document)

/-- The member of an object with the key. In the objects of diagnostics no key comes twice. -/
def Json.member? (key : Text) : Json → Option Json
  | .object members => members.lookup key
  | _ => none

/-- The keys under which a text is declared: those of its shape or member, or those of its trait. The name
of a namespace is declared nowhere by itself. -/
inductive TextInstance.DeclaredAt : TextInstance → List Text → Prop
  | shape {s : Shape} {path : List Text} (h : s.id.DeclaredAt path) : DeclaredAt (.ofShape s) path
  | trait {s : Shape} {t : Trait} {path inner : List Text} {key text : Text} (h : s.id.DeclaredAt path)
    (hkey : ShapeId.parse (traitKey key) = .ok t.id) :
    DeclaredAt (.ofTrait s t inner text) (path ++ [Text.ofString "traits", key])

/-- What a diagnostic about a text in the document says about its place. The location is that of a node of
the document to which keys lead, so it can be looked up in the text. -/
structure Located (file text : Text) (i : TextInstance) (d : Diagnostic) : Prop where
  location_null_iff : d.json.member? "sourceLocation" = some .null ↔ i.place = .namespaceName
  shape_null_iff : d.json.member? "shapeId" = some .null ↔ i.place = .namespaceName
  /-- All others are at the key that declares the text, with the lines and columns counted from one. -/
  key : i.place ≠ .namespaceName → ∃ s doc path keyNode value, i.shape = some s ∧
    Document.ofText text = .ok (some doc) ∧ i.DeclaredAt path ∧
    doc.graph.Leads doc.root path keyNode value ∧
    d.json.member? "shapeId" = some (.text s.id.shown) ∧
    d.json.member? "sourceLocation" = some (.object
      [("filename", .text file), ("line", .int ((doc.graph.node keyNode).position.line + 1)),
        ("column", .int ((doc.graph.node keyNode).position.column + 1))])

/-- The JSON form of a diagnostic has its location. -/
theorem Diagnostic.json_sourceLocation (d : Diagnostic) :
    d.json.member? "sourceLocation" = some d.location.json :=
  rfl

/-- It has the id of its shape in written form, or null. -/
theorem Diagnostic.json_shapeId (d : Diagnostic) :
    d.json.member? "shapeId" = some (match d.shape with
      | some id => .text id.shown
      | none => .null) :=
  rfl

/-- The place of a node is somewhere. -/
theorem json_placeOf (origin : Origin) (g : Yaml.Graph) (id : Yaml.NodeId) :
    (placeOf origin g id).json = .object
      [("filename", .text origin.file), ("line", .int ((g.node id).position.line + 1)),
        ("column", .int ((g.node id).position.column + 1))] := by
  -- Lines are counted from one, and the line that is nowhere is zero.
  have hsomewhere : (placeOf origin g id).isNowhere = false := by
    refine beq_eq_false_iff_ne.mpr fun heq => ?_
    have hline : ((g.node id).position.line : Int) + 1 = 0 := congrArg Location.line heq
    omega
  unfold Location.json
  rw [hsomewhere]
  rfl

variable {file text : Text} {i : TextInstance} {d : Diagnostic}

/-- A diagnostic about a namespace is nowhere and has no shape. -/
theorem located_of_namespace (hplace : i.place = .namespaceName) (hlocation : d.location = .nowhere)
    (hshape : d.shape = none) : Located file text i d where
  location_null_iff := by
    rw [d.json_sourceLocation, hlocation]
    exact iff_of_true rfl hplace
  shape_null_iff := by
    rw [d.json_shapeId, hshape]
    exact iff_of_true rfl hplace
  key h := absurd hplace h

/-- A diagnostic about a shape or a trait is located where its key is in the document. -/
theorem located_of_key {s : Shape} {doc : Document} {path : List Text} {keyNode value : Yaml.NodeId}
    (hplace : i.place ≠ .namespaceName) (hs : i.shape = some s)
    (hdocument : Document.ofText text = .ok (some doc)) (hpath : i.DeclaredAt path)
    (hleads : doc.graph.Leads doc.root path keyNode value)
    (hlocation : d.location = placeOf ⟨file, text⟩ doc.graph keyNode) (hshape : d.shape = some s.id) :
    Located file text i d where
  location_null_iff := by
    rw [d.json_sourceLocation, hlocation, json_placeOf]
    exact iff_of_false (fun h => nomatch h) hplace
  shape_null_iff := by
    rw [d.json_shapeId, hshape]
    exact iff_of_false (fun h => nomatch h) hplace
  key _ := by
    refine ⟨s, doc, path, keyNode, value, hs, hdocument, hpath, hleads, ?_, ?_⟩
    · rw [d.json_shapeId, hshape]
    · rw [d.json_sourceLocation, hlocation, json_placeOf]

/-- Where a text of a model that is read belongs is where it is declared. -/
theorem located_of_belongsTo {m : Model} (hm : Model.ofText file text = .ok m) (hi : i ∈ m.textIndex)
    (h : i.BelongsTo d.location d.shape) : Located file text i d := by
  have horigin := TermTable.origin_of_belongsTo h
  -- A namespace is nowhere, a name is where its shape is, and a text in a trait is where the trait is.
  rcases Model.mem_textIndex hi with ⟨ns, rfl⟩ | ⟨s, hs, hi⟩
  · obtain ⟨hlocation, hshape⟩ := Prod.mk.inj (Except.ok.inj horigin)
    exact located_of_namespace rfl hlocation.symm hshape.symm
  · obtain ⟨doc, path, hdocument, hpath, hstands⟩ := Model.stands_of_ofText hm hs
    rcases hi with rfl | ⟨t, ht, inner, x, rfl⟩
    · obtain ⟨hlocation, hshape⟩ := Prod.mk.inj (Except.ok.inj horigin)
      obtain ⟨keyNode, value, hleads, hplace⟩ := hstands.location
      exact located_of_key (fun h => nomatch h) rfl hdocument (.shape hpath) hleads
        (hlocation.symm.trans hplace) hshape.symm
    · obtain ⟨hlocation, hshape⟩ := Prod.mk.inj (Except.ok.inj horigin)
      obtain ⟨key, keyNode, value, hparse, hleads, hplace⟩ := hstands.traits t ht
      exact located_of_key (fun h => nomatch h) rfl hdocument (.trait hpath hparse) hleads
        (hlocation.symm.trans hplace) hshape.symm

namespace Validator

/-- The diagnostics about a model that is read, of which there is one for each term in each text, are
located where the texts are declared, whatever the document is called and whatever is looked for. There are
diagnostics of a model, or none are due, if every path in it can be written. The location of a shape or
trait is that of its key, and the path of keys that leads there from the root of the document is part of
what is said. -/
theorem located_of_check {m : Model} {c : TermsConfig} {v : Validator}
    (hm : Model.ofText file text = .ok m) (hv : Validator.ofConfig c = .ok v) :
    ∃ t, c.table TermMap.builtIn = .ok t ∧ ((∃ ds, v.check m = .ok ds) ↔ m.PathsWritable) ∧
      ∀ ds, v.check m = .ok ds → List.Forall₂ (fun o d => t.Reports o d ∧ Located file text o.1 d)
        (t.occurrences m.textIndex) ds := by
  obtain ⟨t, ht, rfl⟩ := ofConfig_eq_ok_iff.mp hv
  obtain ⟨ds, hds, hreports⟩ :=
    TermTable.check_reports (TermTable.nil_notMem_keys_of_resolve ht) m
  rw [ofTable_check]
  simp only [TermTable.checkWritable_eq_ok_iff, hds]
  refine ⟨t, ht, ?_, ?_⟩
  · exact ⟨fun ⟨_, hwritable, _⟩ => hwritable, fun hwritable => ⟨ds, hwritable, rfl⟩⟩
  · rintro _ ⟨-, ⟨⟩⟩
    -- A pair of a text and a term is due for a text in the index alone.
    have hlocated : ∀ o ∈ t.occurrences m.textIndex, ∀ d, t.Reports o d → Located file text o.1 d := by
      intro o ho d hd
      obtain ⟨i, hi, ho⟩ := List.mem_flatMap.mp ho
      obtain ⟨term, -, rfl⟩ := List.mem_map.mp ho
      exact located_of_belongsTo hm hi hd.place
    exact ((List.forall₂_and_left _ _).mpr ⟨hlocated, hreports⟩).imp fun o d h => ⟨h.2, h.1 d h.2⟩

/-- A document in which the namespace, a shape and the value of a trait of its member have a term. So
there is a diagnostic of each kind. -/
def slaveText : Text :=
  "shapes:\n slave#Master:\n  type: list\n  member:\n   target: a#B\n   traits: {c#d: [slave]}\n"

/-- The three diagnostics about this document under the name that stands for none. -/
theorem located_of_check_slaveText :
    ∃ m v t ds, Model.ofText "N/A" slaveText = .ok m ∧ Validator.ofConfig .empty = .ok v ∧
      TermsConfig.empty.table TermMap.builtIn = .ok t ∧ v.check m = .ok ds ∧ ds.length = 3 ∧
      List.Forall₂ (fun o d => t.Reports o d ∧ Located "N/A" slaveText o.1 d)
        (t.occurrences m.textIndex) ds := by
  obtain ⟨m, hm, hany⟩ := exists_ok_of_toOption_any (x := Model.ofText "N/A" slaveText)
    (p := fun m => ((Validator.ofTable ⟨TermMap.builtIn⟩).check m).toOption.any fun ds =>
      ds.length == 3)
    (by decide +kernel)
  obtain ⟨ds, hds, hlength⟩ := exists_ok_of_toOption_any hany
  obtain ⟨t, ht, -, hlocated⟩ := located_of_check hm (c := .empty) rfl
  exact ⟨m, _, t, ds, hm, rfl, ht, hds, beq_iff_eq.mp hlength, hlocated ds hds⟩

end Validator

end TermAudit
