import Mathlib.Data.List.Perm.Subperm
import TermAudit.Proofs.State
import TermAudit.Yaml.Values

/-!
# `TermAudit.Proofs.Yaml.Faults`: the faults of values

Making the value of a node can end with a fault that is no fault of the document's form. Each such
fault comes from a scalar whose text is not what its tag asks for (`Tag.Rejects`), or from mappings that
lead from one key `=` to the next without end. `Graph.Rejects` says that a graph holds such a scalar.

The reader of models finds words for some of these faults. Those that it leaves come from texts that are
far from what the tag asks for (`Tag.Fails`). `Graph.Causes` says that a graph holds the cause of such a
fault, and `Evaluation.value_causes` that there is no fault without one.

Merges change the graph on the way. They leave the texts of scalars alone (`Graph.StemsFrom`), so the
cause can be found in the graph as it was at first.
-/

set_option autoImplicit false

namespace TermAudit.Yaml

/-- The faults of a value that are reported by no reader of models. They are the errors that the code for
values does not expect: of a lookup, of a number, of an encoding, and of a search without end. -/
inductive Fault.Unreported : Fault → Prop
  | notUtf8 : Unreported .notUtf8
  | tooLarge : Unreported .tooLarge
  | unknownWord : Unreported .unknownWord
  | emptyNumber : Unreported .emptyNumber
  | formlessTime : Unreported .formlessTime
  | endless : Unreported .endless

/-- A report is what readers of models pass on in words, so it is not unreported. -/
theorem Fault.Unreported.ne_malformed {fault : Fault} (h : fault.Unreported) :
    ∀ report, fault ≠ .malformed report := by
  rintro report rfl
  cases h

/-! ## Scalars that fail -/

/-- What is left of a number when underscores and the sign are taken off. Where nothing is left, the code
asks for a first digit that is not there. -/
def unsignedDigits (t : Text) : Text :=
  (Text.takeSign (t.filter fun c => decide (c ≠ CodePoint.ofChar '_'))).2

/-- The text is so far from what the tag asks for that no reader of models reports the fault. Such a text
never has the tag by its form, so the tag is written in the document. -/
inductive Tag.Fails : Tag → Text → Fault → Prop
  /-- None of the words for truth values. -/
  | bool {t : Text} (h : ∀ w ∈ truthWords, Text.ofString w.1 ≠ t.lower) : Fails .bool t .unknownWord
  /-- An integer without digits. -/
  | int {t : Text} (h : unsignedDigits t = []) : Fails .int t .emptyNumber
  /-- A floating-point number without digits. -/
  | float {t : Text} (h : unsignedDigits t.lower = []) : Fails .float t .emptyNumber
  /-- A floating-point number in base sixty with so many parts that no sum is made of them. -/
  | largeFloat {t : Text} {fault : Fault} {origin : Nat} {parts : List Binary64}
    (hparts : ((unsignedDigits t.lower).splitAll ':').mapM (readFloatPart origin) = .ok parts)
    (hsum : sumSixties 1 .zero parts.reverse = .error fault) : Fails .float t fault
  /-- Not the form of a day or a time. -/
  | timestamp {t : Text} (h : WrittenTime.ofChars? (Tag.dropFinalBreak t.characters) = none) :
    Fails .timestamp t .formlessTime

section Reading

variable {t : Text} {fault : Fault}

/-- A text that denotes nothing is told to the reader of the model in words. This takes all failures of the
kind `Unreadable` out of the cases below. -/
theorem not_unreported_of_readable {α : Type} {what : Unreadable} {a : Option α}
    (h : readable what a = .error fault) : ¬ fault.Unreported := by
  cases a with
  | some a => cases h
  | none =>
    cases h
    rintro ⟨⟩

/-- Reading a truth value fails in one way only, for a word that is none of the six. -/
theorem fails_of_readBool (h : readBool t = .error fault) : Tag.bool.Fails t fault := by
  unfold readBool at h
  split at h
  · cases h
  · rename_i hfind
    cases h
    refine .bool fun w hw heq => ?_
    rw [List.find?_eq_none] at hfind
    exact hfind w hw (decide_eq_true heq)

/-- Taking the sign off a number fails if nothing is left then, and never else. -/
theorem takeNumberSign_eq_error (h : takeNumberSign t = .error fault) :
    unsignedDigits t = [] ∧ fault = .emptyNumber := by
  unfold takeNumberSign at h
  unfold unsignedDigits
  split at h
  · rename_i hnil
    cases h
    rw [hnil]
    exact ⟨rfl, rfl⟩
  · cases h

/-- If it succeeds, what is left is what `unsignedDigits` describes. -/
theorem unsignedDigits_of_takeNumberSign {negative : Bool} {digits : Text}
    (h : takeNumberSign t = .ok (negative, digits)) : unsignedDigits t = digits := by
  unfold takeNumberSign at h
  unfold unsignedDigits
  split at h
  · cases h
  · rw [Except.ok.inj h]

/-- An integer without digits has no report. All other faults of integers are texts that denote nothing, and
these are reported. -/
theorem fails_of_readInt (h : readInt t = .error fault) (hfault : fault.Unreported) :
    Tag.int.Fails t fault := by
  unfold readInt at h
  rcases bind_eq_error_iff.mp h with h | ⟨⟨negative, digits⟩, hsign, h⟩
  · obtain ⟨hdigits, rfl⟩ := takeNumberSign_eq_error h
    exact .int hdigits
  · have hdigits := unsignedDigits_of_takeNumberSign hsign
    rcases bind_eq_error_iff.mp h with h | ⟨n, -, h⟩
    · unfold readMagnitude at h
      split at h
      · cases h
        exact .int hdigits
      · -- Any digits at all are an integer or unreadable.
        have hread (base : Nat) (t : Text) : readIntIn base t ≠ .error fault :=
          fun h => not_unreported_of_readable h hfault
        split at h
        · cases h
        · split at h
          · exact absurd h (hread _ _)
          · split at h
            · exact absurd h (hread _ _)
            · split at h
              · exact absurd h (hread _ _)
              · split at h
                · rcases bind_eq_error_iff.mp h with h | ⟨ns, -, h⟩
                  · obtain ⟨part, -, h⟩ := exists_mem_of_mapM_eq_error h
                    exact absurd h (hread _ _)
                  · cases h
                · exact absurd h (hread _ _)
    · cases h

/-- The same for floating-point numbers, where in addition a number in base sixty can have so many parts
that the powers of sixty are too large. -/
theorem fails_of_readFloat {origin : Nat} (h : readFloat origin t = .error fault)
    (hfault : fault.Unreported) : Tag.float.Fails t fault := by
  -- What is not the text of a float is unreadable, which is reported.
  have hread (t : Text) : readFloatPart origin t ≠ .error fault :=
    fun h => not_unreported_of_readable h hfault
  unfold readFloat at h
  rcases bind_eq_error_iff.mp h with h | ⟨⟨negative, digits⟩, hsign, h⟩
  · obtain ⟨hdigits, rfl⟩ := takeNumberSign_eq_error h
    exact .float hdigits
  · have hdigits := unsignedDigits_of_takeNumberSign hsign
    dsimp only at h
    split at h
    · cases h
    · split at h
      · cases h
      · split at h
        · rcases bind_eq_error_iff.mp h with h | ⟨parts, hparts, h⟩
          · obtain ⟨part, -, h⟩ := exists_mem_of_mapM_eq_error h
            exact absurd h (hread _)
          · rcases bind_eq_error_iff.mp h with h | ⟨sum, -, h⟩
            · -- The parts can be read, so it is their sum that is too large.
              rw [← hdigits] at hparts
              exact .largeFloat hparts h
            · split at h
              · cases h
              · cases h
        · rcases bind_eq_error_iff.mp h with h | ⟨x, -, h⟩
          · exact absurd h (hread _)
          · cases h

/-- A time without the form of one. A day that no calendar has is reported, so the order of the two checks
matters here. -/
theorem fails_of_readTime (h : readTime t = .error fault) (hfault : fault.Unreported) :
    Tag.timestamp.Fails t fault := by
  unfold readTime at h
  split at h
  · rename_i hform
    cases h
    exact .timestamp hform
  · split at h
    · exact absurd hfault (not_unreported_of_readable (map_eq_error_iff.mp h))
    · exact absurd hfault (not_unreported_of_readable (map_eq_error_iff.mp h))

/-- Reading the text as the tag asks for ends with the fault. It covers the reported faults as well, for
readers that report none. -/
inductive Tag.Rejects : Tag → Text → Fault → Prop
  | bool {t : Text} {fault : Fault} (h : readBool t = .error fault) : Rejects .bool t fault
  | int {t : Text} {fault : Fault} (h : readInt t = .error fault) : Rejects .int t fault
  | float {t : Text} {fault : Fault} {origin : Nat} (h : readFloat origin t = .error fault) :
    Rejects .float t fault
  | timestamp {t : Text} {fault : Fault} (h : readTime t = .error fault) : Rejects .timestamp t fault

/-- Whatever the tag is, an unreported fault means that the text is far from what the tag asks for. -/
theorem Tag.Rejects.fails {tag : Tag} (h : tag.Rejects t fault) (hfault : fault.Unreported) :
    tag.Fails t fault := by
  cases h with
  | bool h => exact fails_of_readBool h
  | int h => exact fails_of_readInt h hfault
  | float h => exact fails_of_readFloat h hfault
  | timestamp h => exact fails_of_readTime h hfault

end Reading

/-! ## Graphs after merges -/

namespace Graph

/-- The graph comes from `g` by merges: scalars have kept their texts, and nodes their places and tags,
but for keys `=` that have become strings. It is transitive, and so an invariant of a whole evaluation. -/
structure StemsFrom (g' g : Graph) : Prop where
  size : g'.size = g.size
  position : ∀ id, (g'.node id).position = (g.node id).position
  tag : ∀ id, (g'.node id).tag = (g.node id).tag ∨
    (g.node id).tag = .value ∧ (g'.node id).tag = .str
  content : ∀ id t, (g'.node id).content = .scalar t → (g.node id).content = .scalar t

variable {g g₀ : Graph}

/-- A graph comes from itself, by no merges. -/
theorem StemsFrom.refl (g : Graph) : g.StemsFrom g where
  size := rfl
  position _ := rfl
  tag _ := Or.inl rfl
  content _ _ h := h

/-- Merges after merges are merges. A tag that was changed once is a string, and stays one. -/
theorem StemsFrom.trans {g₁ : Graph} (h : g.StemsFrom g₁) (h' : g₁.StemsFrom g₀) :
    g.StemsFrom g₀ where
  size := h.size.trans h'.size
  position id := (h.position id).trans (h'.position id)
  tag id := by
    rcases h.tag id with heq | ⟨hvalue, hstr⟩
    · rw [heq]
      exact h'.tag id
    · rcases h'.tag id with heq | ⟨-, hstr'⟩
      · exact Or.inr ⟨heq ▸ hvalue, hstr⟩
      · rw [hstr'] at hvalue
        cases hvalue
  content id t ht := h'.content id t (h.content id t ht)

/-- Putting a node in place of another leaves the number of nodes as it is. -/
theorem size_set (g : Graph) (id : NodeId) (n : Node) : (g.set id n).size = g.size :=
  Array.size_setIfInBounds

/-- A number without node. -/
theorem node_of_size_le {id : NodeId} (h : g.size ≤ id) :
    g.node id = ⟨.null, .start, .scalar []⟩ := by
  unfold node
  rw [Array.getD_eq_getD_getElem?, Array.getElem?_eq_none h]
  rfl

/-- Replacing a node changes no other one. -/
theorem node_set (g : Graph) (id : NodeId) (n : Node) (other : NodeId) :
    (g.set id n).node other = if other = id ∧ id < g.size then n else g.node other := by
  unfold set node size
  rw [Array.getD_eq_getD_getElem?, Array.getD_eq_getD_getElem?, Array.getElem?_setIfInBounds]
  by_cases heq : id = other
  · subst heq
    by_cases hlt : id < g.nodes.size
    · simp [hlt]
    · simp [hlt]
  · simp [heq, Ne.symm heq]

/-- A node may be replaced by one at its place that has a tag and a content that merges can give it. -/
theorem stemsFrom_set {id : NodeId} {n : Node} (hposition : n.position = (g.node id).position)
    (htag : n.tag = (g.node id).tag ∨ (g.node id).tag = .value ∧ n.tag = .str)
    (hcontent : ∀ t, n.content = .scalar t → (g.node id).content = .scalar t) :
    (g.set id n).StemsFrom g where
  size := size_set g id n
  position other := by
    rw [node_set]
    split
    · rename_i heq
      rw [heq.1]
      exact hposition
    · rfl
  tag other := by
    rw [node_set]
    split
    · rename_i heq
      rw [heq.1]
      exact htag
    · exact Or.inl rfl
  content other t h := by
    rw [node_set] at h
    split at h
    · rename_i heq
      rw [heq.1]
      exact hcontent t h
    · exact h

/-- Other entries for a mapping, whatever they are, change no scalar and no tag. -/
theorem stemsFrom_setEntries (g : Graph) (id : NodeId) (entries : List (NodeId × NodeId)) :
    (g.setEntries id entries).StemsFrom g :=
  stemsFrom_set rfl (Or.inl rfl) fun _ h => by cases h

/-- Keys `=` become strings, which is the one change of a tag that `StemsFrom` allows for. -/
theorem stemsFrom_plainKeys (g : Graph) (entries : List (NodeId × NodeId)) :
    (g.plainKeys entries).StemsFrom g := by
  unfold plainKeys
  induction entries generalizing g with
  | nil => exact .refl g
  | cons e entries ih =>
    rw [List.foldl_cons]
    refine (ih _).trans ?_
    dsimp only
    split
    · rename_i hvalue
      exact stemsFrom_set rfl (Or.inr ⟨hvalue, rfl⟩) fun _ h => h
    · exact .refl g

/-- The end of a merge does both. -/
theorem stemsFrom_finishMerge (g : Graph) (id : NodeId) (taken : List (NodeId × NodeId)) :
    (g.finishMerge id taken).StemsFrom g :=
  (stemsFrom_setEntries _ _ _).trans (stemsFrom_plainKeys _ _)

end Graph

/-! ## Computations that report the document -/

/-- The computation has a result with the property, or reports the document. It has no fault of another
kind. -/
def Reports {α : Type} (P : α → Prop) (x : Except Fault α) : Prop :=
  (∃ a, x = .ok a ∧ P a) ∨ ∃ report, x = .error (.malformed report)

section Reports

variable {α β : Type} {P : α → Prop} {Q : β → Prop}

/-- A computation that ends with a result that has the property. -/
theorem reports_pure {a : α} (h : P a) : Reports P (pure a) :=
  Or.inl ⟨a, rfl, h⟩

/-- One computation after the other: the second one can rely on what the first has found. -/
theorem Reports.bind {x : Except Fault α} {f : α → Except Fault β} (hx : Reports P x)
    (hf : ∀ a, P a → Reports Q (f a)) : Reports Q (x >>= f) := by
  rcases hx with ⟨a, rfl, ha⟩ | ⟨report, rfl⟩
  · exact hf a ha
  · exact Or.inr ⟨report, rfl⟩

/-- A loop keeps the property if each of its steps does, for the elements that there are. -/
theorem reports_foldlM {f : β → α → Except Fault β} {l : List α}
    (hf : ∀ a ∈ l, ∀ b, Q b → Reports Q (f b a)) {b : β} (hb : Q b) : Reports Q (l.foldlM f b) := by
  induction l generalizing b with
  | nil => exact reports_pure hb
  | cons a l ih =>
    rw [List.forall_mem_cons] at hf
    rw [List.foldlM_cons]
    exact (hf.1 b hb).bind fun _ hb' => ih hf.2 hb'

variable {σ : Type} {R : σ → Prop} {E : Fault → Prop}

/-- It leaves any state as it is, and fails with nothing but reports. -/
theorem Reports.concludes {x : Except Fault α} (h : Reports P x)
    (hE : ∀ report, E (.malformed report)) :
    Concludes R E (liftM x : StateT σ (Except Fault) α) := by
  refine concludes_lift fun fault hfault => ?_
  rcases h with ⟨a, rfl, -⟩ | ⟨report, rfl⟩
  · cases hfault
  · cases hfault
    exact hE report

/-- What comes after it starts with a result that has the property. -/
theorem Reports.concludes_bind {x : Except Fault α} (h : Reports P x)
    (hE : ∀ report, E (.malformed report)) {f : α → StateT σ (Except Fault) β}
    (hf : ∀ a, P a → Concludes R E (f a)) :
    Concludes R E ((liftM x : StateT σ (Except Fault) α) >>= f) := by
  rcases h with ⟨a, rfl, ha⟩ | ⟨report, rfl⟩
  · exact hf a ha
  · exact fun _ _ => Or.inr ⟨_, rfl, hE report⟩

end Reports

namespace Graph

variable {g g₀ : Graph}

/-- What is merged is a mapping or a list, or else is reported. -/
theorem reports_mergeSources (user source : NodeId) :
    Reports (fun _ => True) (g.mergeSources user source) := by
  unfold mergeSources
  split
  · exact reports_pure trivial
  · exact reports_pure trivial
  · exact Or.inr ⟨_, rfl⟩

/-- A merge gives a graph that comes from the one before, or reports the document. -/
theorem reports_mergeInto (fuel : Nat) {id : NodeId} {taken : List (NodeId × NodeId)}
    (h : g.StemsFrom g₀) : Reports (fun g' => g'.StemsFrom g₀) (mergeInto fuel g id taken) := by
  induction fuel generalizing g id taken with
  | zero => exact reports_pure ((stemsFrom_finishMerge g id taken).trans h)
  | succ fuel ih =>
    unfold mergeInto
    split
    · exact reports_pure ((stemsFrom_finishMerge g id taken).trans h)
    · rename_i source others _
      have hset : (g.setEntries id others).StemsFrom g₀ := (stemsFrom_setEntries _ _ _).trans h
      refine (reports_mergeSources id source).bind fun sources _ => ?_
      refine Reports.bind (P := fun r => r.1.StemsFrom g₀) ?_ fun r hr => ih hr
      refine reports_foldlM ?_ hset
      -- Each source is merged itself before its entries are taken over.
      rintro source - ⟨g', found⟩ hg'
      dsimp only
      split
      · exact (ih hg').bind fun g'' hg'' => reports_pure hg''
      · exact Or.inr ⟨_, rfl⟩

/-- Merging gives entries and a graph that comes from the first one, or reports a node. So no fault of a
value can come from merging itself. -/
theorem reports_mergedEntries (id : NodeId) (h : g.StemsFrom g₀) :
    Reports (fun r => r.2.StemsFrom g₀) (g.mergedEntries id) := by
  unfold mergedEntries
  split
  · exact (reports_mergeInto _ h).bind fun g' hg' => reports_pure hg'
  · exact Or.inr ⟨_, rfl⟩

/-- A node with the tag of sequences that is none is reported. -/
theorem reports_items (id : NodeId) : Reports (fun _ => True) (g.items id) := by
  unfold items
  split
  · exact reports_pure trivial
  · exact Or.inr ⟨_, rfl⟩

/-- So is a list of pairs that is none. -/
theorem reports_pairItems (id : NodeId) : Reports (fun _ => True) (g.pairItems id) := by
  unfold pairItems
  split
  · exact reports_pure trivial
  · exact Or.inr ⟨_, rfl⟩

/-- And so is an item of it that is no mapping with one entry. -/
theorem reports_singleEntry (around id : NodeId) :
    Reports (fun _ => True) (g.singleEntry around id) := by
  unfold singleEntry
  split
  · exact reports_pure trivial
  · exact Or.inr ⟨_, rfl⟩
  · exact Or.inr ⟨_, rfl⟩

/-! ## Causes of faults -/

/-- There is a key `=` in the graph, which gives a mapping a text. With such keys, the text of a node can
be that of another one. -/
def HasValueKey (g : Graph) : Prop :=
  ∃ key, (g.node key).tag = .value

/-- There is a cause of the fault in the graph: a scalar with a text that its tag cannot read, or, with
keys `=`, that the tag of another node cannot read; or a search through keys `=` without end. All of it
can be seen in the document before any value is made. -/
inductive Causes (g : Graph) : Fault → Prop
  | scalar {id inside : NodeId} {t : Text} {fault : Fault}
    (hcontent : (g.node inside).content = .scalar t) (hfails : (g.node id).tag.Fails t fault)
    (hinside : inside = id ∨ g.HasValueKey) : Causes g fault
  | endless (h : g.HasValueKey) : Causes g .endless

/-- The same for faults of all kinds. With keys `=`, a mapping can also stand where the text of a time is
needed. -/
inductive Rejects (g : Graph) : Fault → Prop
  | scalar {id inside : NodeId} {t : Text} {fault : Fault}
    (hcontent : (g.node inside).content = .scalar t) (hrejects : (g.node id).tag.Rejects t fault)
    (hinside : inside = id ∨ g.HasValueKey) : Rejects g fault
  | timeNotText {id : NodeId} (htag : (g.node id).tag = .timestamp) (h : g.HasValueKey) :
    Rejects g .timeNotText
  | endless (h : g.HasValueKey) : Rejects g .endless

/-- An unreported fault has one of the causes that are listed for these. -/
theorem Rejects.causes {fault : Fault} (h : g.Rejects fault) (hfault : fault.Unreported) :
    g.Causes fault := by
  cases h with
  | scalar hcontent hrejects hinside => exact .scalar hcontent (hrejects.fails hfault) hinside
  | timeNotText htag h => cases hfault
  | endless h => exact .endless h

/-- The text of a node is the text of a scalar. A search for it can report the document, or go on
without end through keys `=`. -/
theorem text?_cases (fuel : Nat) (id : NodeId) :
    (∃ t inside, g.text? fuel id = .ok t ∧ (g.node inside).content = .scalar t ∧
      (inside = id ∨ g.HasValueKey)) ∨
    (∃ report, g.text? fuel id = .error (.malformed report)) ∨
    (g.text? fuel id = .error .endless ∧ (fuel = 0 ∨ g.HasValueKey)) := by
  induction fuel generalizing id with
  | zero => exact Or.inr (Or.inr ⟨rfl, Or.inl rfl⟩)
  | succ fuel ih =>
    unfold text?
    split
    · rename_i t hcontent
      exact Or.inl ⟨t, id, rfl, hcontent, Or.inl rfl⟩
    · exact Or.inr (Or.inl ⟨_, rfl⟩)
    · split
      · -- The text of a mapping is that of its key `=`.
        rename_i key value hfind
        have hfound := List.find?_some hfind
        have hkey : g.HasValueKey := ⟨key, beq_iff_eq.mp hfound⟩
        rcases ih value with ⟨t, inside, h, hcontent, -⟩ | h | ⟨h, -⟩
        · exact Or.inl ⟨t, inside, h, hcontent, Or.inr hkey⟩
        · exact Or.inr (Or.inl h)
        · exact Or.inr (Or.inr ⟨h, Or.inr hkey⟩)
      · exact Or.inr (Or.inl ⟨_, rfl⟩)

/-- A text is looked for first and then read. What comes of a fault of the reader comes of a fault of
both. -/
theorem rejects_of_text?_bind {α : Type} {id : NodeId} {fault : Fault} {r : Text → Except Fault α}
    (hread : ∀ t inside, (g.node inside).content = .scalar t → (inside = id ∨ g.HasValueKey) →
      r t = .error fault → (∃ report, fault = .malformed report) ∨ g.Rejects fault)
    (h : (g.text? (g.size + 1) id >>= r) = .error fault) :
    (∃ report, fault = .malformed report) ∨ g.Rejects fault := by
  rcases text?_cases (g.size + 1) id with
    ⟨t, inside, ht, hcontent, hinside⟩ | ⟨report, ht⟩ | ⟨ht, hkey⟩
  · rw [ht] at h
    exact hread t inside hcontent hinside h
  · rw [ht] at h
    cases h
    exact Or.inl ⟨report, rfl⟩
  · rw [ht] at h
    cases h
    exact Or.inr (.endless (hkey.resolve_left (Nat.succ_ne_zero _)))

/-- A scalar that cannot be made reports the document, or it is rejected. -/
theorem rejects_of_scalar? {id : NodeId} {fault : Fault} (h : g.scalar? id = some (.error fault)) :
    (∃ report, fault = .malformed report) ∨ g.Rejects fault := by
  -- A tag of plain texts reads nothing, so what fails there is the search for the text.
  have hplain (h : g.text? (g.size + 1) id = .error fault) :=
    rejects_of_text?_bind (r := Except.ok) (fun _ _ _ _ h => by cases h)
      (bind_eq_error_iff.mpr (Or.inl h))
  unfold scalar? at h
  dsimp only at h
  split at h
  · exact hplain (map_eq_error_iff.mp (Option.some.inj h))
  · rename_i htag
    refine rejects_of_text?_bind (fun t inside hcontent hinside he => ?_) (Option.some.inj h)
    exact Or.inr (.scalar hcontent (htag ▸ .bool (map_eq_error_iff.mp he)) hinside)
  · rename_i htag
    refine rejects_of_text?_bind (fun t inside hcontent hinside he => ?_) (Option.some.inj h)
    exact Or.inr (.scalar hcontent (htag ▸ .int (map_eq_error_iff.mp he)) hinside)
  · rename_i htag
    refine rejects_of_text?_bind (fun t inside hcontent hinside he => ?_) (Option.some.inj h)
    exact Or.inr (.scalar hcontent (htag ▸ .float (map_eq_error_iff.mp he)) hinside)
  · exact hplain (map_eq_error_iff.mp (Option.some.inj h))
  · -- Whatever is wrong with octets is reported.
    refine rejects_of_text?_bind (fun t inside _ _ he => ?_) (Option.some.inj h)
    split at he
    · cases he
      exact Or.inl ⟨_, rfl⟩
    · split at he
      · cases he
      · cases he
        exact Or.inl ⟨_, rfl⟩
  · rename_i htag
    refine rejects_of_text?_bind (fun t inside hcontent hinside he => ?_) (Option.some.inj h)
    split at he
    · exact Or.inr (.scalar hcontent (htag ▸ .timestamp he) hinside)
    · -- The text is that of another node, so there is a key `=`.
      rename_i hscalar
      cases he
      refine Or.inr (.timeNotText htag (hinside.resolve_left ?_))
      rintro rfl
      unfold isScalar at hscalar
      rw [hcontent] at hscalar
      exact hscalar rfl
  · cases h

/-- Merges make no keys `=`, they only take their tags away. So a graph after merges has one only if the
document has. -/
theorem HasValueKey.of_stemsFrom (h : g.HasValueKey) (hg : g.StemsFrom g₀) : g₀.HasValueKey := by
  obtain ⟨key, htag⟩ := h
  rcases hg.tag key with heq | ⟨hvalue, -⟩
  · exact ⟨key, heq ▸ htag⟩
  · exact ⟨key, hvalue⟩

/-- Merges bring no new scalars that are rejected. -/
theorem Rejects.of_stemsFrom {fault : Fault} (h : g.Rejects fault) (hg : g.StemsFrom g₀) :
    g₀.Rejects fault := by
  cases h with
  | @scalar id inside t fault hcontent hrejects hinside =>
    have hinside := hinside.imp_right fun h => h.of_stemsFrom hg
    rcases hg.tag id with heq | ⟨-, hstr⟩
    · exact .scalar (hg.content inside t hcontent) (heq ▸ hrejects) hinside
    · -- The tag of a key `=` may have become that of strings, which rejects nothing.
      rw [hstr] at hrejects
      cases hrejects
  | @timeNotText id htag h =>
    refine @Rejects.timeNotText g₀ id ?_ (h.of_stemsFrom hg)
    rcases hg.tag id with heq | ⟨-, hstr⟩
    · exact heq.symm.trans htag
    · rw [hstr] at htag
      cases htag
  | endless h => exact .endless (h.of_stemsFrom hg)

end Graph

/-! ## Faults of values -/

namespace Evaluation

variable {g : Graph} {α β : Type}

/-- From a state whose graph comes from `g` the computation goes to another one, or it ends with a fault
that is reported or has a cause in `g`. It is what each step of an evaluation has, so the whole has it. -/
def Blames (g : Graph) (x : Evaluating α) : Prop :=
  ∀ s : Evaluation, s.graph.StemsFrom g →
    (∃ a s', x.run s = .ok (a, s') ∧ s'.graph.StemsFrom g) ∨
    ∃ fault, x.run s = .error fault ∧ (fault.Unreported → g.Causes fault)

/-- A result changes no graph. -/
theorem blames_pure (a : α) : Blames g (pure a) :=
  concludes_pure a

/-- The second computation starts with a graph that comes from the document, too, so its faults have their
causes in the same document. -/
theorem Blames.bind {x : Evaluating α} {f : α → Evaluating β} (hx : Blames g x)
    (hf : ∀ a, Blames g (f a)) : Blames g (x >>= f) :=
  Concludes.bind hx hf

/-- The same for a list of computations. -/
theorem blames_mapM {f : α → Evaluating β} (hf : ∀ a, Blames g (f a)) (l : List α) :
    Blames g (l.mapM f) :=
  concludes_mapM hf l

/-- And for a loop with a state. -/
theorem blames_foldlM {f : β → α → Evaluating β} (hf : ∀ b a, Blames g (f b a)) (l : List α)
    (b : β) : Blames g (l.foldlM f b) :=
  concludes_foldlM hf l b

/-- What depends on the state can be looked at for each state whose graph comes from `g`. -/
theorem blames_get {f : Evaluation → Evaluating α}
    (hf : ∀ s : Evaluation, s.graph.StemsFrom g → Blames g (f s)) : Blames g (get >>= f) :=
  concludes_get hf

/-- A state may be replaced by one whose graph comes from the document. -/
theorem blames_set {s : Evaluation} (h : s.graph.StemsFrom g) : Blames g (set s) :=
  concludes_set h

/-- A computation that reports the document, if anything, is not to blame. -/
theorem blames_lift {x : Except Fault α} {P : α → Prop} (h : Reports P x) :
    Blames g (liftM x : Evaluating α) :=
  h.concludes fun _ h => absurd rfl (h.ne_malformed _)

/-- A refusal is a report. -/
theorem blames_refuse (id : NodeId) (problem : Problem) :
    Blames g (refuse id problem : Evaluating α) :=
  blames_get fun _ _ => blames_lift (P := fun _ => True) (Or.inr ⟨_, rfl⟩)

/-- What comes after a refusal does not count. -/
theorem blames_refuse_bind (id : NodeId) (problem : Problem) (f : α → Evaluating β) :
    Blames g (refuse id problem >>= f) :=
  fun _ _ => Or.inr ⟨_, rfl, fun h => absurd rfl (h.ne_malformed _)⟩

/-- Merging is reported or gives a graph of the document, as above. -/
theorem blames_mergedEntries (id : NodeId) : Blames g (mergedEntries id) := by
  unfold mergedEntries
  refine blames_get fun s hs => (Graph.reports_mergedEntries id hs).concludes_bind
    (fun _ h => absurd rfl (h.ne_malformed _)) ?_
  rintro ⟨entries, g'⟩ hg'
  exact (blames_set (s := { s with graph := g' }) hg').bind fun _ => blames_pure entries

section Collections

variable {value : NodeId → Evaluating Value} (hvalue : ∀ id, Blames g (value id))

include hvalue

/-- The entries that are left after merging are made in their order. A key that is no scalar is reported. -/
theorem blames_mapping (id : NodeId) : Blames g (mapping value id) := by
  unfold mapping
  refine (blames_mergedEntries id).bind fun entries => blames_foldlM ?_ _ _
  rintro made ⟨key, item⟩
  refine (hvalue key).bind fun k => ?_
  split
  · exact (hvalue item).bind fun v => blames_pure _
  · exact blames_get fun _ _ => blames_lift (P := fun _ => True) (Or.inr ⟨_, rfl⟩)

/-- A pair is a mapping with one entry, and its key and its value are made one after the other. -/
theorem blames_pair (around item : NodeId) :
    Blames g (do
      let (key, item) ← (← get).graph.singleEntry around item
      return Value.tuple [← value key, ← value item]) := by
  refine blames_get fun s _ => (blames_lift (Graph.reports_singleEntry around item)).bind ?_
  rintro ⟨key, item⟩
  exact (hvalue key).bind fun k => (hvalue item).bind fun v => blames_pure _

/-- Every kind of collection is made of the values in it, and any other tag is reported. -/
theorem blames_collection (id : NodeId) : Blames g (collection value id) := by
  unfold collection
  refine blames_get fun s _ => ?_
  dsimp only
  split
  · exact (blames_lift (Graph.reports_items id)).bind fun ids =>
      (blames_mapM hvalue ids).bind fun vs => blames_pure _
  · exact (blames_mapping hvalue id).bind fun entries => blames_pure _
  · exact (blames_mapping hvalue id).bind fun entries => blames_pure _
  · exact (blames_lift (Graph.reports_pairItems id)).bind fun ids =>
      (blames_mapM (blames_pair hvalue id) ids).bind fun pairs => blames_pure _
  · exact (blames_lift (Graph.reports_pairItems id)).bind fun ids =>
      (blames_mapM (blames_pair hvalue id) ids).bind fun pairs => blames_pure _
  · exact blames_refuse _ _

end Collections

/-- A node that is no scalar is one of the graph's nodes. -/
theorem lt_size_of_scalar? {g : Graph} {id : NodeId} (h : g.scalar? id = none) : id < g.size := by
  by_contra hlt
  unfold Graph.scalar? at h
  rw [Graph.node_of_size_le (Nat.le_of_not_lt hlt)] at h
  cases h

/-- The nodes around a node are different ones, so the fuel lasts as long as there are others. -/
theorem blames_valueIn (fuel : Nat) {around : List NodeId} {id : NodeId} (hnodup : around.Nodup)
    (haround : ∀ a ∈ around, a < g.size) (hfuel : g.size < fuel + around.length) :
    Blames g (valueIn fuel around id) := by
  induction fuel generalizing around id with
  | zero =>
    -- The nodes around are different ones, so there cannot be more of them than nodes.
    have hsubset : around ⊆ List.range g.size := fun a ha => List.mem_range.mpr (haround a ha)
    have hle := (List.subperm_of_subset hnodup hsubset).length_le
    rw [List.length_range] at hle
    omega
  | succ fuel ih =>
    unfold valueIn
    refine blames_get fun s hs => ?_
    split
    · exact blames_pure _
    · -- What has been made is remembered, which cannot fail.
      have hknow (v : Value) : Blames g (do
          modify fun s => { s with known := (id, v) :: s.known }
          return v) :=
        fun s hs => Or.inl ⟨v, _, rfl, hs⟩
      by_cases hcontains : around.contains id = true
      · -- A node inside of itself is reported.
        rw [if_pos hcontains]
        exact blames_refuse_bind _ _ _
      · rw [if_neg hcontains]
        dsimp only
        split
        · rename_i result hscalar
          refine Blames.bind ?_ fun x => hknow (.scalar x)
          cases result with
          | ok x => exact blames_pure x
          | error fault =>
            refine fun _ _ => Or.inr ⟨fault, rfl, fun hfault => ?_⟩
            rcases Graph.rejects_of_scalar? hscalar with ⟨report, rfl⟩ | hrejects
            · cases hfault
            · exact (hrejects.of_stemsFrom hs).causes hfault
        · rename_i hnone
          -- A collection is a node of the graph, so there is one node more around.
          have hid : id < g.size := hs.size ▸ lt_size_of_scalar? hnone
          have hnew : id ∉ around := by simpa using hcontains
          have hvalue (item : NodeId) : Blames g (valueIn fuel (id :: around) item) := by
            refine ih (List.nodup_cons.mpr ⟨hnew, hnodup⟩) ?_ ?_
            · exact List.forall_mem_cons.mpr ⟨hid, haround⟩
            · rw [List.length_cons]
              omega
          exact (blames_collection hvalue id).bind hknow

/-- A fault of a value has a cause in the graph that the values are made of, unless it is reported. The
graph may have been merged before, since merges bring no new scalars. -/
theorem value_causes (id : NodeId) : Blames g (value id) :=
  blames_get fun s hs => blames_valueIn _ List.nodup_nil (fun _ h => absurd h List.not_mem_nil)
    (by rw [hs.size]; exact Nat.lt_succ_self _)

end Evaluation

end TermAudit.Yaml
