import TermAudit.Proofs.Yaml.Stream
import TermAudit.Yaml.Graph

/-!
# `TermAudit.Proofs.Yaml.Wording`: the faults of the text of a document

Up to the graph of its nodes, everything that is wrong with a document is reported, but for three
numbers in its text (`Fault.OfText`): a version with too many digits, and an escape past the last code
point or past all numbers that can be one.

`FromText` is the property of a reader to have no other faults. It goes through all of them, from the
characters to the nodes; `Document.fromText_ofText` is the last of these steps.
-/

set_option autoImplicit false

namespace TermAudit.Yaml

/-- The faults of the text of a document. All but three of them are reports, which say what is wrong and
where. -/
inductive Fault.OfText : Fault → Prop
  | malformed (report : Report) : OfText (.malformed report)
  /-- An escape that is a number but no code point. -/
  | codePoint : OfText (.unreadable .codePoint)
  /-- An escape that is too large for a number. -/
  | tooLarge : OfText .tooLarge
  /-- A number in the version of a document. -/
  | version (t : Text) : OfText (.unreadable (.integer 10 t))

/-- The reader has no faults but those of texts. It is closed under running one reader after another, so
it goes from single characters to the whole document. -/
def FromText {α : Type} (x : Except Fault α) : Prop :=
  ∀ fault, x = .error fault → fault.OfText

section FromText

variable {α β : Type}

/-- A reader that always succeeds has no faults at all. Loops that run out of fuel end in one. -/
@[simp] theorem fromText_pure (a : α) : FromText (pure a) := by
  intro fault h
  cases h

/-- What is reported has a place in the text, so it is a fault of texts. All refusals of the readers below
come down to this one. -/
@[simp] theorem fromText_malformed (report : Report) :
    FromText (throw (.malformed report) : Except Fault α) := by
  intro fault h
  cases h
  exact .malformed report

/-- Readers one after the other have the faults of both. The second one counts only for what the first can
give it, which is where `simp` gets at the readers of tokens and events. -/
@[simp] theorem fromText_bind_iff {x : Except Fault α} {f : α → Except Fault β} :
    FromText (x >>= f) ↔ FromText x ∧ ∀ a, x = .ok a → FromText (f a) := by
  constructor
  · intro h
    refine ⟨fun fault hx => h fault (bind_eq_error_iff.mpr (Or.inl hx)), ?_⟩
    exact fun a ha fault hf => h fault (bind_eq_error_iff.mpr (Or.inr ⟨a, ha, hf⟩))
  · rintro ⟨hx, hf⟩ fault h
    rcases bind_eq_error_iff.mp h with h | ⟨a, ha, h⟩
    · exact hx fault h
    · exact hf a ha fault h

/-- What is done to a result afterward adds no faults. -/
@[simp] theorem fromText_map_iff {x : Except Fault α} {f : α → β} :
    FromText (f <$> x) ↔ FromText x := by
  unfold FromText
  simp only [map_eq_error_iff]

/-- A choice has the faults of the branch that is taken. -/
@[simp] theorem fromText_ite_iff {c : Prop} [Decidable c] {x y : Except Fault α} :
    FromText (if c then x else y) ↔ (c → FromText x) ∧ (¬ c → FromText y) := by
  by_cases hc : c
  · simp [hc]
  · simp [hc]

end FromText

/-! ## Directives, anchors, aliases and tags -/

namespace Cursor

variable {α : Type} (k : Cursor)

/-- A cursor refuses the text where it stands, and says so in a report. -/
@[simp] theorem fromText_refuse (problem : Problem) :
    FromText (k.refuse problem : Except Fault α) :=
  fromText_malformed _

/-- The same with the activity that was under way and its start. -/
@[simp] theorem fromText_refuseIn (activity : Activity) (start : Position) (problem : Problem) :
    FromText (refuseIn activity start k problem : Except Fault α) :=
  fromText_malformed _

/-- The same for a character that is not the wanted one. -/
@[simp] theorem fromText_refuseChar (activity : Activity) (start : Position) (wanted : Expectation) :
    FromText (refuseChar activity start wanted k : Except Fault α) :=
  fromText_malformed _

/-- The same inside a tag or a directive, whichever owns the text at hand. -/
@[simp] theorem fromText_tagOwner_refuse (o : TagOwner) (wanted : Expectation) :
    FromText (o.refuse wanted k : Except Fault α) :=
  fromText_malformed _

/-- A name that is missing is reported. -/
@[simp] theorem fromText_takeName (activity : Activity) (start : Position) :
    FromText (takeName activity start k) := by
  unfold takeName
  split <;> simp

/-- An anchor or an alias is a name with a sign in front, and has no faults of its own. -/
@[simp] theorem fromText_takeAnchor (activity : Activity) : FromText (takeAnchor activity k) := by
  simp [takeAnchor]

/-- A handle is `!`, or a name between two of them. What is missing of it is reported. -/
@[simp] theorem fromText_takeHandle (o : TagOwner) : FromText (takeHandle o k) := by
  simp [takeHandle]

/-- An escaped octet wants two hexadecimal digits, and the first character that is none is reported. -/
@[simp] theorem fromText_takeOctet (o : TagOwner) : FromText (takeOctet o k) := by
  unfold takeOctet
  dsimp only
  split <;> simp

/-- The same for all octets of one escaped character. Induction on the fuel, at the end of which the loop
stops without a fault. -/
@[simp] theorem fromText_takeOctets (o : TagOwner) (fuel : Nat) : FromText (takeOctets o fuel k) := by
  induction fuel generalizing k with
  | zero => exact fromText_pure _
  | succ fuel ih => simp [takeOctets, ih]

/-- The parts of an address in turn. Octets that are no UTF-8 are reported, other than a document of such
octets. -/
@[simp] theorem fromText_takeAddressParts (o : TagOwner) (fuel : Nat) :
    FromText (takeAddressParts o fuel k) := by
  induction fuel generalizing k with
  | zero => exact fromText_pure _
  | succ fuel ih =>
    unfold takeAddressParts
    split
    · simp only [fromText_bind_iff, fromText_takeOctets, true_and]
      rintro ⟨octets, after⟩ _
      dsimp only
      split
      · exact fromText_refuseIn _ _ _ _
      · simp [ih]
    · split
      · exact fromText_pure _
      · simp [ih]

/-- An address that is empty is reported. -/
@[simp] theorem fromText_takeAddress (o : TagOwner) : FromText (takeAddress o k) := by
  simp [takeAddress]

/-- A tag is an address in angle brackets, or an address with or without a handle in front. It ends at a
gap, or else is reported. -/
@[simp] theorem fromText_takeTag : FromText k.takeTag := by
  simp [takeTag]

/-- Anything but a comment behind a directive is reported. -/
@[simp] theorem fromText_finishLine (activity : Activity) (start : Position) :
    FromText (finishLine activity start k) := by
  unfold finishLine
  dsimp only
  split
  · split <;> simp
  · simp

/-- The first of the three numbers: a version of more than 4300 digits cannot be read as an integer, and
this fault has no report. -/
@[simp] theorem fromText_takeVersionNumber (start : Position) : FromText (takeVersionNumber start k) := by
  unfold takeVersionNumber
  split
  · simp
  · split
    · simp
    · intro fault h
      cases h
      exact .version _

/-- The version of a document is two such numbers. -/
@[simp] theorem fromText_takeVersion (start : Position) : FromText (takeVersion start k) := by
  simp [takeVersion]

/-- The meaning of a handle is the address that it stands for. -/
@[simp] theorem fromText_takeHandleMeaning (start : Position) :
    FromText (takeHandleMeaning start k) := by
  simp [takeHandleMeaning]

/-- A directive tells a version or the meaning of a handle. Others are passed over. -/
@[simp] theorem fromText_takeDirective : FromText k.takeDirective := by
  simp [takeDirective]

/-! ## Scalars -/

/-- Breaks inside of quotation marks. A mark between documents is reported there. -/
@[simp] theorem fromText_takeQuotedBreaks (start : Position) (fuel : Nat) :
    FromText (takeQuotedBreaks start fuel k) := by
  induction fuel generalizing k with
  | zero => exact fromText_pure _
  | succ fuel ih =>
    unfold takeQuotedBreaks
    simp only [fromText_bind_iff, fromText_ite_iff]
    split <;> simp [ih]

/-- White space inside of quotation marks, in which the text may end too early. -/
@[simp] theorem fromText_takeQuotedGap (start : Position) : FromText (takeQuotedGap start k) := by
  unfold takeQuotedGap
  simp only [fromText_bind_iff, fromText_ite_iff]
  split <;> simp

/-- The other two numbers: the digits of an escape are a number past the last code point, or past all
numbers that can be one. Neither fault has a report. -/
@[simp] theorem fromText_takeNumberEscape (start : Position) (digits : Nat) :
    FromText (takeNumberEscape start digits k) := by
  unfold takeNumberEscape
  split
  · simp
  · split
    · simp
    · intro fault h
      cases h
      split
      · exact .codePoint
      · exact .tooLarge

/-- An escape is a letter, a break, or digits of a number. -/
@[simp] theorem fromText_takeEscape (start : Position) : FromText (takeEscape start k) := by
  unfold takeEscape
  split <;> simp

/-- Without fuel a quoted scalar is reported as unfinished, so this loop, unlike the others, does not begin
with success. -/
@[simp] theorem fromText_takeQuoted (quote : Char) (start : Position) (fuel : Nat) :
    FromText (takeQuoted quote start fuel k) := by
  induction fuel generalizing k with
  | zero => exact fromText_refuseIn _ _ _ _
  | succ fuel ih => simp [takeQuoted, ih]

/-- An indentation of zero is reported. -/
@[simp] theorem fromText_takeIncrement (start : Position) : FromText (takeIncrement start k) := by
  simp [takeIncrement]

/-- The signs of a block scalar come in either order. -/
@[simp] theorem fromText_takeBlockHeader (start : Position) :
    FromText (takeBlockHeader start k) := by
  simp [takeBlockHeader]

/-- The lines of a block scalar are taken as they are, so all its faults are in the header. -/
@[simp] theorem fromText_takeBlockScalar (indent : Int) : FromText (takeBlockScalar indent k) := by
  simp [takeBlockScalar]

end Cursor

/-! ## Tokens -/

namespace Lexer

variable {α : Type} (s : Lexer)

/-- A key without a colon is reported at the place where it began. -/
@[simp] theorem fromText_refuseKey (key : PossibleKey) :
    FromText (s.refuseKey key : Except Fault α) :=
  fromText_malformed _

/-- A character that begins no token is reported. -/
@[simp] theorem fromText_refuseStray : FromText (s.refuseStray : Except Fault α) :=
  fromText_malformed _

/-- Keys that can no longer have a colon are forgotten. One that has to be a key is reported. -/
@[simp] theorem fromText_forgetStale : FromText s.forgetStale := by
  unfold forgetStale
  split <;> simp

/-- The same for the key at the present depth. -/
@[simp] theorem fromText_forgetKey : FromText s.forgetKey := by
  unfold forgetKey
  split <;> simp

/-- A new possible key takes the place of the one before, which is forgotten first. -/
@[simp] theorem fromText_rememberKey : FromText s.rememberKey := by
  simp [rememberKey]

/-- At the end of the text all that is open is closed. -/
@[simp] theorem fromText_readEnd : FromText s.readEnd := by
  simp [readEnd]

/-- A directive is read by its cursor. -/
@[simp] theorem fromText_readDirective : FromText s.readDirective := by
  simp [readDirective]

/-- The marks between documents end all collections, and forget the key before them. -/
@[simp] theorem fromText_readSeparator (lexeme : Lexeme) : FromText (s.readSeparator lexeme) := by
  simp [readSeparator]

/-- An opening bracket may begin a key. -/
@[simp] theorem fromText_readFlowStart (lexeme : Lexeme) : FromText (s.readFlowStart lexeme) := by
  simp [readFlowStart]

/-- A closing bracket ends what may have been a key. -/
@[simp] theorem fromText_readFlowEnd (lexeme : Lexeme) : FromText (s.readFlowEnd lexeme) := by
  simp [readFlowEnd]

/-- So does a comma. -/
@[simp] theorem fromText_readFlowEntry : FromText s.readFlowEntry := by
  simp [readFlowEntry]

/-- A dash where no entry may begin is reported. -/
@[simp] theorem fromText_readBlockEntry : FromText s.readBlockEntry := by
  simp [readBlockEntry]

/-- So is a question mark where no key may begin. -/
@[simp] theorem fromText_readKey : FromText s.readKey := by
  simp [readKey]

/-- A colon belongs to a key before it, or else is refused where no key may begin. -/
@[simp] theorem fromText_readValue : FromText s.readValue := by
  unfold readValue
  split <;> simp

/-- Anchors, aliases and tags have the faults of the cursor that takes them. -/
theorem fromText_readMarker {take : Cursor → Except Fault (α × Cursor)} {lexeme : α → Lexeme}
    (h : ∀ k, FromText (take k)) : FromText (s.readMarker take lexeme) := by
  simp [readMarker, h]

/-- A block scalar is no key, and else has the faults of its cursor. -/
@[simp] theorem fromText_readBlockScalar : FromText s.readBlockScalar := by
  simp [readBlockScalar]

/-- A quoted scalar may be a key, and else has the faults of its cursor. -/
@[simp] theorem fromText_readQuoted : FromText s.readQuoted := by
  simp [readQuoted]

/-- A plain scalar ends where it cannot go on. One that cannot even begin is a stray character. -/
@[simp] theorem fromText_readPlain : FromText s.readPlain := by
  unfold readPlain
  simp only [fromText_bind_iff]
  refine ⟨fromText_rememberKey s, fun s _ => ?_⟩
  split <;> simp

/-- The sign at hand tells which of these readers goes on. One lemma for all of them keeps the cases of the
signs out of the proofs that follow. -/
theorem fromText_readBySign? {result : Except Fault Lexer} (h : s.readBySign? = some result) :
    FromText result := by
  unfold readBySign? at h
  split at h <;> cases h <;> simp [fromText_readMarker]

/-- The next token is read by its sign, or is a plain scalar, or is refused. -/
@[simp] theorem fromText_readToken : FromText s.readToken := by
  unfold readToken
  simp only [fromText_ite_iff]
  split
  · rename_i result hresult
    simp [fromText_readBySign? s hresult]
  · simp

/-- A step of the lexer skips what is no token, forgets stale keys and reads a token. -/
@[simp] theorem fromText_advance : FromText s.advance := by
  simp [advance]

/-- To ask whether a key may still follow can itself refuse a stale key. -/
@[simp] theorem fromText_mustAdvance : FromText s.mustAdvance := by
  simp [mustAdvance]

end Lexer

/-- The fault behind the tokens is one of the text. -/
theorem Tokens.fault_ofLexer (fuel : Nat) (s : Lexer) {fault : Fault}
    (h : (Tokens.ofLexer fuel s).fault = some fault) : fault.OfText := by
  induction fuel generalizing s with
  | zero => cases h
  | succ fuel ih =>
    rw [Tokens.ofLexer_succ] at h
    split at h
    · rename_i fault' hmust
      cases h
      exact s.fromText_mustAdvance _ hmust
    · rename_i s' _
      split at h
      · rename_i fault' hadvance
        cases h
        exact s'.fromText_advance _ hadvance
      · exact ih _ h
    · split at h
      · cases h
      · exact ih _ h

/-! ## Events -/

namespace Grammar

variable {α β : Type} {φ : Option Fault} {m : Machine}

/-- The reader goes to a machine with the fault `φ` behind its tokens, or it has a fault of texts. The
fault of the tokens is only raised when they are used up, so it is carried along until then. -/
def Keeps (φ : Option Fault) (x : Except Fault (α × Machine)) : Prop :=
  (∃ a m, x = .ok (a, m) ∧ m.fault = φ) ∨ ∃ fault, x = .error fault ∧ fault.OfText

/-- A result with a machine that has the fault behind its tokens. -/
theorem keeps_pure {a : α} (h : m.fault = φ) : Keeps φ (pure (a, m)) :=
  Or.inl ⟨a, m, rfl, h⟩

/-- A report is a fault of texts, whatever comes behind the tokens. -/
theorem keeps_malformed (report : Report) :
    Keeps φ (throw (.malformed report) : Except Fault (α × Machine)) :=
  Or.inr ⟨_, rfl, .malformed report⟩

/-- One step after the other: the second one starts with what the first leaves. -/
theorem Keeps.bind {x : Except Fault (α × Machine)} {f : α × Machine → Except Fault (β × Machine)}
    (hx : Keeps φ x) (hf : ∀ a m, m.fault = φ → Keeps φ (f (a, m))) : Keeps φ (x >>= f) := by
  rcases hx with ⟨a, m, rfl, hm⟩ | ⟨fault, rfl, hfault⟩
  · exact hf a m hm
  · exact Or.inr ⟨fault, rfl, hfault⟩

/-- A step whose result is no machine. -/
theorem Keeps.bind_left {x : Except Fault α} {f : α → Except Fault (β × Machine)} (hx : FromText x)
    (hf : ∀ a, Keeps φ (f a)) : Keeps φ (x >>= f) := by
  cases x with
  | ok a => exact hf a
  | error fault => exact Or.inr ⟨fault, rfl, hx fault rfl⟩

namespace Machine

variable (hφ : ∀ fault, φ = some fault → fault.OfText)

include hφ

/-- Looking at the next token ends with the fault behind the tokens if there is no token left, and this is
where the condition on that fault is used. -/
theorem fromText_peek (h : m.fault = φ) : FromText m.peek := by
  unfold peek
  split
  · exact fromText_pure _
  · rename_i fault _ hfault
    intro fault' h'
    cases h'
    exact hφ fault (h ▸ hfault)
  · exact fromText_malformed _

/-- Taking a token drops it from the front, and leaves the fault at the end alone. -/
theorem keeps_take (h : m.fault = φ) : Keeps φ m.take :=
  .bind_left (fromText_peek hφ h) fun _ => keeps_pure h

/-- An anchor may be there or not. -/
theorem keeps_takeAnchor? (h : m.fault = φ) : Keeps φ m.takeAnchor? := by
  refine .bind_left (fromText_peek hφ h) fun token => ?_
  split
  · exact (keeps_take hφ h).bind fun _ _ hm => keeps_pure hm
  · exact keeps_pure h

/-- A tag may be there or not. -/
theorem keeps_takeTag? (h : m.fault = φ) : Keeps φ m.takeTag? := by
  refine .bind_left (fromText_peek hφ h) fun token => ?_
  split
  · exact (keeps_take hφ h).bind fun _ _ hm => keeps_pure hm
  · exact keeps_pure h

omit hφ in
/-- A handle that no directive has declared is reported. -/
theorem fromText_resolveTag (start position : Position) (tag : WrittenTag) :
    FromText (m.resolveTag start position tag) := by
  unfold resolveTag
  split
  · exact fromText_pure _
  · split
    · exact fromText_pure _
    · exact fromText_malformed _

/-- Anchor and tag come in either order, and the tag is resolved afterward. -/
theorem keeps_takeProperties (h : m.fault = φ) : Keeps φ m.takeProperties := by
  refine .bind_left (fromText_peek hφ h) fun token => ?_
  refine (keeps_takeAnchor? hφ h).bind fun anchor m h => ?_
  refine (keeps_takeTag? hφ h).bind fun written m h => ?_
  dsimp only
  split
  · refine (keeps_takeAnchor? hφ h).bind fun anchor m h => ?_
    exact .bind_left (fromText_resolveTag _ _ _) fun _ => keeps_pure h
  · refine Keeps.bind (keeps_pure h) fun anchor m h => ?_
    dsimp only
    split
    · exact keeps_pure h
    · exact .bind_left (fromText_resolveTag _ _ _) fun _ => keeps_pure h

omit hφ in
/-- To go back to the state that was left behind does nothing to the tokens. -/
theorem fault_goBack : m.goBack.fault = m.fault := by
  unfold goBack
  split
  · rfl
  · rfl

/-- A collection begins with a token, and with a state to come back to. -/
theorem keeps_enter (state : State) (h : m.fault = φ) {e : Event} :
    Keeps φ (do return (e, ← m.enter state)) := by
  unfold enter
  rw [bind_assoc]
  exact (keeps_take hφ h).bind fun _ _ hm => keeps_pure hm

/-- A node is an alias, a scalar, a collection or nothing, with properties in front. Where none of these can
stand, a report says which token was there. -/
theorem keeps_node (inBlock indentless : Bool) (h : m.fault = φ) :
    Keeps φ (m.node inBlock indentless) := by
  refine .bind_left (fromText_peek hφ h) fun first => ?_
  split
  · exact (keeps_take hφ h).bind fun _ m hm => keeps_pure (m.fault_goBack.trans hm)
  · refine (keeps_takeProperties hφ h).bind fun p m h => ?_
    refine .bind_left (fromText_peek hφ h) fun token => ?_
    dsimp only
    split
    · exact keeps_pure h
    · exact (keeps_take hφ h).bind fun _ m hm => keeps_pure (m.fault_goBack.trans hm)
    · exact keeps_enter hφ _ h
    · exact keeps_enter hφ _ h
    · exact keeps_enter hφ _ h
    · exact keeps_enter hφ _ h
    · split
      · exact keeps_pure (m.fault_goBack.trans h)
      · exact keeps_malformed _

/-- A part of a collection stands behind an indicator, and is empty if another one follows. -/
theorem keeps_partBehind (stops : List Lexeme) (next : State) (inBlock indentless : Bool)
    (h : m.fault = φ) : Keeps φ (m.partBehind stops next inBlock indentless) := by
  refine (keeps_take hφ h).bind fun indicator m h => ?_
  refine .bind_left (fromText_peek hφ h) fun token => ?_
  split
  · exact keeps_pure h
  · exact keeps_node hφ _ _ h

/-- The end of a collection takes its token and goes back. -/
theorem keeps_close (happening : Happening) (h : m.fault = φ) : Keeps φ (m.close happening) :=
  (keeps_take hφ h).bind fun _ _ hm => keeps_pure (fault_goBack.trans hm)

/-- An entry in brackets is a node, or a pair with a key. -/
theorem keeps_flowSequenceEntry (h : m.fault = φ) : Keeps φ m.flowSequenceEntry := by
  refine .bind_left (fromText_peek hφ h) fun token => ?_
  split
  · exact keeps_close hφ _ h
  · exact keeps_pure h
  · exact keeps_node hφ _ _ h

/-- A key in braces has a question mark or not. -/
theorem keeps_flowMappingKey (h : m.fault = φ) : Keeps φ m.flowMappingKey := by
  refine .bind_left (fromText_peek hφ h) fun token => ?_
  split
  · exact keeps_close hφ _ h
  · exact keeps_partBehind hφ _ _ _ _ h
  · exact keeps_node hφ _ _ h

/-- A comma in front of what a reader reads. -/
theorem keeps_takeComma {f : Machine → Except Fault (Event × Machine)} (activity : Activity)
    (stop : Lexeme) (close : Char) (h : m.fault = φ)
    (hf : ∀ m : Machine, m.fault = φ → Keeps φ (f m)) :
    Keeps φ (m.takeComma activity stop close >>= f) := by
  unfold takeComma
  rw [bind_assoc]
  refine .bind_left (fromText_peek hφ h) fun token => ?_
  split
  · exact hf m h
  · split
    · rw [bind_assoc]
      exact (keeps_take hφ h).bind fun _ m hm => hf m hm
    · exact keeps_malformed _

/-- A value stands behind its colon, and is empty without one. -/
theorem keeps_value (stops : List Lexeme) (next : State) (inBlock : Bool) (h : m.fault = φ) :
    Keeps φ (m.value stops next inBlock) := by
  refine .bind_left (fromText_peek hφ h) fun token => ?_
  split
  · exact keeps_partBehind hφ _ _ _ _ h
  · exact keeps_pure h

omit hφ in
/-- All directives in front of a document. They can be refused for a second version or a second meaning of a
handle, and both are reported. Induction on the tokens that are left. -/
theorem takeDirectives_cases (tokens : List Token) (versioned : Bool) (handles : List (Text × Text))
    (h : m.fault = φ) :
    (∃ m' handles', takeDirectives tokens versioned handles m = .ok (m', handles') ∧ m'.fault = φ) ∨
      ∃ report, takeDirectives tokens versioned handles m = .error (.malformed report) := by
  induction tokens generalizing versioned handles m with
  | nil => exact Or.inl ⟨m, handles, rfl, h⟩
  | cons token rest ih =>
    unfold takeDirectives
    split
    · rename_i heq
      cases heq
    · rename_i heq
      cases heq
      dsimp only
      split
      · split
        · exact Or.inr ⟨_, rfl⟩
        · split
          · exact Or.inr ⟨_, rfl⟩
          · exact ih _ _ h
      · split
        · exact Or.inr ⟨_, rfl⟩
        · exact ih _ _ h
      · exact ih _ _ h
    · exact Or.inl ⟨_, _, rfl, h⟩

/-- A document begins with directives and the mark that has to follow them, or its stream ends. -/
theorem keeps_document (h : m.fault = φ) : Keeps φ m.document := by
  unfold document
  dsimp only
  have hends : m.dropDocumentEnds.fault = φ := h
  refine .bind_left (fromText_peek hφ hends) fun first => ?_
  split
  · exact keeps_pure h
  · rcases takeDirectives_cases m.dropDocumentEnds.tokens false [] hends with
      ⟨m', handles, hread, hm'⟩ | ⟨report, hread⟩
    · rw [hread]
      refine (keeps_take hφ hm').bind fun token m h => ?_
      dsimp only
      split
      · exact keeps_malformed _
      · exact keeps_pure h
    · rw [hread]
      exact keeps_malformed report

/-- The first document of a stream may begin without a mark. -/
theorem keeps_firstDocument (h : m.fault = φ) : Keeps φ m.firstDocument := by
  refine .bind_left (fromText_peek hφ h) fun token => ?_
  split
  · exact keeps_document hφ h
  · exact keeps_document hφ h
  · exact keeps_document hφ h
  · exact keeps_pure h

end Machine

/-- Every state of the automaton keeps the fault behind the tokens. -/
theorem keeps_next (hφ : ∀ fault, φ = some fault → fault.OfText) (h : m.fault = φ) :
    Keeps φ (next m) := by
  -- Each state looks at the next token, which comes from the text, or goes on as one of the steps above.
  unfold next
  split
  · exact Machine.keeps_firstDocument hφ h
  · exact Machine.keeps_document hφ h
  · refine .bind_left (Machine.fromText_peek hφ h) fun token => ?_
    split
    all_goals first
      | exact Machine.keeps_node hφ _ _ h
      | exact keeps_pure (m.fault_goBack.trans h)
  · refine .bind_left (Machine.fromText_peek hφ h) fun token => ?_
    dsimp only
    split
    · exact keeps_pure h
    · exact keeps_pure h
  · exact Machine.keeps_node hφ _ _ h
  · refine .bind_left (Machine.fromText_peek hφ h) fun token => ?_
    split
    · exact Machine.keeps_partBehind hφ _ _ _ _ h
    · exact Machine.keeps_close hφ _ h
    · exact keeps_malformed _
  · refine .bind_left (Machine.fromText_peek hφ h) fun token => ?_
    split
    · exact Machine.keeps_partBehind hφ _ _ _ _ h
    · exact keeps_pure (m.fault_goBack.trans h)
  · refine .bind_left (Machine.fromText_peek hφ h) fun token => ?_
    split
    · exact Machine.keeps_partBehind hφ _ _ _ _ h
    · exact Machine.keeps_close hφ _ h
    · exact keeps_malformed _
  · exact Machine.keeps_value hφ _ _ _ h
  · split
    · exact Machine.keeps_flowSequenceEntry hφ h
    · exact Machine.keeps_takeComma hφ _ _ _ h fun m h => Machine.keeps_flowSequenceEntry hφ h
  · exact Machine.keeps_partBehind hφ _ _ _ _ h
  · exact Machine.keeps_value hφ _ _ _ h
  · exact .bind_left (Machine.fromText_peek hφ h) fun token => keeps_pure h
  · split
    · exact Machine.keeps_flowMappingKey hφ h
    · exact Machine.keeps_takeComma hφ _ _ _ h fun m h => Machine.keeps_flowMappingKey hφ h
  · exact Machine.keeps_value hφ _ _ _ h
  · exact .bind_left (Machine.fromText_peek hφ h) fun token => keeps_pure h
  · exact keeps_malformed _

end Grammar

/-- The fault behind the events is one of the text. -/
theorem Events.fault_ofMachine (fuel : Nat) {m : Grammar.Machine}
    (hm : ∀ fault, m.fault = some fault → fault.OfText) {fault : Fault}
    (h : (Events.ofMachine fuel m).fault = some fault) : fault.OfText := by
  induction fuel generalizing m with
  | zero => cases h
  | succ fuel ih =>
    unfold Events.ofMachine at h
    split at h
    · cases h
    · rcases Grammar.keeps_next hm rfl with ⟨event, m', hnext, hfault⟩ | ⟨fault', hnext, hfault⟩
      · rw [hnext] at h
        exact ih (hfault ▸ hm) h
      · rw [hnext] at h
        cases h
        exact hfault

/-! ## Nodes -/

namespace Builder

/-- A node is refused if the collection around has no place for it. -/
@[simp] theorem fromText_add (p : Properties) (n : Node) (b : Builder) : FromText (b.add p n) := by
  unfold add
  split
  · exact fromText_pure _
  · dsimp only
    split
    · simp
    · simp

/-- A collection is a node that is added empty. -/
@[simp] theorem fromText_openCollection (p : Properties) (n : Node) (b : Builder) :
    FromText (b.openCollection p n) := by
  simp [openCollection]

/-- Every event adds a node, or closes a collection; an alias without an anchor is reported. -/
theorem fromText_step (b : Builder) (e : Event) : FromText (b.step e) := by
  unfold step
  split
  · split <;> simp
  · simp
  · simp
  · split <;> simp
  · simp
  · simp
  · simp
  · simp
  · simp

end Builder

/-- Steps without other faults make a loop without other faults. -/
theorem fromText_foldlM {α β : Type} {f : β → α → Except Fault β}
    (hf : ∀ b a, FromText (f b a)) (l : List α) (b : β) : FromText (l.foldlM f b) := by
  induction l generalizing b with
  | nil => exact fromText_pure b
  | cons a l ih =>
    rw [List.foldlM_cons, fromText_bind_iff]
    exact ⟨hf b a, fun b' _ => ih b'⟩

/-- A character that a document must not have is reported. -/
theorem fromText_chars (t : Text) : FromText (Source.chars t) := by
  unfold Source.chars
  split
  · exact fromText_pure _
  · exact fromText_malformed _

/-- The faults of a document up to its nodes are those of its text. It is the sum of all readers before,
from the source to the graph. -/
theorem Document.fromText_ofText (t : Text) : FromText (Document.ofText t) := by
  unfold Document.ofText
  rw [fromText_bind_iff]
  refine ⟨fromText_chars t, fun chars _ => ?_⟩
  unfold Document.ofEvents
  rw [fromText_bind_iff]
  refine ⟨fromText_foldlM Builder.fromText_step _ _, fun b _ => ?_⟩
  split
  · rename_i fault hfault
    intro fault' h
    cases h
    exact Events.fault_ofMachine _ (fun _ h => Tokens.fault_ofLexer _ _ h) hfault
  · exact fromText_pure _

end TermAudit.Yaml
