import TermAudit.Proofs.OrderedMap
import TermAudit.Proofs.Result
import TermAudit.Proofs.Yaml.Cursor
import TermAudit.Yaml.Token.Stream

/-!
# `TermAudit.Proofs.Yaml.Stream`: reading a document token by token

`Tokens.ofLexer` runs on fuel, gives out tokens as soon as no key can come in front of them, and
loses those that it has not given out when it meets a fault. This file takes all three out of the
way of what is proved about single tokens:

* `Lexer.Leads s out s'` says that reading on from `s` gives the tokens `out` and goes on from `s'`,
  however much fuel there is beyond `Lexer.weight`;
* `Lexer.Reads s lexemes s'` says that on the way from `s` to `s'` the lexemes are read, and counts
  the tokens that are still to be given out;
* `Lexer.Fails s lexemes` says that reading on from `s` ends with a fault before more than the
  lexemes is given out.

The invariant is `Lexer.Sound`: outside of block collections no possible key is required, so none is
ever refused. `Sound.exists_due` gives out all tokens up to the point where the next one is read, and
`Sound.exists_atToken` takes the reader to the start of that token.
-/

set_option autoImplicit false

namespace TermAudit.Yaml

namespace Tokens

/-- The tokens with others in front of them. The reader gives tokens out from the front, so those of its
rest come behind. -/
def behind (front : List Token) (t : Tokens) : Tokens :=
  { t with items := front ++ t.items }

/-- One step of reading. -/
theorem ofLexer_succ (fuel : Nat) (s : Lexer) : ofLexer (fuel + 1) s =
    match s.mustAdvance with
    | .error fault => ⟨[], some fault⟩
    | .ok (true, s) =>
      match s.advance with
      | .error fault => ⟨[], some fault⟩
      | .ok s => ofLexer fuel s
    | .ok (false, s) =>
      match s.pending with
      | [] => ⟨[], none⟩
      | token :: pending =>
        (ofLexer fuel { s with pending := pending, taken := s.taken + 1 }).behind [token] :=
  (rfl)

end Tokens

namespace Lexer

/-! ## Runs -/

/-- What bounds the number of steps: every character can become three tokens, and every token is given
out. Each step makes it smaller. -/
def weight (s : Lexer) : Nat :=
  3 * s.cursor.rest.length + s.pending.length + if s.finished then 0 else 2

/-- Reading on from `s` gives the tokens `out` and goes on from `s'`. It holds for all fuel beyond the
weight, so the fuel never shows in what is proved. -/
def Leads (s : Lexer) (out : List Token) (s' : Lexer) : Prop :=
  ∀ fuel, s.weight < fuel → ∃ fuel', s'.weight < fuel' ∧
    Tokens.ofLexer fuel s = (Tokens.ofLexer fuel' s').behind out

/-- Reading on from `s` ends with a fault. The tokens given out before are at most those that are there
already and then the lexemes. Which fault it is does not matter, as any fault ends the document. -/
def Fails (s : Lexer) (lexemes : List Lexeme) : Prop :=
  ∀ fuel, s.weight < fuel → (Tokens.ofLexer fuel s).fault.isSome = true ∧
    (Tokens.ofLexer fuel s).items.map Token.lexeme <+: s.pending.map Token.lexeme ++ lexemes

/-- On the way from `s` to `s'` the lexemes are read. Some of their tokens may still be pending at the
end, and those pending at the start count as well. -/
def Reads (s : Lexer) (lexemes : List Lexeme) (s' : Lexer) : Prop :=
  ∃ out, s.Leads out s' ∧
    (out ++ s'.pending).map Token.lexeme = s.pending.map Token.lexeme ++ lexemes

variable {s s₁ s₂ : Lexer}

/-- Nothing has been read yet. -/
theorem Leads.refl (s : Lexer) : s.Leads [] s :=
  fun fuel h => ⟨fuel, h, rfl⟩

/-- Reading on can be cut in two. The fuel that is left after the first part is enough for the second. -/
theorem Leads.trans {out out' : List Token} (h : s.Leads out s₁) (h' : s₁.Leads out' s₂) :
    s.Leads (out ++ out') s₂ := by
  intro fuel hfuel
  obtain ⟨fuel₁, hfuel₁, heq⟩ := h fuel hfuel
  obtain ⟨fuel₂, hfuel₂, heq'⟩ := h' fuel₁ hfuel₁
  refine ⟨fuel₂, hfuel₂, ?_⟩
  rw [heq, heq']
  simp only [Tokens.behind, List.append_assoc]

/-- A token is given out. -/
theorem leads_give {token : Token} {rest : List Token} (h : s.mustAdvance = .ok (false, s₁))
    (hpending : s₁.pending = token :: rest) (hweight : s₁.weight ≤ s.weight) :
    s.Leads [token] { s₁ with pending := rest, taken := s₁.taken + 1 } := by
  intro fuel hfuel
  have hless : Lexer.weight { s₁ with pending := rest, taken := s₁.taken + 1 } < s₁.weight := by
    unfold weight
    rw [hpending, List.length_cons]
    dsimp only
    omega
  cases fuel with
  | zero => exact absurd hfuel (Nat.not_lt_zero _)
  | succ fuel =>
    have hle : s.weight ≤ fuel := Nat.le_of_lt_succ hfuel
    refine ⟨fuel, Nat.lt_of_lt_of_le hless (Nat.le_trans hweight hle), ?_⟩
    rw [Tokens.ofLexer_succ, h]
    dsimp only
    rw [hpending]

/-- The next token is read. -/
theorem leads_advance (h : s.mustAdvance = .ok (true, s₁)) (hadvance : s₁.advance = .ok s₂)
    (hweight : s₂.weight < s.weight) : s.Leads [] s₂ := by
  intro fuel hfuel
  cases fuel with
  | zero => exact absurd hfuel (Nat.not_lt_zero _)
  | succ fuel =>
    refine ⟨fuel, Nat.lt_of_lt_of_le hweight (Nat.le_of_lt_succ hfuel), ?_⟩
    rw [Tokens.ofLexer_succ, h]
    dsimp only
    rw [hadvance]
    rfl

/-- A fault ends the tokens. -/
theorem ofLexer_of_fault {fault : Fault} {fuel : Nat} (h : s.mustAdvance = .ok (true, s₁))
    (hadvance : s₁.advance = .error fault) (hfuel : s.weight < fuel) :
    Tokens.ofLexer fuel s = ⟨[], some fault⟩ := by
  cases fuel with
  | zero => exact absurd hfuel (Nat.not_lt_zero _)
  | succ fuel =>
    rw [Tokens.ofLexer_succ, h]
    dsimp only
    rw [hadvance]

/-- A run that ends with a fault does so from its start on. -/
theorem Leads.fails {out : List Token} {lexemes lexemes' : List Lexeme} (h : s.Leads out s₁)
    (hfails : s₁.Fails lexemes)
    (hout : out.map Token.lexeme ++ (s₁.pending.map Token.lexeme ++ lexemes)
      <+: s.pending.map Token.lexeme ++ lexemes') :
    s.Fails lexemes' := by
  intro fuel hfuel
  obtain ⟨fuel₁, hfuel₁, heq⟩ := h fuel hfuel
  obtain ⟨hfault, hitems⟩ := hfails fuel₁ hfuel₁
  rw [heq]
  refine ⟨hfault, ?_⟩
  show (out ++ _).map Token.lexeme <+: _
  rw [List.map_append]
  exact ((List.prefix_append_right_inj _).mpr hitems).trans hout

/-- A run that fails before more than some lexemes fails before more than these and others. -/
theorem Fails.append {lexemes : List Lexeme} (h : s.Fails lexemes) (more : List Lexeme) :
    s.Fails (lexemes ++ more) := by
  intro fuel hfuel
  obtain ⟨hfault, hitems⟩ := h fuel hfuel
  refine ⟨hfault, hitems.trans ?_⟩
  rw [← List.append_assoc]
  exact List.prefix_append _ _

/-- On the way from a state to itself nothing is read. -/
theorem Reads.refl (s : Lexer) : s.Reads [] s :=
  ⟨[], .refl s, by simp⟩

/-- Lexemes that are read one after the other are read together. -/
theorem Reads.trans {lexemes lexemes' : List Lexeme} (h : s.Reads lexemes s₁)
    (h' : s₁.Reads lexemes' s₂) : s.Reads (lexemes ++ lexemes') s₂ := by
  obtain ⟨out, hleads, hout⟩ := h
  obtain ⟨out', hleads', hout'⟩ := h'
  refine ⟨out ++ out', hleads.trans hleads', ?_⟩
  rw [List.append_assoc, List.map_append, hout', ← List.append_assoc, ← List.map_append, hout,
    List.append_assoc]

/-- A fault behind lexemes that have been read is a fault of all that was to be read. -/
theorem Reads.fails {lexemes lexemes' : List Lexeme} (h : s.Reads lexemes s₁)
    (h' : s₁.Fails lexemes') : s.Fails (lexemes ++ lexemes') := by
  obtain ⟨out, hleads, hout⟩ := h
  have heq : out.map Token.lexeme ++ (s₁.pending.map Token.lexeme ++ lexemes') =
      s.pending.map Token.lexeme ++ (lexemes ++ lexemes') := by
    rw [← List.append_assoc, ← List.append_assoc, ← List.map_append, hout]
  exact hleads.fails h' (heq ▸ List.prefix_rfl)

/-! ## Between tokens -/

/-- Whether a token may begin with the character: not a character that is skipped. A tab may, and then it
is a fault. -/
def startsToken (c : Char) : Bool :=
  c != ' ' && c != '#' && !Source.isBreak c && c != '\uFEFF'

/-- The spaces in front of a token or of a line break are skipped, and there is no comment behind them. -/
theorem exists_skipSpaces {w rest : List Char} (hrest : startsToken (rest.headD '\x00') = true)
    (hw : Cursor.AreBlank w) {k : Cursor} (hk : k.rest = w ++ rest) :
    ∃ spaces w', w = spaces ++ w' ∧ k.Passes spaces k.skipSpaces ∧ k.skipSpaces.rest = w' ++ rest ∧
      k.skipSpaces.skipComment = k.skipSpaces ∧ ∀ c u, w' = c :: u → c = '\n' ∨ c = '\r' := by
  simp only [startsToken, Bool.and_eq_true, bne_iff_ne, ne_eq] at hrest
  obtain ⟨⟨⟨hspace, hcomment⟩, -⟩, -⟩ := hrest
  obtain ⟨spaces, w', k', rfl, hw', hnext, hspan, hpasses, hk'⟩ :=
    Cursor.exists_passes_spaces hk hw (by simpa using hspace)
  have hskip : k.skipSpaces = k' := by
    unfold Cursor.skipSpaces Cursor.skip
    rw [hspan]
  refine ⟨spaces, w', rfl, hskip ▸ hpasses, hskip ▸ hk', Cursor.skipComment_eq ?_, hnext⟩
  -- No comment begins where the spaces end: a line break follows, or what the blanks stand in front of.
  show k.skipSpaces.rest.headD '\x00' ≠ '#'
  rw [hskip, hk']
  cases w' with
  | nil => exact hcomment
  | cons c w' =>
    rcases hw' c List.mem_cons_self with rfl | rfl | rfl <;> simp

/-- Skipping stops at the start of the next token. Inside of flow collections it does not change
whether a key is allowed. -/
theorem skipToToken_go {rest : List Char} (hrest : startsToken (rest.headD '\x00') = true) :
    ∀ (fuel : Nat) (w : List Char) (s : Lexer), Cursor.AreBlank w → w.length < fuel →
      s.cursor.rest = w ++ rest →
      ∃ b k, skipToToken.go fuel s = { s with cursor := k, keyAllowed := b } ∧
        Cursor.Passes s.cursor w k ∧ k.rest = rest ∧ (s.keyAllowed = true → b = true) ∧
        (s.inFlow = true → b = s.keyAllowed) := by
  have hbreak : Source.isBreak (rest.headD '\x00') = false := by
    simp only [startsToken, Bool.and_eq_true, Bool.not_eq_true'] at hrest
    exact hrest.1.2
  intro fuel
  induction fuel with
  | zero => exact fun w _ _ h => absurd h (Nat.not_lt_zero _)
  | succ fuel ih =>
    intro w s hw hfuel hs
    obtain ⟨spaces, w, rfl, hpasses, hk, hskip, hnext⟩ := exists_skipSpaces hrest hw hs
    have hw := hw.of_append
    rw [skipToToken.go, hskip]
    -- What follows the spaces is the token, or a line break of one or of two characters.
    cases w with
    | nil =>
      rw [List.nil_append] at hk
      have hnone : s.cursor.skipSpaces.takeBreak? = none := by
        refine Cursor.takeBreak?_eq_none ?_
        show Source.isBreak (s.cursor.skipSpaces.rest.headD '\x00') = false
        rw [hk]
        exact hbreak
      rw [hnone, List.append_nil]
      exact ⟨s.keyAllowed, _, rfl, hpasses, hk, id, fun _ => rfl⟩
    | cons c w =>
      have hfeed : rest.headD '\x00' ≠ '\n' := by
        intro h
        rw [h] at hbreak
        cases hbreak
      obtain ⟨u, v, k, heq, hle, htake, hpasses', hrest'⟩ :=
        Cursor.exists_takeBreak?_of_blank hk (hnext c w rfl) hfeed
      have hv : Cursor.AreBlank v := by
        rw [heq] at hw
        exact hw.of_append
      have hlength : v.length < fuel := by
        rw [List.length_append, List.length_cons] at hfuel
        omega
      -- A line break allows a key outside of flow collections.
      obtain ⟨b, k', hgo, hpasses'', hk', hallowed, hflow⟩ :=
        ih v { s with cursor := k, keyAllowed := s.keyAllowed || !s.inFlow } hv hlength hrest'
      rw [htake]
      refine ⟨b, k', hgo, ?_, hk', ?_, ?_⟩
      · rw [heq]
        exact hpasses.trans (hpasses'.trans hpasses'')
      · intro h
        exact hallowed (by simp [h])
      · intro h
        have hinside : s.inFlow = true := h
        rw [hflow hinside]
        simp [hinside]

/-- Skipping goes over blanks to the start of the next token. Inside of flow collections it does not change
whether a key is allowed. -/
theorem skipToToken_eq {w rest : List Char} (hs : s.cursor.rest = w ++ rest)
    (hw : Cursor.AreBlank w) (hrest : startsToken (rest.headD '\x00') = true) :
    ∃ b k, s.skipToToken = { s with cursor := k, keyAllowed := b } ∧
      Cursor.Passes s.cursor w k ∧ k.rest = rest ∧ (s.keyAllowed = true → b = true) ∧
      (s.inFlow = true → b = s.keyAllowed) := by
  -- A byte order mark would be skipped as well, but neither a blank nor a token begins with one.
  have hmark : s.cursor.peek ≠ '\uFEFF' := by
    show s.cursor.rest.headD '\x00' ≠ '\uFEFF'
    rw [hs]
    cases w with
    | nil =>
      intro h
      rw [show rest.headD '\x00' = '\uFEFF' from h] at hrest
      exact absurd hrest (by decide)
    | cons c w =>
      show c ≠ '\uFEFF'
      rcases hw c (List.mem_cons_self ..) with rfl | rfl | rfl <;> decide
  unfold skipToToken
  dsimp only
  have hstart : (s.cursor.position.index == 0 && s.cursor.peek == '\uFEFF') = false := by
    rw [Bool.and_eq_false_iff]
    exact Or.inr (by simpa using hmark)
  rw [hstart, if_neg Bool.false_ne_true]
  have hlength : w.length < s.cursor.rest.length + 1 := by
    rw [hs, List.length_append]
    omega
  exact skipToToken_go hrest _ w s hw hlength hs

/-! ## Possible keys -/

/-- Whether a key can still have begun at a place when the reader is at another. It must be on the same
line, and at most 1024 characters away. -/
def isFresh (start here : Position) : Bool :=
  start.line == here.line && here.index ≤ start.index + 1024

/-- A possible key is stale if it is not fresh: on another line, or too far back on this one. -/
theorem isStale_eq (s : Lexer) (key : PossibleKey) :
    s.isStale key = !isFresh key.position s.cursor.position := by
  unfold isStale isFresh
  rw [Bool.eq_iff_iff]
  simp only [Bool.or_eq_true, bne_iff_ne, decide_eq_true_eq, Bool.not_eq_true', Bool.and_eq_false_iff,
    beq_eq_false_iff_ne, decide_eq_false_iff_not, gt_iff_lt, Nat.not_le]

/-- What is fresh has always been. -/
theorem isFresh_of_passes {w : List Char} {k k' : Cursor} {start : Position} (h : k.Passes w k')
    (hindex : start.line ≤ k.position.line) (hfresh : isFresh start k'.position = true) :
    isFresh start k.position = true := by
  simp only [isFresh, Bool.and_eq_true, beq_iff_eq, decide_eq_true_eq] at hfresh ⊢
  have hline := h.line_le
  have hle := h.index_le
  omega

/-- The state when some of the pending tokens have been given out. Possible keys are numbered by tokens,
so how many have been given out is kept. -/
def afterGiving (n : Nat) (keys : List (Int × PossibleKey)) (s : Lexer) : Lexer :=
  { s with pending := s.pending.drop n, taken := s.taken + n, possibleKeys := keys }

/-- The possible keys that are fresh. The others are forgotten before the next token, and one of them that
was required would be a fault. -/
def freshKeys (s : Lexer) : List (Int × PossibleKey) :=
  s.possibleKeys.filter fun e => isFresh e.2.position s.cursor.position

/-- The invariant of reading outside of block collections: no possible key is required, and every one
begins with a token that is still to be given out. There is no indentation then, so nothing is closed by a
line that begins further left. -/
structure Sound (s : Lexer) : Prop where
  finished : s.finished = false
  indent : s.indent = -1
  outerIndents : s.outerIndents = []
  notRequired : ∀ e ∈ s.possibleKeys, e.2.required = false
  taken_le : ∀ e ∈ s.possibleKeys, s.taken ≤ e.2.number

/-- The reader has gone over the blanks `w` to the start of the next token, where the keys that are not
fresh any more are forgotten. It is where every token begins, and so the common start of all lemmas about
tokens. -/
structure AtToken (s : Lexer) (w : List Char) (s₁ : Lexer) : Prop where
  sound : s₁.Sound
  passes : s.cursor.Passes w s₁.cursor
  flowLevel : s₁.flowLevel = s.flowLevel
  pending : s₁.pending = s.pending
  taken : s₁.taken = s.taken
  keyAllowed_of : s.keyAllowed = true → s₁.keyAllowed = true
  keyAllowed : s.inFlow = true → s₁.keyAllowed = s.keyAllowed
  possibleKeys : s₁.possibleKeys =
    s.possibleKeys.filter fun e => isFresh e.2.position s₁.cursor.position

namespace Sound

/-- Fewer possible keys keep the invariant, as it is about each of them. -/
theorem of_subset (h : s.Sound) {keys : List (Int × PossibleKey)} (hkeys : keys ⊆ s.possibleKeys) :
    Sound { s with possibleKeys := keys } where
  finished := h.finished
  indent := h.indent
  outerIndents := h.outerIndents
  notRequired e he := h.notRequired e (hkeys he)
  taken_le e he := h.taken_le e (hkeys he)

/-- Stale keys are forgotten without a fault, since none of them is required. -/
theorem forgetStale_eq (h : s.Sound) :
    s.forgetStale = .ok { s with possibleKeys := s.freshKeys } := by
  unfold forgetStale
  split
  · rename_i level key hfind
    have hstale := List.find?_some hfind
    have hrequired : key.required = false := h.notRequired _ (List.mem_of_find?_eq_some hfind)
    simp [hrequired] at hstale
  · refine congrArg (fun keys => Except.ok { s with possibleKeys := keys }) ?_
    refine List.filter_congr ?_
    rintro ⟨level, key⟩ _
    show (!s.isStale key) = _
    rw [isStale_eq, Bool.not_not]

/-- The possible key of the innermost collection is forgotten, if there is one. -/
theorem exists_forgetKey (h : s.Sound) : ∃ keys, s.forgetKey = .ok { s with possibleKeys := keys } ∧
    keys ⊆ s.possibleKeys ∧ ∀ e ∈ keys, e.1 ≠ s.flowLevel := by
  unfold forgetKey
  split
  · rename_i hlookup
    refine ⟨s.possibleKeys, rfl, List.Subset.refl _, ?_⟩
    rintro ⟨level, key⟩ he rfl
    exact absurd hlookup (by simpa using ⟨key, he⟩)
  · rename_i key hlookup
    have hrequired : key.required = false := h.notRequired _ (mem_of_lookup hlookup)
    rw [hrequired, if_neg (by simp)]
    refine ⟨_, rfl, List.filter_sublist.subset, ?_⟩
    intro e he
    simpa using (List.mem_filter.mp he).2

/-- Where a key is allowed it is remembered: no other one of the same collection is left. -/
theorem exists_rememberKey (h : s.Sound) :
    ∃ keys, s.rememberKey = .ok { s with possibleKeys := keys } ∧
      Sound { s with possibleKeys := keys } ∧
      (s.keyAllowed = true → ∃ others,
        keys = (s.flowLevel, ⟨s.taken + s.pending.length, false, s.cursor.position⟩) :: others ∧
        ∀ e ∈ others, e.1 ≠ s.flowLevel) := by
  unfold rememberKey
  by_cases hallowed : s.keyAllowed = true
  · rw [if_pos hallowed]
    obtain ⟨keys, hforget, hsubset, hne⟩ := h.exists_forgetKey
    -- A key is required at the indentation of a block collection, and there is none.
    have hrequired : (!s.inFlow && s.indent == (s.cursor.column : Int)) = false := by
      rw [h.indent]
      have hcolumn : ((-1 : Int) == (s.cursor.column : Int)) = false := by
        rw [beq_eq_false_iff_ne]
        omega
      rw [hcolumn, Bool.and_false]
    rw [hforget]
    refine ⟨(s.flowLevel, ⟨s.taken + s.pending.length, false, s.cursor.position⟩) :: keys, ?_, ?_,
      fun _ => ⟨keys, rfl, hne⟩⟩
    · show Except.ok
        { s with
          possibleKeys := (s.flowLevel, ⟨s.taken + s.pending.length,
            !s.inFlow && s.indent == (s.cursor.column : Int), s.cursor.position⟩) :: keys } = _
      rw [hrequired]
    · -- The new possible key is not required, and its token is the next one to be read.
      have hsound := h.of_subset hsubset
      constructor
      · exact hsound.finished
      · exact hsound.indent
      · exact hsound.outerIndents
      · intro e he
        rcases List.mem_cons.mp he with rfl | he
        · rfl
        · exact hsound.notRequired e he
      · intro e he
        rcases List.mem_cons.mp he with rfl | he
        · exact Nat.le_add_right _ _
        · exact hsound.taken_le e he
  · rw [if_neg hallowed]
    exact ⟨s.possibleKeys, rfl, h, fun h => absurd h hallowed⟩

/-! ## Steps -/

/-- Outside of block collections there are no indents to go back over. -/
theorem unwind_eq (h : s.Sound) (column : Int) : s.unwind column = s := by
  unfold unwind
  rw [h.outerIndents]
  split <;> rfl

/-- The invariant holds with the fresh keys alone. -/
theorem fresh (h : s.Sound) : Sound { s with possibleKeys := s.freshKeys } :=
  h.of_subset List.filter_sublist.subset

/-- To read on is to skip to the next token, forget the stale keys, and read the token. -/
theorem advance_of_skip (h : s₁.Sound) (hskip : s.skipToToken = s₁) :
    s.advance = readToken { s₁ with possibleKeys := s₁.freshKeys } := by
  unfold advance
  rw [hskip, h.forgetStale_eq]
  exact congrArg readToken (h.fresh.unwind_eq _)

/-- Reading on goes to the start of the next token. Blanks are skipped, stale keys are forgotten, and
outside of block collections nothing else happens there. -/
theorem exists_atToken {w rest : List Char} (h : s.Sound) (hs : s.cursor.rest = w ++ rest)
    (hw : Cursor.AreBlank w) (hrest : startsToken (rest.headD '\x00') = true) :
    ∃ s₁ : Lexer, s.advance = s₁.readToken ∧ s.AtToken w s₁ ∧ s₁.cursor.rest = rest := by
  obtain ⟨b, k, hskip, hpasses, hk, hallowed, hflow⟩ := skipToToken_eq hs hw hrest
  have hmoved : Sound { s with cursor := k, keyAllowed := b } :=
    ⟨h.finished, h.indent, h.outerIndents, h.notRequired, h.taken_le⟩
  exact ⟨_, hmoved.advance_of_skip hskip,
    ⟨hmoved.fresh, hpasses, rfl, rfl, rfl, hallowed, hflow, rfl⟩, hk⟩

/-- A first pending token that no key can come in front of is given out. -/
theorem mustAdvance_eq (h : s.Sound) (hpending : s.pending ≠ []) :
    s.mustAdvance = .ok (s.freshKeys.any fun e => e.2.number == s.taken,
      { s with possibleKeys := s.freshKeys }) := by
  have hempty : s.pending.isEmpty = false := by
    rw [List.isEmpty_eq_false_iff]
    exact hpending
  unfold mustAdvance
  rw [if_neg (by simp [h.finished]), if_neg (by simp [hempty]), h.forgetStale_eq]
  rfl

/-- With no token pending one has to be read. -/
theorem mustAdvance_nil (h : s.Sound) (hpending : s.pending = []) :
    s.mustAdvance = .ok (true, s) := by
  unfold mustAdvance
  rw [if_neg (by simp [h.finished]), if_pos (by simp [hpending])]
  rfl

/-- Giving out a token keeps the invariant if no key is possible in front of it. -/
theorem give (h : s.Sound) (rest : List Token)
    (hkeys : (s.possibleKeys.any fun e => e.2.number == s.taken) = false) :
    Sound { s with pending := rest, taken := s.taken + 1 } where
  finished := h.finished
  indent := h.indent
  outerIndents := h.outerIndents
  notRequired := h.notRequired
  taken_le e he := by
    have hle : s.taken ≤ e.2.number := h.taken_le e he
    have hne : e.2.number ≠ s.taken := by
      intro heq
      rw [List.any_eq_false] at hkeys
      exact hkeys e he (by simpa using heq)
    exact Nat.lt_of_le_of_ne hle hne.symm

/-- All tokens that are due are given out before the next one is read. Those that stay are held back by a
key that is still possible. -/
theorem exists_due (h : s.Sound) : ∃ n keys, n ≤ s.pending.length ∧
    (keys = s.possibleKeys ∨ keys = s.freshKeys) ∧ (s.afterGiving n keys).Sound ∧
    ∃ s₁, s.Leads (s.pending.take n) s₁ ∧ s₁.mustAdvance = .ok (true, s.afterGiving n keys) ∧
      s₁.weight = (s.afterGiving n keys).weight := by
  generalize hpending : s.pending = tokens
  induction tokens generalizing s with
  | nil =>
    have hsame : s.afterGiving 0 s.possibleKeys = s := rfl
    refine ⟨0, s.possibleKeys, Nat.le_refl _, Or.inl rfl, ?_, s, .refl s, ?_, ?_⟩
    · rw [hsame]
      exact h
    · rw [hsame]
      exact h.mustAdvance_nil hpending
    · rw [hsame]
  | cons token tokens ih =>
    have hmust := h.mustAdvance_eq (by rw [hpending]; exact List.cons_ne_nil _ _)
    -- A possible key in front of the first token keeps it from being given out.
    cases hkeys : s.freshKeys.any fun e => e.2.number == s.taken with
    | true =>
      rw [hkeys] at hmust
      exact ⟨0, s.freshKeys, Nat.zero_le _, Or.inr rfl, h.fresh, s, .refl s, hmust, rfl⟩
    | false =>
      rw [hkeys] at hmust
      have hgive := leads_give hmust hpending (Nat.le_refl _)
      have hsound := h.fresh.give tokens hkeys
      obtain ⟨n, keys, hn, hkeys', hsound', s₁, hleads, hmust', hweight⟩ := ih hsound rfl
      have hsame : afterGiving n keys
          { s with pending := tokens, taken := s.taken + 1, possibleKeys := s.freshKeys }
            = s.afterGiving (n + 1) keys := by
        unfold afterGiving
        rw [hpending, List.drop_succ_cons]
        dsimp only
        rw [Nat.add_right_comm, Nat.add_assoc]
      rw [hsame] at hsound' hmust' hweight
      refine ⟨n + 1, keys, ?_, Or.inr ?_, hsound', s₁, hgive.trans hleads, hmust', hweight⟩
      · rw [List.length_cons]
        exact Nat.succ_le_succ hn
      · rcases hkeys' with rfl | rfl
        · rfl
        · -- Fresh keys among the fresh ones are all of them.
          exact List.filter_eq_self.mpr fun e he => (List.mem_filter.mp he).2

/-- What is read whichever of the pending tokens have been given out is read. -/
theorem exists_reads {P : Lexer → Prop} {lexemes : List Lexeme} (h : s.Sound)
    (hread : ∀ s₁ : Lexer, s₁.Sound → s₁.cursor = s.cursor → s₁.flowLevel = s.flowLevel →
      s₁.keyAllowed = s.keyAllowed → ∃ s₂, s₁.advance = .ok s₂ ∧ s₂.weight < s₁.weight ∧
        s₂.pending.map Token.lexeme = s₁.pending.map Token.lexeme ++ lexemes ∧ P s₂) :
    ∃ s₂, s.Reads lexemes s₂ ∧ P s₂ := by
  obtain ⟨n, keys, -, -, hsound, s₁, hleads, hmust, hweight⟩ := h.exists_due
  obtain ⟨s₂, hadvance, hless, hpending, hP⟩ := hread _ hsound rfl rfl rfl
  have hstep := leads_advance hmust hadvance (by rw [hweight]; exact hless)
  refine ⟨s₂, ⟨s.pending.take n, ?_, ?_⟩, hP⟩
  · have htrans := hleads.trans hstep
    rw [List.append_nil] at htrans
    exact htrans
  · rw [List.map_append, hpending, ← List.append_assoc, ← List.map_append]
    show (s.pending.take n ++ s.pending.drop n).map Token.lexeme ++ lexemes = _
    rw [List.take_append_drop]

/-- What is a fault whichever of the pending tokens have been given out is one. -/
theorem fails (h : s.Sound) (lexemes : List Lexeme)
    (hread : ∀ s₁ : Lexer, s₁.Sound → s₁.cursor = s.cursor → s₁.flowLevel = s.flowLevel →
      ∃ fault, s₁.advance = .error fault) : s.Fails lexemes := by
  obtain ⟨n, keys, -, -, hsound, s₁, hleads, hmust, -⟩ := h.exists_due
  obtain ⟨fault, hadvance⟩ := hread _ hsound rfl rfl
  intro fuel hfuel
  obtain ⟨fuel₁, hfuel₁, heq⟩ := hleads fuel hfuel
  rw [heq, ofLexer_of_fault hmust hadvance hfuel₁]
  refine ⟨rfl, ?_⟩
  show (s.pending.take n ++ []).map Token.lexeme <+: _
  rw [List.append_nil]
  exact ((List.take_prefix n s.pending).map Token.lexeme).trans (List.prefix_append _ _)

end Sound

end Lexer

end TermAudit.Yaml
