import TermAudit.Proofs.Yaml.Stream

/-!
# `TermAudit.Proofs.Yaml.Flow`: the marks of flow collections

A mark is read behind blanks, whichever tokens are pending: `Sound.exists_flowStart`,
`Sound.exists_flowEnd` and `Sound.exists_flowEntry`. A tab among the blanks begins no token
(`Sound.fails_tab`).

`Tokens.spells_of_reads` and `Tokens.breaks_of_fails` lead back to the tokens of a whole document.
-/

set_option autoImplicit false

namespace TermAudit.Yaml

namespace Lexer

variable {s : Lexer} {w rest : List Char}

/-! ## The first character -/

/-- A character that is no start of a marker or a directive is read by its sign. -/
theorem readToken_of_sign {c : Char} {result : Except Fault Lexer} (hpeek : s.cursor.peek = c)
    (hc : c ∉ ['\x00', '%', '-', '.']) (hsign : s.readBySign? = some result) :
    s.readToken = result := by
  simp only [List.mem_cons, List.not_mem_nil, or_false, not_or] at hc
  obtain ⟨hend, hdirective, hhyphen, hpoint⟩ := hc
  have hmarker (d : Char) (hd : c ≠ d) : s.cursor.hasMarker d = false := by
    unfold Cursor.hasMarker
    rw [hpeek, beq_false_of_ne hd]
    rfl
  unfold readToken
  dsimp only
  rw [hpeek, if_neg (by simpa using hend), if_neg (by simp [hdirective]),
    if_neg (by simp [hmarker '-' hhyphen]), if_neg (by simp [hmarker '.' hpoint]), hsign]

/-- The characters that decide alone what they begin. For all others the next character counts as well. -/
def signs : List Char :=
  ['[', '\x7b', ']', '\x7d', ',', '*', '&', '!', '"', '\x27']

/-- Any character that is none of these signs decides nothing alone. -/
theorem readBySign?_eq_none {c : Char} (hpeek : s.cursor.peek = c) (hc : c ∉ signs) :
    s.readBySign? = none := by
  unfold readBySign?
  rw [hpeek]
  split
  case h_11 => rfl
  all_goals exact absurd (by decide) hc

/-- A character that decides nothing alone begins a plain scalar or no token. -/
theorem readToken_of_noSign {c : Char} (hpeek : s.cursor.peek = c) (hsigns : c ∉ signs)
    (hc : c ∉ ['\x00', '%', '.', '?', ':', '|', '>'])
    (hhyphen : c = '-' → s.cursor.peekAt 1 ≠ '-' ∧ Source.isGap (s.cursor.peekAt 1) = false) :
    s.readToken = if s.startsPlain then s.readPlain else s.refuseStray := by
  simp only [List.mem_cons, List.not_mem_nil, or_false, not_or] at hc
  obtain ⟨hend, hdirective, hpoint, hquestion, hcolon, hbar, hangle⟩ := hc
  -- A hyphen opens a document or an entry only with a hyphen or a gap behind it, and this one has neither.
  have hstart : s.cursor.hasMarker '-' = false := by
    unfold Cursor.hasMarker
    rw [hpeek]
    by_cases heq : c = '-'
    · rw [beq_false_of_ne (hhyphen heq).1, Bool.and_false, Bool.false_and, Bool.false_and]
    · rw [beq_false_of_ne heq, Bool.false_and, Bool.false_and, Bool.false_and]
  have hstop : s.cursor.hasMarker '.' = false := by
    unfold Cursor.hasMarker
    rw [hpeek, beq_false_of_ne hpoint, Bool.false_and, Bool.false_and, Bool.false_and]
  have hentry : (c == '-' && Source.isGap (s.cursor.peekAt 1)) = false := by
    by_cases heq : c = '-'
    · rw [(hhyphen heq).2, Bool.and_false]
    · rw [beq_false_of_ne heq, Bool.false_and]
  unfold readToken
  dsimp only
  rw [hpeek, readBySign?_eq_none hpeek hsigns, hstart, hstop, hentry, beq_false_of_ne hend, beq_false_of_ne hdirective,
    beq_false_of_ne hquestion, beq_false_of_ne hcolon, beq_false_of_ne hbar,
    beq_false_of_ne hangle]
  simp only [Bool.false_and, Bool.and_false, Bool.or_false, Bool.false_eq_true, if_false]

/-! ## Colons -/

/-- A colon in a flow collection. -/
theorem readToken_colon (hpeek : s.cursor.peek = ':') (hflow : s.inFlow = true) :
    s.readToken = s.readValue := by
  have hsign : s.readBySign? = none := readBySign?_eq_none hpeek (by decide)
  have hmarker (d : Char) (hd : ':' ≠ d) : s.cursor.hasMarker d = false := by
    unfold Cursor.hasMarker
    rw [hpeek, beq_false_of_ne hd]
    rfl
  unfold readToken
  dsimp only
  rw [hsign, hmarker '-' (by decide), hmarker '.' (by decide), hpeek, hflow, Bool.and_false]
  rfl

/-- A colon behind a possible key: the token of the key is put in its place. -/
theorem exists_readValue_of_key {key : PossibleKey} (h : s.Sound) (hflow : s.inFlow = true)
    (hlookup : s.possibleKeys.lookup s.flowLevel = some key) :
    ∃ s', s.readValue = .ok s' ∧ s'.Sound ∧ s'.cursor = s.cursor.advance ∧
      s'.flowLevel = s.flowLevel ∧
      s'.pending.map Token.lexeme =
        (s.pending.take (key.number - s.taken)).map Token.lexeme ++
          .key :: (s.pending.drop (key.number - s.taken)).map Token.lexeme ++ [.value] := by
  have hsubset : s.possibleKeys.filter (·.1 != s.flowLevel) ⊆ s.possibleKeys :=
    List.filter_sublist.subset
  -- The key's token goes in front of what was read since the key was possible, the value's behind it.
  refine ⟨{ s with
      cursor := s.cursor.advance
      keyAllowed := false
      possibleKeys := s.possibleKeys.filter (·.1 != s.flowLevel)
      pending := s.pending.take (key.number - s.taken) ++
        ⟨.key, key.position, key.position⟩ :: s.pending.drop (key.number - s.taken) ++
        [⟨.value, s.cursor.position, s.cursor.advance.position⟩] }, ?_, ?_, rfl, rfl, ?_⟩
  · unfold readValue
    rw [hlookup]
    dsimp only
    have hinside : inFlow (insert .key key
        { s with possibleKeys := s.possibleKeys.filter (·.1 != s.flowLevel) }) = true := hflow
    rw [if_pos hinside]
    rfl
  · exact ⟨h.finished, h.indent, h.outerIndents, fun e he => h.notRequired e (hsubset he),
      fun e he => h.taken_le e (hsubset he)⟩
  · simp

/-- A colon without a possible key. -/
theorem exists_readValue_of_none (h : s.Sound) (hflow : s.inFlow = true)
    (hlookup : s.possibleKeys.lookup s.flowLevel = none) :
    ∃ s', s.readValue = .ok s' ∧ s'.Sound ∧ s'.cursor = s.cursor.advance ∧
      s'.flowLevel = s.flowLevel ∧
      s'.pending.map Token.lexeme = s.pending.map Token.lexeme ++ [.value] := by
  have hforget : s.forgetKey = .ok s := by
    unfold forgetKey
    rw [hlookup]
    rfl
  refine ⟨{ s.emitMark .value 1 with keyAllowed := !s.inFlow }, ?_, ?_, rfl, rfl, ?_⟩
  · unfold readValue
    rw [hlookup]
    dsimp only
    rw [hflow, if_pos rfl, hforget]
    show Except.ok { emitMark .value 1 s with keyAllowed := !s.inFlow } = _
    rw [hflow]
  · exact ⟨h.finished, h.indent, h.outerIndents, h.notRequired, h.taken_le⟩
  · show (s.pending ++ [_]).map Token.lexeme = _
    rw [List.map_append]
    rfl

/-! ## Marks -/

/-- The tokens of opening marks. Both are read in the same way, so one lemma serves both. -/
inductive OpeningMark : Char → Lexeme → Prop
  | bracket : OpeningMark '[' .flowSequenceStart
  | brace : OpeningMark '\x7b' .flowMappingStart

/-- The tokens of closing marks. -/
inductive ClosingMark : Char → Lexeme → Prop
  | bracket : ClosingMark ']' .flowSequenceEnd
  | brace : ClosingMark '\x7d' .flowMappingEnd

/-- A mark takes a character and gives one token, so the weight falls: a character weighs three times as
much. -/
theorem weight_emitMark {s : Lexer} {c : Char} (lexeme : Lexeme) (h : s.cursor.rest = c :: rest) :
    (s.emitMark lexeme 1).weight < s.weight := by
  obtain ⟨-, hrest⟩ := Cursor.passes_advance h
  have hrest : (s.cursor.advanceBy 1).rest = rest := hrest
  unfold weight emitMark emit
  dsimp only
  rw [hrest, h, List.length_append, List.length_singleton, List.length_cons]
  split <;> omega

namespace AtToken

variable {s₁ : Lexer}

/-- Going on to the next token adds no weight. -/
theorem weight_le (h : s.AtToken w s₁) (hs : s.Sound) : s₁.weight ≤ s.weight := by
  have hrest := h.passes.rest_eq
  unfold weight
  rw [h.pending, h.sound.finished, hs.finished, hrest, List.length_append]
  omega

end AtToken

namespace Sound

/-- A mark that is read whatever keys are possible. -/
theorem exists_mark {c : Char} {lexeme : Lexeme} {f : Int → Int} {allowed : Bool}
    (h : s.Sound) (hs : s.cursor.rest = w ++ c :: rest) (hw : Cursor.AreBlank w)
    (hc : startsToken c = true)
    (hread : ∀ s₁ : Lexer, s₁.Sound → s₁.cursor.peek = c → ∃ keys,
      Sound { s₁ with possibleKeys := keys } ∧
      s₁.readToken = .ok
        { emitMark lexeme 1 { s₁ with possibleKeys := keys } with
          flowLevel := f s₁.flowLevel
          keyAllowed := allowed }) :
    ∃ s', s.Reads [lexeme] s' ∧ s'.Sound ∧ s'.cursor.rest = rest ∧
      s'.flowLevel = f s.flowLevel ∧ s'.keyAllowed = allowed := by
  refine h.exists_reads fun s₁ h₁ hcursor hlevel _ => ?_
  rw [← hcursor] at hs
  -- The blanks are skipped first, so the mark is read with the cursor on it.
  obtain ⟨s₂, hadvance, hat, hrest⟩ := h₁.exists_atToken hs hw hc
  obtain ⟨keys, hsound, htoken⟩ := hread s₂ hat.sound (Cursor.peek_of_rest hrest)
  refine ⟨_, hadvance.trans htoken, ?_, ?_, ?_, (Cursor.passes_advance hrest).2, ?_, rfl⟩
  · exact Nat.lt_of_lt_of_le (weight_emitMark lexeme hrest) (hat.weight_le h₁)
  · show (s₂.pending ++ _).map Token.lexeme = _
    rw [hat.pending, List.map_append]
    rfl
  · exact ⟨hsound.finished, hsound.indent, hsound.outerIndents, hsound.notRequired,
      hsound.taken_le⟩
  · show f s₂.flowLevel = _
    rw [hat.flowLevel, hlevel]

/-- An opening mark. Its place is a possible key where one is allowed. -/
theorem exists_flowStart {c : Char} {lexeme : Lexeme} (h : s.Sound) (hc : OpeningMark c lexeme)
    (hs : s.cursor.rest = w ++ c :: rest) (hw : Cursor.AreBlank w) :
    ∃ s', s.Reads [lexeme] s' ∧ s'.Sound ∧ s'.cursor.rest = rest ∧
      s'.flowLevel = s.flowLevel + 1 ∧ s'.keyAllowed = true := by
  refine exists_mark (f := (· + 1)) h hs hw (by cases hc <;> decide) fun s₁ h₁ hpeek => ?_
  obtain ⟨keys, hremember, hsound, -⟩ := h₁.exists_rememberKey
  refine ⟨keys, hsound, ?_⟩
  have hsign : s₁.readBySign? = some (s₁.readFlowStart lexeme) := by
    unfold readBySign?
    rw [hpeek]
    cases hc <;> rfl
  rw [readToken_of_sign hpeek (by cases hc <;> decide) hsign]
  unfold readFlowStart
  rw [hremember]
  rfl

/-- A closing mark. The flow level goes down by one, also if no mark was opened, which the parser finds
out. -/
theorem exists_flowEnd {c : Char} {lexeme : Lexeme} (h : s.Sound) (hc : ClosingMark c lexeme)
    (hs : s.cursor.rest = w ++ c :: rest) (hw : Cursor.AreBlank w) :
    ∃ s', s.Reads [lexeme] s' ∧ s'.Sound ∧ s'.cursor.rest = rest ∧
      s'.flowLevel = s.flowLevel - 1 ∧ s'.keyAllowed = false := by
  refine exists_mark (f := (· - 1)) h hs hw (by cases hc <;> decide) fun s₁ h₁ hpeek => ?_
  obtain ⟨keys, hforget, hsubset, -⟩ := h₁.exists_forgetKey
  refine ⟨keys, h₁.of_subset hsubset, ?_⟩
  have hsign : s₁.readBySign? = some (s₁.readFlowEnd lexeme) := by
    unfold readBySign?
    rw [hpeek]
    cases hc <;> rfl
  rw [readToken_of_sign hpeek (by cases hc <;> decide) hsign]
  unfold readFlowEnd
  rw [hforget]
  rfl

/-- A comma. Behind it a key is allowed. -/
theorem exists_flowEntry (h : s.Sound) (hs : s.cursor.rest = w ++ ',' :: rest)
    (hw : Cursor.AreBlank w) :
    ∃ s', s.Reads [.flowEntry] s' ∧ s'.Sound ∧ s'.cursor.rest = rest ∧
      s'.flowLevel = s.flowLevel ∧ s'.keyAllowed = true := by
  refine exists_mark (f := id) h hs hw (by decide) fun s₁ h₁ hpeek => ?_
  obtain ⟨keys, hforget, hsubset, -⟩ := h₁.exists_forgetKey
  refine ⟨keys, h₁.of_subset hsubset, ?_⟩
  have hsign : s₁.readBySign? = some s₁.readFlowEntry := by
    unfold readBySign?
    rw [hpeek]
    rfl
  rw [readToken_of_sign hpeek (by decide) hsign]
  unfold readFlowEntry
  rw [hforget]
  rfl

/-- No token begins with a tab. -/
theorem exists_advance_tab (h : s.Sound) (hs : s.cursor.rest = w ++ '\t' :: rest)
    (hw : Cursor.AreBlank w) : ∃ fault, s.advance = .error fault := by
  have hstart : startsToken '\t' = true := by decide
  obtain ⟨s₁, hadvance, -, hrest⟩ := h.exists_atToken hs hw hstart
  have hpeek : s₁.cursor.peek = '\t' := Cursor.peek_of_rest hrest
  have hplain : s₁.startsPlain = false := by
    unfold startsPlain
    rw [hpeek]
    rw [Bool.or_eq_false_iff]
    refine ⟨rfl, ?_⟩
    simp
  rw [hadvance, readToken_of_noSign hpeek (by decide) (by decide) (fun h => absurd h (by decide)),
    hplain]
  exact ⟨_, rfl⟩

/-- A tab where a token could begin ends the run. It is white space in a JSON text, and none in a
document. -/
theorem fails_tab (h : s.Sound) (hs : s.cursor.rest = w ++ '\t' :: rest) (hw : Cursor.AreBlank w)
    (lexemes : List Lexeme) : s.Fails lexemes := by
  refine h.fails lexemes fun s₁ h₁ hcursor _ => ?_
  rw [← hcursor] at hs
  exact h₁.exists_advance_tab hs hw

/-- The end of the document. -/
theorem exists_end (h : s.Sound) (hs : s.cursor.rest = w) (hw : Cursor.AreBlank w) :
    ∃ s', s.Reads [.streamEnd] s' ∧ s'.finished = true := by
  refine h.exists_reads fun s₁ h₁ hcursor _ _ => ?_
  have hs : s₁.cursor.rest = w ++ [] := by rw [hcursor, hs, List.append_nil]
  obtain ⟨s₂, hadvance, hat, hrest⟩ := h₁.exists_atToken hs hw (by decide)
  -- A sound reading has no block open, so nothing is closed in front of the end.
  obtain ⟨keys, hforget, -⟩ := hat.sound.exists_forgetKey
  have hread : s₂.readToken = s₂.readEnd := by
    unfold readToken
    dsimp only
    rw [Cursor.peek_of_rest_nil hrest]
    rfl
  have hend : s₂.readEnd = .ok
      { s₂.emitHere .streamEnd with keyAllowed := false, possibleKeys := [], finished := true } := by
    unfold readEnd
    rw [hat.sound.unwind_eq, hforget]
    rfl
  refine ⟨_, (hadvance.trans hread).trans hend, ?_, ?_, rfl⟩
  · -- One token more is pending, but the two that an unfinished reading weighs more are gone.
    refine Nat.lt_of_lt_of_le ?_ (hat.weight_le h₁)
    show 3 * s₂.cursor.rest.length + (s₂.pending ++ [_]).length + 0 < s₂.weight
    unfold weight
    rw [hat.sound.finished, List.length_append, List.length_singleton, if_neg Bool.false_ne_true]
    omega
  · show (s₂.pending ++ _).map Token.lexeme = _
    rw [hat.pending, List.map_append]
    rfl

end Sound

/-- When the last token has been read none has to be read any more. -/
theorem mustAdvance_of_finished (h : s.finished = true) : s.mustAdvance = .ok (false, s) := by
  unfold mustAdvance
  rw [if_pos h]
  rfl

/-- When the last token has been read, all that are pending are given out. -/
theorem ofLexer_of_finished (fuel : Nat) (tokens : List Token) (s : Lexer)
    (hfinished : s.finished = true) (hpending : s.pending = tokens) (hfuel : tokens.length < fuel) :
    Tokens.ofLexer fuel s = ⟨tokens, none⟩ := by
  induction tokens generalizing s fuel with
  | nil =>
    cases fuel with
    | zero => exact absurd hfuel (Nat.not_lt_zero _)
    | succ fuel =>
      rw [Tokens.ofLexer_succ, mustAdvance_of_finished hfinished]
      dsimp only
      rw [hpending]
  | cons token tokens ih =>
    cases fuel with
    | zero => exact absurd hfuel (Nat.not_lt_zero _)
    | succ fuel =>
      rw [Tokens.ofLexer_succ, mustAdvance_of_finished hfinished]
      dsimp only
      rw [hpending]
      dsimp only
      -- Giving a token out leaves the reading finished, so the rest is the statement for the rest.
      rw [ih fuel { s with pending := tokens, taken := s.taken + 1 } hfinished rfl
        (Nat.lt_of_succ_lt_succ hfuel)]
      rfl

end Lexer

namespace Tokens

/-- The tokens spell the lexemes. Only the kinds and contents of tokens are said, and not where they
stand. -/
structure Spells (t : Tokens) (lexemes : List Lexeme) : Prop where
  fault : t.fault = none
  items : t.items.map Token.lexeme = lexemes

/-- A fault ends the tokens before they spell more than the lexemes. Tokens that were read but not given
out are lost with it, so there can be fewer. -/
structure Breaks (t : Tokens) (lexemes : List Lexeme) : Prop where
  fault : t.fault.isSome = true
  items : t.items.map Token.lexeme <+: lexemes

/-- At the start of a document the invariant holds. -/
theorem sound_start (chars : List Char) : (Lexer.start chars).Sound where
  finished := rfl
  indent := rfl
  outerIndents := rfl
  notRequired _ he := absurd he List.not_mem_nil
  taken_le _ he := absurd he List.not_mem_nil

/-- The fuel for a document is more than the weight at its start. -/
theorem weight_start (chars : List Char) : (Lexer.start chars).weight < 8 * (chars.length + 2) := by
  show 3 * chars.length + 0 + 2 < _
  omega

/-- What is read from the start of a document up to its end are its tokens. The reader is finished there,
so no fault can come behind them. -/
theorem spells_of_reads {chars : List Char} {lexemes : List Lexeme} {s : Lexer}
    (h : (Lexer.start chars).Reads lexemes s) (hs : s.finished = true) :
    (ofChars chars).Spells lexemes := by
  obtain ⟨out, hleads, hout⟩ := h
  obtain ⟨fuel, hfuel, heq⟩ := hleads _ (weight_start chars)
  have hlength : s.pending.length < fuel := by
    unfold Lexer.weight at hfuel
    omega
  have htokens : ofChars chars = ⟨out ++ s.pending, none⟩ := by
    show ofLexer _ _ = _
    rw [heq, Lexer.ofLexer_of_finished fuel s.pending s hs rfl hlength]
    rfl
  rw [htokens]
  exact ⟨rfl, hout⟩

/-- A run from the start of a document that fails is a fault in its tokens. -/
theorem breaks_of_fails {chars : List Char} {lexemes : List Lexeme}
    (h : (Lexer.start chars).Fails lexemes) : (ofChars chars).Breaks lexemes := by
  obtain ⟨hfault, hitems⟩ := h _ (weight_start chars)
  exact ⟨hfault, hitems⟩

end Tokens

end TermAudit.Yaml
