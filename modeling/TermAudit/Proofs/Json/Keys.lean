import TermAudit.Proofs.Json.Quoted
import TermAudit.Proofs.Yaml.Flow

/-!
# `TermAudit.Proofs.Json.Keys`: strings and keys as tokens

`Lexer.Sound.exists_string` reads a string that is a value. A key with the colon behind it is read by
`Lexer.Sound.exists_key`: it gets a token in front of it exactly if it fits, because the place where
it begins is then still fresh at the colon (`isFresh_iff_fitsKey`). Until the colon is read no token
of a key that fits is given out (`Lexer.Sound.fails_key`).
-/

set_option autoImplicit false

namespace TermAudit.JsonText

open Yaml (Cursor Lexer Lexeme Token Fault PossibleKey)
open Yaml.Lexer (isFresh)

/-! ## White space -/

/-- White space without tabs is blank: spaces and line breaks are skipped between tokens. -/
theorem areBlank_gapChars {g : Gap} (h : isTabless g = true) : Cursor.AreBlank (gapChars g) := by
  intro c hc
  obtain ⟨b, hb, rfl⟩ := List.mem_map.mp hc
  cases b with
  | space => exact Or.inl rfl
  | tab =>
    rw [isTabless, Bool.not_eq_true', ← Bool.not_eq_true, List.contains_iff_mem] at h
    exact absurd hb h
  | lineFeed => exact Or.inr (Or.inl rfl)
  | carriageReturn => exact Or.inr (Or.inr rfl)

/-- White space has no tab, or there is a first one. -/
theorem isTabless_or (g : Gap) :
    isTabless g = true ∨ ∃ v u, g = v ++ .tab :: u ∧ isTabless v = true := by
  induction g with
  | nil => exact Or.inl rfl
  | cons b g ih =>
    by_cases hb : b = .tab
    · subst hb
      exact Or.inr ⟨[], g, rfl, rfl⟩
    · have hcons (u : Gap) : isTabless (b :: u) = isTabless u := by
        unfold isTabless
        rw [List.contains_cons, beq_false_of_ne (Ne.symm hb), Bool.false_or]
      rcases ih with h | ⟨v, u, rfl, hv⟩
      · exact Or.inl (by rw [hcons]; exact h)
      · exact Or.inr ⟨b :: v, u, rfl, by rw [hcons]; exact hv⟩

/-- White space with a tab in it is not free of them. -/
theorem isTabless_tab (v u : Gap) : isTabless (v ++ .tab :: u) = false := by
  simp [isTabless]

/-- White space in two parts has the characters of both. -/
theorem gapChars_append (v u : Gap) : gapChars (v ++ u) = gapChars v ++ gapChars u :=
  List.map_append

/-! ## Strings -/

variable {s : Lexer} {v rest : List Char}

/-- A string at the cursor has been read. One token is pending more than before, no token has been taken,
and the flow level is the same. This is all that later steps need to know about the lexer. -/
structure StringRead (s : Lexer) (str : JsonString) (rest : List Char) (s' : Lexer) : Prop where
  sound : s'.Sound
  weight_lt : s'.weight < s.weight
  pending : ∃ token, s'.pending = s.pending ++ [token] ∧
    token.lexeme = .scalar (JsonString.reading str) false
  taken : s'.taken = s.taken
  rest_eq : s'.cursor.rest = rest
  flowLevel : s'.flowLevel = s.flowLevel
  keyAllowed : s'.keyAllowed = false
  /-- Where a key was allowed, the place where the string begins is a possible key. -/
  possibleKeys : s.keyAllowed = true → ∃ others start,
    s'.possibleKeys = (s.flowLevel, ⟨s.taken + s.pending.length, false, start.position⟩) :: others ∧
    (∀ e ∈ others, e.1 ≠ s.flowLevel) ∧ Cursor.Passes start (JsonString.chars str) s'.cursor

/-- At a quotation mark the place is remembered as a possible key before the scalar is read. -/
theorem readToken_quoted {keys : List (Int × PossibleKey)} (hpeek : s.cursor.peek = '"')
    (hremember : s.rememberKey = .ok { s with possibleKeys := keys }) :
    s.readToken =
      s.cursor.advance.takeQuoted '"' s.cursor.position (s.cursor.rest.length + 1) >>= fun r =>
        .ok { Lexer.emit (.scalar r.1 false) s.cursor.position r.2
          { s with possibleKeys := keys } with keyAllowed := false } := by
  have hsign : s.readBySign? = some s.readQuoted := by
    unfold Lexer.readBySign?
    rw [hpeek]
    rfl
  rw [Lexer.readToken_of_sign hpeek (by decide) hsign]
  unfold Lexer.readQuoted
  rw [hremember, ← hpeek]
  rfl

/-- A string is read as a quoted scalar, or else it is a fault. -/
theorem advance_string {str : JsonString} (h : s.Sound)
    (hs : s.cursor.rest = v ++ (JsonString.chars str ++ rest)) (hv : Cursor.AreBlank v) :
    (JsonString.isScannable str = true ∧ ∃ s', s.advance = .ok s' ∧ StringRead s str rest s') ∨
    (JsonString.isScannable str = false ∧ ∃ fault, s.advance = .error fault) := by
  have hstart : Lexer.startsToken ((JsonString.chars str ++ rest).headD '\x00') = true := by
    show Lexer.startsToken '"' = true
    decide
  obtain ⟨s₁, hadvance, hat, hrest⟩ := h.exists_atToken hs hv hstart
  have hrest : s₁.cursor.rest = '"' :: (JsonString.inner str ++ '"' :: rest) := by
    rw [hrest]
    simp [JsonString.chars]
  have hpeek : s₁.cursor.peek = '"' := Cursor.peek_of_rest hrest
  obtain ⟨keys, hremember, hsound, hkeys⟩ := hat.sound.exists_rememberKey
  obtain ⟨hpasses, hrest'⟩ := Cursor.passes_advance hrest
  have hfuel : str.length < s₁.cursor.rest.length + 1 := by
    have hle := JsonString.length_le_inner str
    rw [hrest, List.length_cons, List.length_append]
    omega
  rw [hadvance, readToken_quoted hpeek hremember]
  rcases JsonString.takeQuoted_string s₁.cursor.position _ str _ hrest' hfuel with
    ⟨hscan, k, hok, hpasses', hk⟩ | ⟨hscan, fault, herror⟩
  · refine Or.inl ⟨hscan, _, by rw [hok]; rfl, ?_⟩
    have hall : Cursor.Passes s₁.cursor (JsonString.chars str) k := hpasses.trans hpasses'
    constructor
    · exact ⟨hsound.finished, hsound.indent, hsound.outerIndents, hsound.notRequired,
        hsound.taken_le⟩
    · -- One token is new, and the quotation marks at least are gone.
      refine Nat.lt_of_lt_of_le ?_ (hat.weight_le h)
      have hlength := congrArg List.length hall.rest_eq
      show 3 * k.rest.length + (s₁.pending ++ [_]).length + (if s₁.finished then 0 else 2) < _
      unfold Lexer.weight
      rw [hlength, JsonString.chars]
      simp only [List.length_append, List.length_cons, List.length_nil]
      omega
    · refine ⟨⟨.scalar (JsonString.reading str) false, s₁.cursor.position, k.position⟩, ?_, rfl⟩
      show s₁.pending ++ [_] = _
      rw [hat.pending]
    · exact hat.taken
    · exact hk
    · exact hat.flowLevel
    · rfl
    · -- Where a key may stand, the first possible key of this level is the string itself.
      intro hallowed
      obtain ⟨others, hothers, hne⟩ := hkeys (hat.keyAllowed_of hallowed)
      rw [hat.flowLevel, hat.taken, hat.pending] at hothers
      rw [hat.flowLevel] at hne
      exact ⟨others, s₁.cursor, hothers, hne, hall⟩
  · refine Or.inr ⟨hscan, fault, ?_⟩
    rw [herror]
    rfl

/-- A string that is no key. -/
theorem exists_string {str : JsonString} (h : s.Sound)
    (hs : s.cursor.rest = v ++ (JsonString.chars str ++ rest)) (hv : Cursor.AreBlank v)
    (hscan : JsonString.isScannable str = true) :
    ∃ s', s.Reads [.scalar (JsonString.reading str) false] s' ∧ s'.Sound ∧
      s'.cursor.rest = rest ∧ s'.flowLevel = s.flowLevel := by
  refine h.exists_reads fun s₁ h₁ hcursor hlevel _ => ?_
  rw [← hcursor] at hs
  rcases advance_string h₁ hs hv with ⟨-, s₂, hadvance, hread⟩ | ⟨hnot, -⟩
  · obtain ⟨token, hpending, hlexeme⟩ := hread.pending
    refine ⟨s₂, hadvance, hread.weight_lt, ?_, hread.sound, hread.rest_eq, ?_⟩
    · rw [hpending, List.map_append, List.map_cons, hlexeme]
      rfl
    · rw [hread.flowLevel, hlevel]
  · rw [hscan] at hnot
    cases hnot

/-- A string that a scanner does not take ends the run, and no token comes of it. -/
theorem fails_string {str : JsonString} (h : s.Sound)
    (hs : s.cursor.rest = v ++ (JsonString.chars str ++ rest)) (hv : Cursor.AreBlank v)
    (hscan : JsonString.isScannable str = false) (lexemes : List Lexeme) : s.Fails lexemes := by
  refine h.fails lexemes fun s₁ h₁ hcursor _ => ?_
  rw [← hcursor] at hs
  rcases advance_string h₁ hs hv with ⟨hyes, -⟩ | ⟨-, hfault⟩
  · rw [hscan] at hyes
    cases hyes
  · exact hfault

/-! ## Keys -/

/-- The tokens of a key and its colon. A key that does not fit lacks the token in front of it, as this is
put there only when the colon is found in time. -/
def keyLexemes (key : JsonString) (behind : Gap) : List Lexeme :=
  if JsonString.fitsKey key behind then [.key, .scalar (JsonString.reading key) false, .value]
  else [.scalar (JsonString.reading key) false, .value]

/-- A key fits if the place where it begins is fresh at the colon. The reader decides by places, and this
turns its decision into one about the characters of the text. -/
theorem isFresh_iff_fitsKey {key : JsonString} {g : Gap} {k k' : Cursor}
    (h : k.Passes (JsonString.chars key ++ gapChars g) k') (hend : k'.rest.head? ≠ some '\n') :
    isFresh k.position k'.position = JsonString.fitsKey key g := by
  have hline := h.line_eq_iff hend
  have hindex := h.index_eq
  unfold isFresh JsonString.fitsKey
  rw [Bool.eq_iff_iff]
  simp only [Bool.and_eq_true, beq_iff_eq, decide_eq_true_eq, Bool.not_eq_true']
  rw [← hline, hindex]
  constructor
  · rintro ⟨hsame, hnear⟩
    exact ⟨by omega, hsame.symm⟩
  · rintro ⟨hnear, hsame⟩
    exact ⟨hsame.symm, by omega⟩

/-- A string that fits as a key is short enough for its colon to be found: both are on one line, at most
1024 characters apart. -/
theorem isFresh_of_fitsKey {key : JsonString} {g : Gap} {k k' : Cursor}
    (h : k.Passes (JsonString.chars key) k') (hfits : JsonString.fitsKey key g = true) :
    isFresh k.position k'.position = true := by
  have hindex := h.index_eq
  unfold JsonString.fitsKey at hfits
  simp only [Bool.and_eq_true, decide_eq_true_eq, Bool.not_eq_true', List.any_append,
    Bool.or_eq_false_iff, List.length_append] at hfits
  have hline := h.line_eq_of_no_break hfits.2.1
  unfold isFresh
  simp only [Bool.and_eq_true, beq_iff_eq, decide_eq_true_eq]
  exact ⟨hline.symm, by omega⟩

/-- A key has been read up to its colon, and all tokens that are due then are given out. The token of the
key is still pending: whether one has to be put in front of it is known only at the colon. -/
structure KeyRead (s : Lexer) (key : JsonString) (rest : List Char) (out : List Token)
    (s₁ s₂ : Lexer) : Prop where
  leads : s.Leads out s₁
  mustAdvance : s₁.mustAdvance = .ok (true, s₂)
  weight_eq : s₁.weight = s₂.weight
  sound : s₂.Sound
  pending : ∃ token, out ++ s₂.pending = s.pending ++ [token] ∧
    token.lexeme = .scalar (JsonString.reading key) false
  taken : s₂.taken = s.taken + out.length
  rest_eq : s₂.cursor.rest = rest
  flowLevel : s₂.flowLevel = s.flowLevel
  possibleKeys : ∃ others start,
    (∀ e ∈ others, e.1 ≠ s.flowLevel) ∧ Cursor.Passes start (JsonString.chars key) s₂.cursor ∧
    ∃ all, all = (s.flowLevel, ⟨s.taken + s.pending.length, false, start.position⟩) :: others ∧
      (s₂.possibleKeys = all ∨
        s₂.possibleKeys = all.filter fun e => isFresh e.2.position s₂.cursor.position)

/-- A string is read up to its colon, with a possible key where it began. -/
theorem exists_keyRead {key : JsonString} (h : s.Sound) (hallowed : s.keyAllowed = true)
    (hs : s.cursor.rest = v ++ (JsonString.chars key ++ rest)) (hv : Cursor.AreBlank v)
    (hscan : JsonString.isScannable key = true) :
    ∃ out s₁ s₂, KeyRead s key rest out s₁ s₂ := by
  obtain ⟨n, keys, hn, -, hsound, s₁, hleads, hmust, hweight⟩ := h.exists_due
  rcases advance_string hsound hs hv with ⟨-, s₂, hadvance, hread⟩ | ⟨hnot, -⟩
  · -- Tokens are given out before the string is read, and again before the colon is.
    obtain ⟨m, keys', hm, hkeys', hsound', s₃, hleads', hmust', hweight'⟩ := hread.sound.exists_due
    have hstep := Lexer.leads_advance hmust hadvance (by rw [hweight]; exact hread.weight_lt)
    obtain ⟨token, hpending, hlexeme⟩ := hread.pending
    obtain ⟨others, start, hothers, hne, hpasses⟩ := hread.possibleKeys hallowed
    -- Giving tokens out changes their numbers no more than their order.
    have hnumber : (s.afterGiving n keys).taken + (s.afterGiving n keys).pending.length
        = s.taken + s.pending.length := by
      show s.taken + n + (s.pending.drop n).length = _
      rw [List.length_drop]
      omega
    rw [hnumber] at hothers
    refine ⟨_, s₃, s₂.afterGiving m keys', (hleads.trans hstep).trans hleads', hmust', hweight',
      hsound', ⟨token, ?_, hlexeme⟩, ?_, hread.rest_eq, hread.flowLevel,
      others, start, hne, hpasses, _, hothers, hkeys'⟩
    · show s.pending.take n ++ [] ++ s₂.pending.take m ++ s₂.pending.drop m = _
      rw [List.append_nil, List.append_assoc, List.take_append_drop, hpending]
      show s.pending.take n ++ (s.pending.drop n ++ [token]) = _
      rw [← List.append_assoc, List.take_append_drop]
    · show s₂.taken + m = _
      rw [hread.taken]
      simp only [List.length_append, List.length_take, List.length_nil]
      show s.taken + n + m = _
      omega
  · rw [hscan] at hnot
    cases hnot

namespace KeyRead

variable {key : JsonString} {out : List Token} {s₁ s₂ : Lexer}

/-- The place where the string begins is the first possible key, or it is not fresh any more. No other
possible key is one of the innermost collection. -/
theorem exists_possibleKeys (h : KeyRead s key rest out s₁ s₂) : ∃ start others,
    Cursor.Passes start (JsonString.chars key) s₂.cursor ∧ (∀ e ∈ others, e.1 ≠ s.flowLevel) ∧
    (s₂.possibleKeys =
        (s.flowLevel, ⟨s.taken + s.pending.length, false, start.position⟩) :: others ∨
      isFresh start.position s₂.cursor.position = false ∧ s₂.possibleKeys = others) := by
  obtain ⟨others, start, hne, hstart, all, rfl, hkeys⟩ := h.possibleKeys
  rcases hkeys with hkeys | hkeys
  · exact ⟨start, others, hstart, hne, Or.inl hkeys⟩
  · refine ⟨start, others.filter fun e => isFresh e.2.position s₂.cursor.position, hstart,
      fun e he => hne e (List.mem_filter.mp he).1, ?_⟩
    -- Of the possible keys only those that are still fresh are left.
    rw [List.filter_cons] at hkeys
    cases hfresh : isFresh start.position s₂.cursor.position with
    | true =>
      rw [hfresh] at hkeys
      exact Or.inl hkeys
    | false =>
      rw [hfresh] at hkeys
      exact Or.inr ⟨rfl, hkeys⟩

/-- The possible key of the innermost collection is the place where the string begins. -/
theorem exists_lookup (h : KeyRead s key rest out s₁ s₂) {w : List Char} {k : Cursor}
    (hpasses : s₂.cursor.Passes w k) :
    ∃ start, Cursor.Passes start (JsonString.chars key ++ w) k ∧
      (s₂.possibleKeys.filter fun e => isFresh e.2.position k.position).lookup s.flowLevel =
        if isFresh start.position k.position then
          some ⟨s.taken + s.pending.length, false, start.position⟩
        else none := by
  obtain ⟨start, others, hstart, hne, hkeys⟩ := h.exists_possibleKeys
  refine ⟨start, hstart.trans hpasses, ?_⟩
  have hnone : (others.filter fun e => isFresh e.2.position k.position).lookup s.flowLevel = none := by
    rw [List.lookup_eq_none_iff]
    intro e he
    simpa using (hne e (List.mem_filter.mp he).1).symm
  rcases hkeys with hkeys | ⟨hstale, hkeys⟩
  · rw [hkeys, List.filter_cons]
    dsimp only
    split
    · exact List.lookup_cons_self
    · exact hnone
  · -- What is not fresh at the end of the string is not fresh behind it.
    have hstale' : isFresh start.position k.position = false := by
      rw [Bool.eq_false_iff] at hstale ⊢
      exact fun hfresh => hstale (Lexer.isFresh_of_passes hpasses hstart.line_le hfresh)
    rw [hkeys, hnone, hstale']
    rfl

/-- A possible key keeps the tokens from its place on from being given out. -/
theorem exists_pending (h : KeyRead s key rest out s₁ s₂) {e : Int × PossibleKey}
    (hmem : e ∈ s₂.possibleKeys) (hnumber : e.2.number = s.taken + s.pending.length) :
    ∃ more token, s.pending = out ++ more ∧ s₂.pending = more ++ [token] ∧
      token.lexeme = .scalar (JsonString.reading key) false := by
  obtain ⟨token, hpending, hlexeme⟩ := h.pending
  have hle : out.length ≤ s.pending.length := by
    have htaken := h.sound.taken_le e hmem
    rw [h.taken, hnumber] at htaken
    omega
  -- The tokens given out end in front of the string, as its place can still be that of a key.
  rcases List.append_eq_append_iff.mp hpending with ⟨more, hs, hs₂⟩ | ⟨more, hout, htoken⟩
  · exact ⟨more, token, hs, hs₂, hlexeme⟩
  · have hmore : more = [] := by
      rw [hout, List.length_append] at hle
      exact List.length_eq_zero_iff.mp (by omega)
    subst hmore
    rw [List.append_nil] at hout
    exact ⟨[], token, by rw [hout, List.append_nil], htoken.symm, hlexeme⟩

/-- The colon behind a key that fits: the token of the key comes in front of its string. -/
theorem exists_readValue_of_fits (h : KeyRead s key rest out s₁ s₂) {w : List Char} {start : Cursor}
    {s₃ : Lexer} (hat : s₂.AtToken w s₃) (hinside : s₃.inFlow = true)
    (hlookup : s₃.possibleKeys.lookup s₃.flowLevel =
      some ⟨s.taken + s.pending.length, false, start.position⟩) :
    ∃ s', s₃.readValue = .ok s' ∧ s'.Sound ∧ s'.cursor = s₃.cursor.advance ∧
      s'.flowLevel = s₃.flowLevel ∧ s'.pending.length ≤ s₃.pending.length + 2 ∧
      (out ++ s'.pending).map Token.lexeme = s.pending.map Token.lexeme ++
        [.key, .scalar (JsonString.reading key) false, .value] := by
  have hmem : (s₃.flowLevel, (⟨s.taken + s.pending.length, false, start.position⟩ : PossibleKey))
      ∈ s₃.possibleKeys := mem_of_lookup hlookup
  rw [hat.possibleKeys] at hmem
  -- The string is still pending, and the tokens in front of it are those given out and `more`.
  obtain ⟨more, token, hpending, hpending₂, hlexeme⟩ :=
    h.exists_pending (List.mem_filter.mp hmem).1 rfl
  have hplace : s.taken + s.pending.length - s₃.taken = more.length := by
    rw [hat.taken, h.taken, hpending, List.length_append]
    omega
  obtain ⟨s', hok, hsound, hcursor, hflow, hlexemes⟩ :=
    Lexer.exists_readValue_of_key hat.sound hinside hlookup
  dsimp only at hlexemes
  rw [hplace, hat.pending, hpending₂, List.take_left, List.drop_left] at hlexemes
  refine ⟨s', hok, hsound, hcursor, hflow, ?_, ?_⟩
  · have hlength := congrArg List.length hlexemes
    rw [hat.pending, hpending₂]
    simp only [List.length_map, List.length_append, List.length_cons, List.length_nil]
      at hlength ⊢
    omega
  · rw [List.map_append, hlexemes, hpending, List.map_append]
    simp [hlexeme]

/-- The colon behind a key that does not fit. -/
theorem exists_readValue_of_not_fits (h : KeyRead s key rest out s₁ s₂) {w : List Char} {s₃ : Lexer}
    (hat : s₂.AtToken w s₃) (hinside : s₃.inFlow = true)
    (hlookup : s₃.possibleKeys.lookup s₃.flowLevel = none) :
    ∃ s', s₃.readValue = .ok s' ∧ s'.Sound ∧ s'.cursor = s₃.cursor.advance ∧
      s'.flowLevel = s₃.flowLevel ∧ s'.pending.length ≤ s₃.pending.length + 2 ∧
      (out ++ s'.pending).map Token.lexeme = s.pending.map Token.lexeme ++
        [.scalar (JsonString.reading key) false, .value] := by
  obtain ⟨token, hpending, hlexeme⟩ := h.pending
  obtain ⟨s', hok, hsound, hcursor, hflow, hlexemes⟩ :=
    Lexer.exists_readValue_of_none hat.sound hinside hlookup
  refine ⟨s', hok, hsound, hcursor, hflow, ?_, ?_⟩
  · have hlength := congrArg List.length hlexemes
    simp only [List.length_map, List.length_append, List.length_cons, List.length_nil] at hlength
    omega
  · -- Without a possible key nothing is put in front of the string.
    rw [List.map_append, hlexemes, hat.pending, ← List.append_assoc, ← List.map_append, hpending,
      List.map_append, List.map_cons, hlexeme]
    simp

end KeyRead

/-- A key and its colon. The key gets its token if it fits, and else the colon stands alone, which the
parser refuses in an object. -/
theorem exists_key {key : JsonString} {g : Gap} (h : s.Sound) (hflow : s.inFlow = true)
    (hallowed : s.keyAllowed = true)
    (hs : s.cursor.rest = v ++ (JsonString.chars key ++ (gapChars g ++ ':' :: rest)))
    (hv : Cursor.AreBlank v) (hscan : JsonString.isScannable key = true)
    (hg : isTabless g = true) :
    ∃ s', s.Reads (keyLexemes key g) s' ∧ s'.Sound ∧ s'.cursor.rest = rest ∧
      s'.flowLevel = s.flowLevel := by
  obtain ⟨out, s₁, s₂, hread⟩ := exists_keyRead h hallowed hs hv hscan
  obtain ⟨s₃, hadvance, hat, hrest⟩ :=
    hread.sound.exists_atToken hread.rest_eq (areBlank_gapChars hg) (by
      show Lexer.startsToken ':' = true
      decide)
  obtain ⟨start, hpasses, hlookup⟩ := hread.exists_lookup hat.passes
  have hlevel : s₃.flowLevel = s.flowLevel := hat.flowLevel.trans hread.flowLevel
  have hinside : s₃.inFlow = true := by
    unfold Lexer.inFlow
    rw [hlevel]
    exact hflow
  -- The colon comes soon enough exactly if the key and the gap are short and on one line.
  have hfits : isFresh start.position s₃.cursor.position = JsonString.fitsKey key g := by
    refine isFresh_iff_fitsKey hpasses ?_
    rw [hrest]
    simp
  rw [← hat.possibleKeys, ← hlevel, hfits] at hlookup
  -- In either case the colon is read, and the tokens for the key are complete.
  have hvalue : ∃ s', s₃.readValue = .ok s' ∧ s'.Sound ∧ s'.cursor = s₃.cursor.advance ∧
      s'.flowLevel = s₃.flowLevel ∧ s'.pending.length ≤ s₃.pending.length + 2 ∧
      (out ++ s'.pending).map Token.lexeme = s.pending.map Token.lexeme ++ keyLexemes key g := by
    unfold keyLexemes
    cases hcase : JsonString.fitsKey key g with
    | true =>
      rw [hcase] at hlookup
      exact hread.exists_readValue_of_fits hat hinside hlookup
    | false =>
      rw [hcase] at hlookup
      exact hread.exists_readValue_of_not_fits hat hinside hlookup
  obtain ⟨s', hok, hsound, hcursor, hflow', hlength, hlexemes⟩ := hvalue
  have htoken := Lexer.readToken_colon (Cursor.peek_of_rest hrest) hinside
  obtain ⟨-, hrest'⟩ := Cursor.passes_advance hrest
  -- Two tokens at most are new, and the colon that is gone weighs three.
  have hless : s'.weight < s₁.weight := by
    rw [hread.weight_eq]
    refine Nat.lt_of_lt_of_le ?_ (hat.weight_le hread.sound)
    unfold Lexer.weight
    rw [hsound.finished, hat.sound.finished, hcursor, hrest', hrest, List.length_cons]
    omega
  have hstep := hread.leads.trans
    (Lexer.leads_advance hread.mustAdvance ((hadvance.trans htoken).trans hok) hless)
  rw [List.append_nil] at hstep
  exact ⟨s', ⟨out, hstep, hlexemes⟩, hsound, by rw [hcursor, hrest'], hflow'.trans hlevel⟩

/-- A tab between a key and its colon ends the tokens. It is white space in the JSON text, and begins no
token. -/
theorem fails_key {key : JsonString} {g u : Gap} (h : s.Sound) (hallowed : s.keyAllowed = true)
    (hs : s.cursor.rest = v ++ (JsonString.chars key ++ (gapChars (g ++ .tab :: u) ++ rest)))
    (hv : Cursor.AreBlank v) (hscan : JsonString.isScannable key = true)
    (hg : isTabless g = true) : s.Fails (keyLexemes key (g ++ .tab :: u)) := by
  obtain ⟨out, s₁, s₂, hread⟩ := exists_keyRead h hallowed hs hv hscan
  have hrest : s₂.cursor.rest = gapChars g ++ '\t' :: (gapChars u ++ rest) := by
    rw [hread.rest_eq, gapChars_append, List.append_assoc]
    rfl
  obtain ⟨fault, hfault⟩ := hread.sound.exists_advance_tab hrest (areBlank_gapChars hg)
  have hout : out.map Token.lexeme <+:
      s.pending.map Token.lexeme ++ keyLexemes key (g ++ .tab :: u) := by
    unfold keyLexemes
    cases hfits : JsonString.fitsKey key (g ++ .tab :: u) with
    | true =>
      -- The string is not given out: the place where it begins is a possible key before the tab.
      obtain ⟨start, others, hstart, -, hkeys⟩ := hread.exists_possibleKeys
      have hfresh := isFresh_of_fitsKey hstart hfits
      have hmem : (s.flowLevel, (⟨s.taken + s.pending.length, false, start.position⟩ : PossibleKey))
          ∈ s₂.possibleKeys := by
        rcases hkeys with hkeys | ⟨hstale, -⟩
        · rw [hkeys]
          exact List.mem_cons_self
        · rw [hfresh] at hstale
          cases hstale
      obtain ⟨more, -, hpending, -⟩ := hread.exists_pending hmem rfl
      rw [hpending, List.map_append, List.append_assoc]
      exact List.prefix_append _ _
    | false =>
      -- A key that does not fit has given way, so the string may be given out alone.
      obtain ⟨token, hpending, hlexeme⟩ := hread.pending
      have hgiven : out <+: s.pending ++ [token] := by
        rw [← hpending]
        exact List.prefix_append _ _
      refine (hgiven.map Token.lexeme).trans ?_
      rw [List.map_append, List.map_cons, hlexeme]
      exact (List.prefix_append_right_inj _).mpr ⟨[.value], rfl⟩
  intro fuel hfuel
  obtain ⟨fuel₁, hfuel₁, heq⟩ := hread.leads fuel hfuel
  rw [heq, Lexer.ofLexer_of_fault hread.mustAdvance hfault hfuel₁]
  refine ⟨rfl, ?_⟩
  show (out ++ []).map Token.lexeme <+: _
  rw [List.append_nil]
  exact hout

end TermAudit.JsonText
