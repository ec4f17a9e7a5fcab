import TermAudit.Proofs.Yaml.Flow

/-!
# `TermAudit.Proofs.Yaml.Plain`: words as plain scalars

A word of letters, digits, signs and points is a plain scalar. Reading it also takes the blanks
behind it, to see whether the scalar goes on there; it does not if they end at the end of the
document, at a tab, or at a mark that ends an item (`Cursor.takePlain?_word`).
`Lexer.Sound.exists_word` is the token.
-/

set_option autoImplicit false

namespace TermAudit.Yaml

namespace Cursor

/-- A character of a word. A point, a plus and a minus are among them, as numbers have them. -/
def isWordChar (c : Char) : Bool :=
  c.isAlphanum || c == '-' || c == '+' || c == '.'

/-- The characters that end the blanks behind a word: the end of the document, a tab, or a mark. Behind
anything else the plain scalar would go on. -/
def wordStops : List Char :=
  ['\x00', '\t', ',', ']', '\x7d']

/-- None of the characters that mean something to a scanner is a character of a word. They are listed once,
and each proof about words takes the ones it needs from here. -/
theorem not_isWordChar {c : Char}
    (hc : c ∈ ['\t', ' ', '\x00', '\n', '\r', '\x85', '\u2028', '\u2029', ':', '?', ',', '[', ']',
      '\x7b', '\x7d', '#', '"', '\x27', '%', '*', '&', '!', '|', '>', '@', '\x60', '\uFEFF']) :
    isWordChar c = false :=
  forall_mem_of_all (p := fun c => isWordChar c = false) (by decide) c hc

/-- A character of a word is different from any other kind of character. -/
theorem ne_of_isWordChar {c d : Char} (h : isWordChar c = true) (hd : isWordChar d = false) :
    c ≠ d := by
  rintro rfl
  rw [h] at hd
  cases hd

/-- A word has no gaps. -/
theorem isGap_of_isWordChar {c : Char} (h : isWordChar c = true) : Source.isGap c = false := by
  rw [Bool.eq_false_iff]
  intro hgap
  have hc : c ∈ ['\t', ' ', '\x00', '\n', '\r', '\x85', '\u2028', '\u2029'] := by
    simpa [Source.isGap, Source.endsWord, Source.endsLine, Source.isBreak, or_assoc] using hgap
  rw [not_isWordChar (List.mem_append_left _ hc)] at h
  cases h

/-- A line break is a gap, so what is no gap is no line break. -/
theorem isBreak_of_isGap {c : Char} (h : Source.isGap c = false) : Source.isBreak c = false := by
  unfold Source.isGap Source.endsWord Source.endsLine at h
  simp only [Bool.or_eq_false_iff] at h
  exact h.2.2.2

/-! ## Blanks behind a word -/

/-- Behind a word comes a blank, or what stands behind the blanks. -/
theorem headD_blanks {b rest : List Char} (hb : AreBlank b)
    (hrest : rest.headD '\x00' ∈ wordStops) :
    (b ++ rest).headD '\x00' ∈ ['\x00', '\t', ',', ']', '\x7d', ' ', '\n', '\r'] := by
  cases b with
  | nil => exact List.mem_append_left [' ', '\n', '\r'] hrest
  | cons c b =>
    rcases hb c (List.mem_cons_self ..) with rfl | rfl | rfl <;> simp

variable {k : Cursor} {b rest : List Char}

/-- There is no mark between documents behind a word, on whatever line the blanks end. -/
theorem atSeparator_blanks (hk : k.rest = b ++ rest) (hb : AreBlank b)
    (hrest : rest.headD '\x00' ∈ wordStops) : k.atSeparator = false := by
  have hpeek : k.peek ∈ ['\x00', '\t', ',', ']', '\x7d', ' ', '\n', '\r'] := by
    show k.rest.headD '\x00' ∈ _
    rw [hk]
    exact headD_blanks hb hrest
  have hmarks : ∀ c ∈ ['\x00', '\t', ',', ']', '\x7d', ' ', '\n', '\r'],
      (c == '-') = false ∧ (c == '.') = false :=
    forall_mem_of_all (by decide)
  obtain ⟨hhyphen, hpoint⟩ := hmarks _ hpeek
  unfold atSeparator hasMarker
  rw [hhyphen, hpoint]
  rfl

/-- Blanks end where one of these characters stands: none of them is a space or a line break. -/
theorem stops_wordStops :
    ∀ c ∈ wordStops, c ≠ ' ' ∧ Source.isBreak c = false ∧ c ≠ '\n' :=
  forall_mem_of_all (by decide)

/-- No line break stands where the blanks behind a word end. -/
theorem takeBreak?_of_wordStops (hk : k.rest = rest) (hrest : rest.headD '\x00' ∈ wordStops) :
    k.takeBreak? = none := by
  refine takeBreak?_eq_none ?_
  show Source.isBreak (k.rest.headD '\x00') = false
  rw [hk]
  exact (stops_wordStops _ hrest).2.1

/-- The blanks behind a word are taken whole, line by line. Induction on the fuel, one line break a step. -/
theorem takePlainBreaks_blanks (fuel : Nat) (b : List Char) (k : Cursor) (hb : AreBlank b)
    (hfuel : b.length < fuel) (hk : k.rest = b ++ rest) (hrest : rest.headD '\x00' ∈ wordStops) :
    ∃ breaks k', k.takePlainBreaks fuel = (breaks, k', false) ∧ k.Passes b k' ∧ k'.rest = rest := by
  induction fuel generalizing b k with
  | zero => exact absurd hfuel (Nat.not_lt_zero _)
  | succ fuel ih =>
    obtain ⟨spaces, u, k₁, rfl, hblank, hu, hspan, hpasses, hk₁⟩ :=
      exists_passes_spaces hk hb (stops_wordStops _ hrest).1
    have hskip : k.skipSpaces = k₁ := by
      unfold skipSpaces skip
      rw [hspan]
    rw [takePlainBreaks]
    dsimp only
    rw [hskip]
    cases u with
    | nil =>
      rw [takeBreak?_of_wordStops hk₁ hrest, List.append_nil]
      exact ⟨[], k₁, rfl, hpasses, hk₁⟩
    | cons c u =>
      -- A line break takes one character or two, and what is left are fewer blanks.
      obtain ⟨w, v, k₂, heq, hle, htake, hpasses', hk₂⟩ :=
        exists_takeBreak?_of_blank hk₁ (hu c u rfl) (stops_wordStops _ hrest).2.2
      have hv : AreBlank v := by
        rw [heq] at hblank
        exact hblank.of_append
      have hlength : v.length < fuel := by
        rw [List.length_append, List.length_cons] at hfuel
        omega
      obtain ⟨breaks, k', hmore, hpasses'', hk'⟩ := ih v k₂ hv hlength hk₂
      rw [htake]
      dsimp only
      rw [atSeparator_blanks hk₂ hv hrest, if_neg Bool.false_ne_true, hmore, heq]
      exact ⟨_, k', rfl, hpasses.trans (hpasses'.trans hpasses''), hk'⟩

/-- The gap behind a word is the blanks, and the scanner stands behind them. -/
theorem takePlainGap_blanks (hk : k.rest = b ++ rest) (hb : AreBlank b)
    (hrest : rest.headD '\x00' ∈ wordStops) :
    k.Passes b k.takePlainGap.after ∧ k.takePlainGap.after.rest = rest := by
  obtain ⟨spaces, u, k₁, rfl, hblank, hu, hspan, hpasses, hk₁⟩ := exists_passes_spaces hk hb (stops_wordStops _ hrest).1
  unfold takePlainGap
  rw [hspan]
  dsimp only
  -- Behind the spaces the gap ends, or it goes on with a line break.
  cases u with
  | nil =>
    rw [takeBreak?_of_wordStops hk₁ hrest, List.append_nil]
    exact ⟨hpasses, hk₁⟩
  | cons c u =>
    obtain ⟨w, v, k₂, heq, -, htake, hpasses', hk₂⟩ :=
      exists_takeBreak?_of_blank hk₁ (hu c u rfl) (stops_wordStops _ hrest).2.2
    have hv : AreBlank v := by
      rw [heq] at hblank
      exact hblank.of_append
    have hlength : v.length < k₂.rest.length + 1 := by
      rw [hk₂, List.length_append]
      omega
    obtain ⟨breaks, k', hmore, hpasses'', hk'⟩ :=
      takePlainBreaks_blanks _ v k₂ hv hlength hk₂ hrest
    rw [htake]
    dsimp only
    rw [atSeparator_blanks hk₂ hv hrest, if_neg Bool.false_ne_true, hmore, heq]
    exact ⟨hpasses.trans (hpasses'.trans hpasses''), hk'⟩

/-! ## The scalar -/

variable {inFlow : Bool} {w : List Char}

/-- A piece of a plain scalar ends in front of what can stand behind a word. -/
theorem takePlainPiece_word (hk : k.rest = w ++ rest) (hw : ∀ c ∈ w, isWordChar c = true)
    (hrest : Source.isGap (rest.headD '\x00') = true ∨
      inFlow = true ∧ rest.headD '\x00' ∈ [',', ']', '\x7d']) :
    ∃ k', k.takePlainPiece inFlow = (w, k') ∧ k.Passes w k' ∧ k'.rest = rest := by
  obtain ⟨chars, here⟩ := k
  obtain rfl : chars = w ++ rest := hk
  refine passes_spanFrom ?_ ?_
  · intro v c u heq
    have hc : isWordChar c = true := hw c (by rw [heq]; simp)
    have hcolon : c ≠ ':' := ne_of_isWordChar hc (by decide)
    have hquestion : c ≠ '?' := ne_of_isWordChar hc (by decide)
    -- No mark of a flow collection is part of a word.
    have hmarks : [',', '[', ']', '\x7b', '\x7d'].contains c = false := by
      have hnot (d : Char) (hd : isWordChar d = false) : (c == d) = false :=
        beq_false_of_ne (ne_of_isWordChar hc hd)
      simp only [List.contains_cons, List.contains_nil, hnot ',' (by decide), hnot '[' (by decide),
        hnot ']' (by decide), hnot '\x7b' (by decide), hnot '\x7d' (by decide), Bool.or_self]
    rw [isGap_of_isWordChar hc, beq_false_of_ne hcolon, beq_false_of_ne hquestion]
    show (!(false || (false && _) || (inFlow && (false || [',', '[', ']', '\x7b', '\x7d'].contains c))))
      = true
    rw [hmarks]
    simp
  · rintro c u rfl
    -- What stands behind the word ends the piece by itself or as a mark.
    rcases hrest with hgap | ⟨hflow, hmark⟩
    · have hgap : Source.isGap c = true := hgap
      rw [hgap]
      rfl
    · have hmark : c ∈ [',', ']', '\x7d'] := hmark
      have hcontains : ∀ d ∈ [',', ']', '\x7d'], [',', '[', ']', '\x7b', '\x7d'].contains d = true :=
        forall_mem_of_all (by decide)
      show (!(_ || (inFlow && (_ || [',', '[', ']', '\x7b', '\x7d'].contains c)))) = false
      rw [hcontains c hmark, hflow]
      simp

/-- No plain scalar begins where a piece is empty. -/
theorem takePlain?_eq_none {fuel : Nat} {indent : Int} {k' : Cursor}
    (h : k.takePlainPiece inFlow = ([], k')) : k.takePlain? inFlow indent fuel = none := by
  cases fuel with
  | zero => rfl
  | succ fuel =>
    rw [takePlain?, h]
    split <;> rfl

/-- A word is a plain scalar, and the blanks behind it are taken with it. They are dropped from its text,
but the reader stands behind them. -/
theorem takePlain?_word (fuel : Nat) (indent : Int) (hk : k.rest = w ++ (b ++ rest))
    (hw : ∀ c ∈ w, isWordChar c = true) (hne : w ≠ []) (hb : AreBlank b)
    (hrest : rest.headD '\x00' ∈ wordStops)
    (hflow : inFlow = false → rest.headD '\x00' ∈ ['\x00', '\t']) :
    ∃ scalar, k.takePlain? inFlow indent (fuel + 1) = some scalar ∧ scalar.content = w ∧
      k.Passes (w ++ b) scalar.after ∧ scalar.after.rest = rest := by
  -- A word ends at a gap, or in a flow collection at one of its marks.
  have hstop : Source.isGap (rest.headD '\x00') = true ∨
      inFlow = true ∧ rest.headD '\x00' ∈ [',', ']', '\x7d'] := by
    cases hcase : inFlow with
    | false =>
      have hgaps : ∀ c ∈ ['\x00', '\t'], Source.isGap c = true :=
        forall_mem_of_all (by decide)
      exact Or.inl (hgaps _ (hflow hcase))
    | true =>
      have hcases : ∀ c ∈ wordStops, Source.isGap c = true ∨ c ∈ [',', ']', '\x7d'] :=
        forall_mem_of_all (by decide)
      rcases hcases _ hrest with h | h
      · exact Or.inl h
      · exact Or.inr ⟨rfl, h⟩
  have hbehind : Source.isGap ((b ++ rest).headD '\x00') = true ∨
      inFlow = true ∧ (b ++ rest).headD '\x00' ∈ [',', ']', '\x7d'] := by
    cases b with
    | nil => exact hstop
    | cons c b =>
      refine Or.inl ?_
      show Source.isGap c = true
      rcases hb c (List.mem_cons_self ..) with rfl | rfl | rfl <;> decide
  -- The word is one piece, and the next piece is empty.
  obtain ⟨k₁, hpiece, hpasses, hk₁⟩ := takePlainPiece_word hk hw hbehind
  obtain ⟨hpasses', hk₂⟩ := takePlainGap_blanks hk₁ hb hrest
  obtain ⟨k₃, hempty, -⟩ := takePlainPiece_word (w := []) hk₂ (by simp) hstop
  obtain ⟨c, w, rfl⟩ : ∃ c v, w = c :: v := by
    cases w with
    | nil => exact absurd rfl hne
    | cons c w => exact ⟨c, w, rfl⟩
  have hcomment : (k.peek == '#') = false := by
    rw [peek_of_rest hk]
    exact beq_false_of_ne (ne_of_isWordChar (hw c (List.mem_cons_self ..)) (by decide))
  rw [takePlain?, hcomment, if_neg Bool.false_ne_true, hpiece]
  dsimp only
  rw [takePlain?_eq_none hempty, ite_self]
  exact ⟨_, rfl, rfl, hpasses.trans hpasses', hk₂⟩

end Cursor

namespace Lexer

variable {s : Lexer} {v w b rest : List Char}

/-- A word can begin a plain scalar: its first character is no sign, or a minus in front of another
character of the word. A minus alone would begin an item of a list. -/
def startsWord : List Char → Bool
  | '-' :: d :: _ => d.isAlphanum
  | c :: _ => c.isAlphanum
  | [] => false

/-- A word begins with a letter or a digit, or with a minus in front of one. -/
theorem startsWord_cons {c : Char} (h : startsWord (c :: w) = true) :
    c.isAlphanum = true ∨ c = '-' ∧ ∃ d u, w = d :: u ∧ d.isAlphanum = true := by
  by_cases hc : c = '-'
  · subst hc
    cases w with
    | nil => exact absurd h (by decide)
    | cons d u => exact Or.inr ⟨rfl, d, u, rfl, h⟩
  · refine Or.inl ?_
    unfold startsWord at h
    split at h
    · rename_i heq
      cases heq
      exact absurd rfl hc
    · rename_i heq
      cases heq
      exact h
    · rename_i heq
      cases heq

/-- Letters and digits are characters of words. -/
theorem isWordChar_of_isAlphanum {c : Char} (h : c.isAlphanum = true) :
    Cursor.isWordChar c = true := by
  unfold Cursor.isWordChar
  rw [h]
  rfl

/-- Whatever begins a word is a character of it, a minus as well. -/
theorem isWordChar_of_startsWord {c : Char} (h : startsWord (c :: w) = true) :
    Cursor.isWordChar c = true := by
  rcases startsWord_cons h with hc | ⟨rfl, -⟩
  · exact isWordChar_of_isAlphanum hc
  · decide

/-- Behind a minus at its start a word goes on with a letter or a digit, so the minus marks neither an item
nor a document. -/
theorem peekAt_of_startsWord {c : Char} (hs : s.cursor.rest = c :: (w ++ rest))
    (h : startsWord (c :: w) = true) (hc : c = '-') :
    s.cursor.peekAt 1 ≠ '-' ∧ Source.isGap (s.cursor.peekAt 1) = false := by
  subst hc
  obtain ⟨d, u, rfl, hd⟩ : ∃ d u, w = d :: u ∧ d.isAlphanum = true := by
    rcases startsWord_cons h with hc | ⟨-, hd⟩
    · exact absurd hc (by decide)
    · exact hd
  have hnext : s.cursor.peekAt 1 = d := by
    unfold Cursor.peekAt
    rw [hs]
    rfl
  rw [hnext]
  refine ⟨?_, Cursor.isGap_of_isWordChar (isWordChar_of_isAlphanum hd)⟩
  rintro rfl
  exact absurd hd (by decide)

/-- A word begins a plain scalar. The scanner looks at two characters to see this, since a minus alone would
be an item of a sequence. -/
theorem startsPlain_of_startsWord {c : Char} (hs : s.cursor.rest = c :: (w ++ rest))
    (h : startsWord (c :: w) = true) : s.startsPlain = true := by
  unfold startsPlain
  rw [Cursor.peek_of_rest hs]
  rcases startsWord_cons h with hc | ⟨rfl, -⟩
  · -- No letter or digit is an indicator.
    have hindicators : ∀ d ∈ "-?:,[]\x7b\x7d#&*!|>\x27\"%@\x60".toList, d.isAlphanum = false :=
      forall_mem_of_all (by decide)
    have hnot : "-?:,[]\x7b\x7d#&*!|>\x27\"%@\x60".toList.contains c = false := by
      rw [Bool.eq_false_iff]
      intro hmem
      rw [hindicators c (List.contains_iff_mem.mp hmem)] at hc
      cases hc
    dsimp only
    rw [hnot, Cursor.isGap_of_isWordChar (isWordChar_of_isAlphanum hc)]
    rfl
  · dsimp only
    rw [(peekAt_of_startsWord hs h rfl).2]
    simp

/-- Nothing else begins with the first character of a word. -/
theorem readToken_of_startsWord {c : Char} (hs : s.cursor.rest = c :: (w ++ rest))
    (h : startsWord (c :: w) = true) : s.readToken = s.readPlain := by
  have hpeek : s.cursor.peek = c := Cursor.peek_of_rest hs
  have hword := isWordChar_of_startsWord h
  have hpoint : c ≠ '.' := by
    rintro rfl
    exact absurd h (by simp [startsWord])
  have hsigns : c ∉ signs := by
    intro hmem
    have hall : ∀ d ∈ signs, Cursor.isWordChar d = false := forall_mem_of_all (by decide)
    rw [hall c hmem] at hword
    cases hword
  -- What else begins a token is no part of a word, apart from a point, which begins no word.
  have hothers : c ∉ ['\x00', '%', '.', '?', ':', '|', '>'] := by
    intro hmem
    have hall : ∀ d ∈ ['\x00', '%', '.', '?', ':', '|', '>'], d = '.' ∨ Cursor.isWordChar d = false :=
      forall_mem_of_all (by decide)
    rcases hall c hmem with rfl | hnot
    · exact hpoint rfl
    · rw [hnot] at hword
      cases hword
  rw [readToken_of_noSign hpeek hsigns hothers (peekAt_of_startsWord hs h),
    startsPlain_of_startsWord hs h, if_pos rfl]

/-- A character of a word is not skipped between tokens. -/
theorem startsToken_of_isWordChar {c : Char} (h : Cursor.isWordChar c = true) :
    startsToken c = true := by
  have hbreak := Cursor.isBreak_of_isGap (Cursor.isGap_of_isWordChar h)
  have hspace : c ≠ ' ' := Cursor.ne_of_isWordChar h (by decide)
  have hcomment : c ≠ '#' := Cursor.ne_of_isWordChar h (by decide)
  have hmark : c ≠ '\uFEFF' := Cursor.ne_of_isWordChar h (by decide)
  simp [startsToken, hspace, hcomment, hmark, hbreak]

/-- A plain scalar is one token, behind whatever becomes of the possible keys. -/
theorem readPlain_of_takePlain? {keys : List (Int × PossibleKey)} {scalar : Cursor.PlainScalar}
    (hremember : s.rememberKey = .ok { s with possibleKeys := keys })
    (htake : s.cursor.takePlain? s.inFlow (s.indent + 1) (s.cursor.rest.length + 1) = some scalar) :
    s.readPlain = .ok
      { s with
        possibleKeys := keys
        pending := s.pending ++
          [⟨.scalar (.ofChars scalar.content) true, s.cursor.position, scalar.stop⟩]
        cursor := scalar.after
        keyAllowed := scalar.crossesLine } := by
  have htake' : Cursor.takePlain? (inFlow { s with possibleKeys := keys }) (s.indent + 1)
      (s.cursor.rest.length + 1) s.cursor = some scalar := htake
  unfold readPlain
  rw [hremember]
  dsimp only [bind, Except.bind]
  rw [htake']
  rfl

/-- A word that is a plain scalar, behind blanks and with blanks behind it. -/
theorem Sound.exists_word (h : s.Sound) (hs : s.cursor.rest = v ++ (w ++ (b ++ rest)))
    (hv : Cursor.AreBlank v) (hw : ∀ c ∈ w, Cursor.isWordChar c = true)
    (hstart : startsWord w = true) (hb : Cursor.AreBlank b)
    (hrest : rest.headD '\x00' ∈ Cursor.wordStops)
    (hflow : s.inFlow = false → rest.headD '\x00' ∈ ['\x00', '\t']) :
    ∃ s', s.Reads [.scalar (.ofChars w) true] s' ∧ s'.Sound ∧ s'.cursor.rest = rest ∧
      s'.flowLevel = s.flowLevel := by
  obtain ⟨c, w, rfl⟩ : ∃ c u, w = c :: u := by
    cases w with
    | nil => cases hstart
    | cons c w => exact ⟨c, w, rfl⟩
  have htoken := startsToken_of_isWordChar (hw c (List.mem_cons_self ..))
  refine h.exists_reads fun s₁ h₁ hcursor hlevel _ => ?_
  rw [← hcursor] at hs
  obtain ⟨s₂, hadvance, hat, hrest₂⟩ := h₁.exists_atToken hs hv htoken
  obtain ⟨keys, hremember, hsound, -⟩ := hat.sound.exists_rememberKey
  have hinside : s₂.inFlow = s.inFlow := by
    unfold inFlow
    rw [hat.flowLevel, hlevel]
  rw [← hinside] at hflow
  obtain ⟨scalar, htake, hcontent, hpasses, hafter⟩ :=
    Cursor.takePlain?_word s₂.cursor.rest.length (s₂.indent + 1) hrest₂ hw
      (List.cons_ne_nil _ _) hb hrest hflow
  have hread := readPlain_of_takePlain? hremember htake
  have htoken := readToken_of_startsWord hrest₂ hstart
  refine ⟨_, (hadvance.trans htoken).trans hread, ?_, ?_, ?_, hafter, ?_⟩
  · -- The word has a character at least, so less is left than before.
    refine Nat.lt_of_lt_of_le ?_ (hat.weight_le h₁)
    have hlength := congrArg List.length hpasses.rest_eq
    unfold weight
    rw [hlength]
    simp only [List.length_append, List.length_cons, List.length_nil]
    omega
  · show (s₂.pending ++ _).map Token.lexeme = _
    rw [hat.pending, List.map_append, hcontent]
    rfl
  · exact ⟨hsound.finished, hsound.indent, hsound.outerIndents, hsound.notRequired,
      hsound.taken_le⟩
  · show s₂.flowLevel = _
    rw [hat.flowLevel, hlevel]

end Lexer

end TermAudit.Yaml
