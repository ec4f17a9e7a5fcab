import TermAudit.Proofs.Json.Keys
import TermAudit.Proofs.Yaml.Plain

/-!
# `TermAudit.Proofs.Json.Tokens`: the tokens of a JSON text

`Document.lexemes` lists the tokens that a JSON text spells. A key that does not fit lacks the token
in front of it. `Document.tokens` is the main theorem: the tokens of the text are these, or else the
text is not scannable, and a fault ends them before.

The proof follows the tree. White space is read together with what comes behind it, and white space
behind a plain scalar partly with the scalar, so what is left of it then is a gap again.
-/

set_option autoImplicit false

namespace TermAudit.JsonText

open Yaml (Cursor Lexer Lexeme Token Tokens Fault PossibleKey)

/-! ## Lexemes -/

mutual

/-- The tokens of a value. Strings are quoted scalars, and all other words plain ones, whose meaning is
decided when values are made. -/
def Tree.lexemes : Tree → List Lexeme
  | .null => [.scalar (.ofChars "null".toList) true]
  | .bool true => [.scalar (.ofChars "true".toList) true]
  | .bool false => [.scalar (.ofChars "false".toList) true]
  | .number n => [.scalar (.ofChars n.chars) true]
  | .string s => [.scalar (JsonString.reading s) false]
  | .emptyArray _ => [.flowSequenceStart, .flowSequenceEnd]
  | .array items => .flowSequenceStart :: items.lexemes ++ [.flowSequenceEnd]
  | .emptyObject _ => [.flowMappingStart, .flowMappingEnd]
  | .object members => .flowMappingStart :: members.lexemes ++ [.flowMappingEnd]

/-- The tokens of items. -/
def Items.lexemes : Items → List Lexeme
  | .last _ item _ => item.lexemes
  | .more _ item _ rest => item.lexemes ++ .flowEntry :: rest.lexemes

/-- The tokens of members. A comma is a token of its own, and so is the colon, which comes with its
key. -/
def Members.lexemes : Members → List Lexeme
  | .last _ key behindKey _ item _ => keyLexemes key behindKey ++ item.lexemes
  | .more _ key behindKey _ item _ rest =>
    keyLexemes key behindKey ++ item.lexemes ++ .flowEntry :: rest.lexemes

end

/-- The tokens of a document, up to the one that ends the stream. White space has none. -/
def Document.lexemes (d : Document) : List Lexeme :=
  d.root.lexemes ++ [.streamEnd]

/-! ## Words -/

/-- A digit is a letter or a digit, which a word may begin with. -/
theorem isAlphanum_digitChar (d : Fin 10) : (digitChar d).isAlphanum = true := by
  revert d
  decide

/-- The characters that numbers are made of. -/
def numberChars : List Char :=
  ['+', '-', '.', 'E', 'e', '0', '1', '2', '3', '4', '5', '6', '7', '8', '9']

/-- Digits are characters of numbers. -/
theorem digits_subset_numberChars (ds : List (Fin 10)) : ds.map digitChar ⊆ numberChars := by
  intro c hc
  obtain ⟨d, -, rfl⟩ := List.mem_map.mp hc
  exact (by decide : ∀ d : Fin 10, digitChar d ∈ numberChars) d

namespace Number

/-- A fraction has a point and digits, if there is one. -/
theorem fractionChars_subset (f : Option Digits) : fractionChars f ⊆ numberChars := by
  cases f with
  | none => exact List.nil_subset _
  | some d => exact List.cons_subset.mpr ⟨by decide, digits_subset_numberChars _⟩

/-- An exponent has a letter, a sign perhaps, and digits, if there is one. -/
theorem exponentChars_subset (e : Option Exponent) : exponentChars e ⊆ numberChars := by
  cases e with
  | none => exact List.nil_subset _
  | some e =>
    obtain ⟨capital, minus, digits⟩ := e
    refine List.cons_subset.mpr ⟨?_, List.append_subset.mpr ⟨?_, digits_subset_numberChars _⟩⟩
    · cases capital
      · exact (by decide : 'e' ∈ numberChars)
      · exact (by decide : 'E' ∈ numberChars)
    · rcases minus with _ | _ | _
      · exact List.nil_subset _
      · exact (by decide : ['+'] ⊆ numberChars)
      · exact (by decide : ['-'] ⊆ numberChars)

/-- A number without its sign. The sign is one character, and what follows it is read in the same way with
and without it. -/
def unsigned (n : Number) : List Char :=
  n.whole.chars ++ (fractionChars n.fraction ++ exponentChars n.exponent)

/-- A number is its sign and what is behind it. -/
theorem chars_eq (n : Number) : n.chars = (if n.negative then ['-'] else []) ++ n.unsigned := by
  unfold chars unsigned
  simp only [List.append_assoc]

/-- Behind the sign there are characters of numbers alone. -/
theorem unsigned_subset (n : Number) : n.unsigned ⊆ numberChars :=
  List.append_subset.mpr ⟨digits_subset_numberChars _,
    List.append_subset.mpr ⟨fractionChars_subset _, exponentChars_subset _⟩⟩

/-- A number has characters of numbers alone, its sign being one. -/
theorem chars_subset (n : Number) : n.chars ⊆ numberChars := by
  rw [chars_eq]
  refine List.append_subset.mpr ⟨?_, n.unsigned_subset⟩
  cases n.negative
  · decide
  · decide

/-- A number is a word. -/
theorem isWordChar_of_mem {n : Number} {c : Char} (h : c ∈ n.chars) :
    Cursor.isWordChar c = true :=
  forall_mem_of_all (p := fun c => Cursor.isWordChar c = true) (by decide) c (n.chars_subset h)

end Number

/-- A number begins like a word: with a digit, or with a minus in front of one. A scanner would take a minus
in front of a gap for an item. -/
theorem Number.startsWord_chars (n : Number) : Lexer.startsWord n.chars = true := by
  have hfirst := isAlphanum_digitChar n.whole.first
  unfold chars Digits.chars Digits.all
  cases n.negative with
  | true => exact hfirst
  | false =>
    show Lexer.startsWord (digitChar n.whole.first :: _) = true
    have hne : digitChar n.whole.first ≠ '-' := by
      intro heq
      rw [heq] at hfirst
      exact absurd hfirst (by decide)
    -- A digit is no minus, so the first case cannot be the one that applies.
    unfold Lexer.startsWord
    split
    · rename_i heq
      exact absurd (List.cons.inj heq).1 hne
    · rename_i heq
      rw [← (List.cons.inj heq).1]
      exact hfirst
    · rename_i heq
      cases heq

/-! ## Trees -/

variable {s : Lexer} {rest : List Char}

/-- The lexemes are read, which ends at the flow level, or else there is a fault before. The two cases
exclude each other, as a text is scannable or it is not. So what is proved is what happens for every
text. -/
def Outcome (s : Lexer) (lexemes : List Lexeme) (scannable : Bool) (level : Int)
    (P : Lexer → Prop) : Prop :=
  (scannable = true ∧ ∃ s', s.Reads lexemes s' ∧ s'.Sound ∧ s'.flowLevel = level ∧ P s') ∨
  (scannable = false ∧ s.Fails lexemes)

/-- What is left are white space, without tabs exactly if `tabless`, and the characters `rest`. White
space behind a plain scalar is partly read with it, so a statement about what is left must leave open how
much there is. -/
def HasLeft (tabless : Bool) (rest : List Char) (s : Lexer) : Prop :=
  ∃ g, s.cursor.rest = gapChars g ++ rest ∧ isTabless g = tabless

/-- One part is read and then another. -/
theorem Outcome.bind {lexemes lexemes' : List Lexeme} {scannable scannable' : Bool}
    {level level' : Int} {P P' : Lexer → Prop} (h : Outcome s lexemes scannable level P)
    (h' : ∀ s', s'.Sound → s'.flowLevel = level → P s' →
      Outcome s' lexemes' scannable' level' P') :
    Outcome s (lexemes ++ lexemes') (scannable && scannable') level' P' := by
  rcases h with ⟨rfl, s₁, hreads, hsound, hlevel, hP⟩ | ⟨rfl, hfails⟩
  · rw [Bool.true_and]
    rcases h' s₁ hsound hlevel hP with ⟨rfl, s₂, hreads', hrest⟩ | ⟨rfl, hfails⟩
    · exact Or.inl ⟨rfl, s₂, hreads.trans hreads', hrest⟩
    · exact Or.inr ⟨rfl, hreads.fails hfails⟩
  · exact Or.inr ⟨rfl, hfails.append lexemes'⟩

/-- An outcome may be stated in other words: with lexemes and levels that are equal to those proved, and
less of the state behind them. -/
theorem Outcome.of_eq {lexemes lexemes' : List Lexeme} {scannable scannable' : Bool}
    {level level' : Int} {P P' : Lexer → Prop} (h : Outcome s lexemes scannable level P)
    (hlexemes : lexemes = lexemes') (hscannable : scannable = scannable') (hlevel : level = level')
    (hP : ∀ s', P s' → P' s') : Outcome s lexemes' scannable' level' P' := by
  subst hlexemes hscannable hlevel
  rcases h with ⟨hyes, s', hreads, hsound, hlevel, hs'⟩ | hno
  · exact Or.inl ⟨hyes, s', hreads, hsound, hlevel, hP s' hs'⟩
  · exact Or.inr hno

/-- Nothing is read behind a tab. -/
theorem outcome_of_gap {b : Gap} {lexemes : List Lexeme} {scannable : Bool} {level : Int}
    {P : Lexer → Prop} {cs : List Char} (h : s.Sound) (hs : s.cursor.rest = gapChars b ++ cs)
    (htabless : isTabless b = true → Outcome s lexemes scannable level P) :
    Outcome s lexemes (isTabless b && scannable) level P := by
  rcases isTabless_or b with hb | ⟨v, u, rfl, hv⟩
  · rw [hb, Bool.true_and]
    exact htabless hb
  · rw [isTabless_tab, Bool.false_and]
    rw [gapChars_append, List.append_assoc] at hs
    exact Or.inr ⟨rfl, h.fails_tab hs (areBlank_gapChars hv) lexemes⟩

/-- A word, and a part of the white space behind it. -/
theorem outcome_of_word {b g : Gap} {w : List Char} (h : s.Sound)
    (hs : s.cursor.rest = gapChars b ++ (w ++ (gapChars g ++ rest))) (hb : isTabless b = true)
    (hw : ∀ c ∈ w, Cursor.isWordChar c = true) (hstart : Lexer.startsWord w = true)
    (hrest : rest.headD '\x00' ∈ Cursor.wordStops) (hflow : s.inFlow = false → rest = []) :
    Outcome s [.scalar (.ofChars w) true] true s.flowLevel (HasLeft (isTabless g) rest) := by
  rcases isTabless_or g with hg | ⟨v, u, rfl, hv⟩
  · have hends : s.inFlow = false → rest.headD '\x00' ∈ ['\x00', '\t'] := by
      intro hout
      rw [hflow hout]
      exact List.mem_cons_self ..
    obtain ⟨s', hreads, hsound, hleft, hlevel⟩ := h.exists_word hs (areBlank_gapChars hb) hw hstart
      (areBlank_gapChars hg) hrest hends
    exact Or.inl ⟨rfl, s', hreads, hsound, hlevel, [], hleft, hg.symm⟩
  · rw [gapChars_append, List.append_assoc] at hs
    have htab : (gapChars (.tab :: u) ++ rest).headD '\x00' = '\t' := rfl
    obtain ⟨s', hreads, hsound, hleft, hlevel⟩ := h.exists_word hs (areBlank_gapChars hb) hw hstart
      (areBlank_gapChars hv) (by rw [htab]; decide) fun _ => by rw [htab]; decide
    refine Or.inl ⟨rfl, s', hreads, hsound, hlevel, .tab :: u, hleft, ?_⟩
    rw [isTabless_tab]
    rfl

/-- A string that is no key. -/
theorem outcome_of_string {b g : Gap} {str : JsonString} (h : s.Sound)
    (hs : s.cursor.rest = gapChars b ++ (JsonString.chars str ++ (gapChars g ++ rest)))
    (hb : isTabless b = true) :
    Outcome s [.scalar (JsonString.reading str) false] (JsonString.isScannable str) s.flowLevel
      (HasLeft (isTabless g) rest) := by
  cases hscan : JsonString.isScannable str with
  | true =>
    obtain ⟨s', hreads, hsound, hleft, hlevel⟩ := exists_string h hs (areBlank_gapChars hb) hscan
    exact Or.inl ⟨rfl, s', hreads, hsound, hlevel, g, hleft, rfl⟩
  | false => exact Or.inr ⟨rfl, fails_string h hs (areBlank_gapChars hb) hscan _⟩

/-- An opening mark. -/
theorem outcome_of_flowStart {b : Gap} {c : Char} {lexeme : Lexeme} (h : s.Sound)
    (hc : Lexer.OpeningMark c lexeme) (hs : s.cursor.rest = gapChars b ++ c :: rest)
    (hb : isTabless b = true) :
    Outcome s [lexeme] true (s.flowLevel + 1) fun s' =>
      s'.cursor.rest = rest ∧ s'.keyAllowed = true := by
  obtain ⟨s', hreads, hsound, hrest, hlevel, hallowed⟩ :=
    h.exists_flowStart hc hs (areBlank_gapChars hb)
  exact Or.inl ⟨rfl, s', hreads, hsound, hlevel, hrest, hallowed⟩

/-- A closing mark behind white space. -/
theorem outcome_of_flowEnd {c : Char} {lexeme : Lexeme} {tabless : Bool} (h : s.Sound)
    (hc : Lexer.ClosingMark c lexeme) (hleft : HasLeft tabless (c :: rest) s) :
    Outcome s [lexeme] tabless (s.flowLevel - 1) fun s' => s'.cursor.rest = rest := by
  obtain ⟨g, hs, rfl⟩ := hleft
  rcases isTabless_or g with hg | ⟨v, u, rfl, hv⟩
  · obtain ⟨s', hreads, hsound, hrest, hlevel, -⟩ := h.exists_flowEnd hc hs (areBlank_gapChars hg)
    exact Or.inl ⟨hg, s', hreads, hsound, hlevel, hrest⟩
  · rw [gapChars_append, List.append_assoc] at hs
    exact Or.inr ⟨isTabless_tab v u, h.fails_tab hs (areBlank_gapChars hv) _⟩

/-- A comma behind white space. -/
theorem outcome_of_flowEntry {tabless : Bool} (h : s.Sound) (hleft : HasLeft tabless (',' :: rest) s) :
    Outcome s [.flowEntry] tabless s.flowLevel fun s' =>
      s'.cursor.rest = rest ∧ s'.keyAllowed = true := by
  obtain ⟨g, hs, rfl⟩ := hleft
  rcases isTabless_or g with hg | ⟨v, u, rfl, hv⟩
  · obtain ⟨s', hreads, hsound, hrest, hlevel, hallowed⟩ :=
      h.exists_flowEntry hs (areBlank_gapChars hg)
    exact Or.inl ⟨hg, s', hreads, hsound, hlevel, hrest, hallowed⟩
  · rw [gapChars_append, List.append_assoc] at hs
    exact Or.inr ⟨isTabless_tab v u, h.fails_tab hs (areBlank_gapChars hv) _⟩

/-- A key with its colon. -/
theorem outcome_of_key {b g : Gap} {key : JsonString} (h : s.Sound) (hflow : s.inFlow = true)
    (hallowed : s.keyAllowed = true)
    (hs : s.cursor.rest = gapChars b ++ (JsonString.chars key ++ (gapChars g ++ ':' :: rest))) :
    Outcome s (keyLexemes key g) (isTabless b && (JsonString.isScannable key && isTabless g))
      s.flowLevel fun s' => s'.cursor.rest = rest := by
  refine outcome_of_gap h hs fun hb => ?_
  have hblank := areBlank_gapChars hb
  -- Where the key is broken the reading fails in it; else the white space in front of the colon decides.
  cases hscan : JsonString.isScannable key with
  | false => exact Or.inr ⟨rfl, fails_string h hs hblank hscan _⟩
  | true =>
    rw [Bool.true_and]
    rcases isTabless_or g with hg | ⟨v, u, rfl, hv⟩
    · obtain ⟨s', hreads, hsound, hrest, hlevel⟩ := exists_key h hflow hallowed hs hblank hscan hg
      exact Or.inl ⟨hg, s', hreads, hsound, hlevel, hrest⟩
    · exact Or.inr ⟨isTabless_tab v u, fails_key h hallowed hs hblank hscan hv⟩

/-- Where a flow collection is open the scanner is inside of one. -/
theorem inFlow_of_pos (h : 0 < s.flowLevel) : s.inFlow = true := by
  unfold Lexer.inFlow
  rw [bne_iff_ne]
  omega

/-- The marks behind an item end the blanks behind a word. -/
theorem mem_wordStops : ',' ∈ Cursor.wordStops ∧ ']' ∈ Cursor.wordStops ∧ '\x7d' ∈ Cursor.wordStops := by
  decide

mutual

/-- The tokens of a value behind white space. -/
theorem Tree.outcome (t : Tree) {s : Lexer} {b g : Gap} {rest : List Char} (h : s.Sound)
    (hlevel : 0 ≤ s.flowLevel)
    (hs : s.cursor.rest = gapChars b ++ (t.chars ++ (gapChars g ++ rest)))
    (hrest : rest.headD '\x00' ∈ Cursor.wordStops) (hflow : s.inFlow = false → rest = []) :
    Outcome s t.lexemes (isTabless b && t.isScannable) s.flowLevel (HasLeft (isTabless g) rest) := by
  refine outcome_of_gap h hs fun hb => ?_
  have hleft (s' : Lexer) (hs' : s'.cursor.rest = gapChars g ++ rest) :
      HasLeft (isTabless g) rest s' := ⟨g, hs', rfl⟩
  -- A word ends where the stop behind it begins, so the scalars need `hrest`; the others end with a
  -- character of their own, and what stands behind them does not matter.
  match t with
  | .null => exact outcome_of_word h hs hb (forall_mem_of_all (by decide)) (by decide) hrest hflow
  | .bool true => exact outcome_of_word h hs hb (forall_mem_of_all (by decide)) (by decide) hrest hflow
  | .bool false => exact outcome_of_word h hs hb (forall_mem_of_all (by decide)) (by decide) hrest hflow
  | .number n =>
    exact outcome_of_word h hs hb (fun c hc => n.isWordChar_of_mem hc) n.startsWord_chars hrest hflow
  | .string str => exact outcome_of_string h hs hb
  | .emptyArray inside =>
    have hs : s.cursor.rest =
        gapChars b ++ '[' :: (gapChars inside ++ ']' :: (gapChars g ++ rest)) := by
      rw [hs, Tree.chars]
      simp
    refine (outcome_of_flowStart h .bracket hs hb).bind fun s₁ h₁ hlevel₁ hs₁ => ?_
    exact (outcome_of_flowEnd h₁ .bracket ⟨inside, hs₁.1, rfl⟩).of_eq rfl rfl (by omega) hleft
  | .array items =>
    have hs : s.cursor.rest = gapChars b ++ '[' :: (items.chars ++ ']' :: (gapChars g ++ rest)) := by
      rw [hs, Tree.chars]
      simp
    refine (outcome_of_flowStart h .bracket hs hb).bind fun s₁ h₁ hlevel₁ hs₁ => ?_
    exact (items.outcome h₁ (by omega) hs₁.1).of_eq rfl rfl (by omega) hleft
  | .emptyObject inside =>
    have hs : s.cursor.rest =
        gapChars b ++ '\x7b' :: (gapChars inside ++ '\x7d' :: (gapChars g ++ rest)) := by
      rw [hs, Tree.chars]
      simp
    refine (outcome_of_flowStart h .brace hs hb).bind fun s₁ h₁ hlevel₁ hs₁ => ?_
    exact (outcome_of_flowEnd h₁ .brace ⟨inside, hs₁.1, rfl⟩).of_eq rfl rfl (by omega) hleft
  | .object members =>
    have hs : s.cursor.rest =
        gapChars b ++ '\x7b' :: (members.chars ++ '\x7d' :: (gapChars g ++ rest)) := by
      rw [hs, Tree.chars]
      simp
    refine (outcome_of_flowStart h .brace hs hb).bind fun s₁ h₁ hlevel₁ hs₁ => ?_
    exact (members.outcome h₁ (by omega) hs₁.2 hs₁.1).of_eq rfl rfl (by omega) hleft

/-- The tokens of items and the bracket behind them. -/
theorem Items.outcome (items : Items) {s : Lexer} {rest : List Char} (h : s.Sound)
    (hlevel : 0 < s.flowLevel) (hs : s.cursor.rest = items.chars ++ ']' :: rest) :
    Outcome s (items.lexemes ++ [.flowSequenceEnd]) items.isScannable (s.flowLevel - 1)
      fun s' => s'.cursor.rest = rest := by
  have hinside := inFlow_of_pos hlevel
  have hflow (cs : List Char) (hout : s.inFlow = false) : cs = [] := by
    rw [hinside] at hout
    cases hout
  match items with
  | .last before item after =>
    have hs : s.cursor.rest = gapChars before ++ (item.chars ++ (gapChars after ++ ']' :: rest)) := by
      rw [hs, Items.chars]
      simp
    refine (item.outcome h (Int.le_of_lt hlevel) hs mem_wordStops.2.1 (hflow _)).bind
      fun s₁ h₁ hlevel₁ hs₁ => ?_
    exact (outcome_of_flowEnd h₁ .bracket hs₁).of_eq rfl rfl (by omega) fun _ => id
  | .more before item after more =>
    have hs : s.cursor.rest =
        gapChars before ++ (item.chars ++ (gapChars after ++ ',' :: (more.chars ++ ']' :: rest))) := by
      rw [hs, Items.chars]
      simp
    -- The item, the comma and the other items, each from where the one before left the reading.
    have hall := ((item.outcome h (Int.le_of_lt hlevel) hs mem_wordStops.1 (hflow _)).bind
      fun s₁ h₁ hlevel₁ hs₁ => (outcome_of_flowEntry h₁ hs₁).of_eq rfl rfl hlevel₁ fun _ => id).bind
      fun s₂ h₂ hlevel₂ hs₂ =>
        (more.outcome h₂ (by omega) hs₂.1).of_eq rfl rfl
          (by omega : s₂.flowLevel - 1 = s.flowLevel - 1) fun _ => id
    refine hall.of_eq ?_ rfl rfl fun _ => id
    rw [Items.lexemes]
    simp

/-- The tokens of members and the brace behind them. -/
theorem Members.outcome (members : Members) {s : Lexer} {rest : List Char} (h : s.Sound)
    (hlevel : 0 < s.flowLevel) (hallowed : s.keyAllowed = true)
    (hs : s.cursor.rest = members.chars ++ '\x7d' :: rest) :
    Outcome s (members.lexemes ++ [.flowMappingEnd]) members.isScannable (s.flowLevel - 1)
      fun s' => s'.cursor.rest = rest := by
  have hinside := inFlow_of_pos hlevel
  match members with
  | .last before key behindKey behindColon item after =>
    have hs : s.cursor.rest = gapChars before ++ (JsonString.chars key ++ (gapChars behindKey ++
        ':' :: (gapChars behindColon ++ (item.chars ++ (gapChars after ++ '\x7d' :: rest))))) := by
      rw [hs, Members.chars]
      simp
    -- Outside the key the value stands in the braces, so the text behind it is never asked to be empty.
    have hall := ((outcome_of_key h hinside hallowed hs).bind fun s₁ h₁ hlevel₁ hs₁ =>
      (item.outcome h₁ (by omega) hs₁ mem_wordStops.2.2 fun hout => by
        rw [inFlow_of_pos (by omega)] at hout
        cases hout).of_eq rfl rfl hlevel₁ fun _ => id).bind fun s₂ h₂ hlevel₂ hs₂ =>
      (outcome_of_flowEnd h₂ .brace hs₂).of_eq rfl rfl
        (by omega : s₂.flowLevel - 1 = s.flowLevel - 1) fun _ => id
    refine hall.of_eq ?_ ?_ rfl fun _ => id
    · rw [Members.lexemes]
    · rw [Members.isScannable]
      simp only [Bool.and_assoc]
  | .more before key behindKey behindColon item after more =>
    have hs : s.cursor.rest = gapChars before ++ (JsonString.chars key ++ (gapChars behindKey ++
        ':' :: (gapChars behindColon ++ (item.chars ++ (gapChars after ++
          ',' :: (more.chars ++ '\x7d' :: rest)))))) := by
      rw [hs, Members.chars]
      simp
    have hall := (((outcome_of_key h hinside hallowed hs).bind fun s₁ h₁ hlevel₁ hs₁ =>
      (item.outcome h₁ (by omega) hs₁ mem_wordStops.1 fun hout => by
        rw [inFlow_of_pos (by omega)] at hout
        cases hout).of_eq rfl rfl hlevel₁ fun _ => id).bind fun s₂ h₂ hlevel₂ hs₂ =>
      (outcome_of_flowEntry h₂ hs₂).of_eq rfl rfl hlevel₂ fun _ => id).bind fun s₃ h₃ hlevel₃ hs₃ =>
      (more.outcome h₃ (by omega) hs₃.2 hs₃.1).of_eq rfl rfl
        (by omega : s₃.flowLevel - 1 = s.flowLevel - 1) fun _ => id
    refine hall.of_eq ?_ ?_ rfl fun _ => id
    · rw [Members.lexemes]
      simp
    · rw [Members.isScannable]
      simp only [Bool.and_assoc]

end

/-! ## Documents -/

/-- Whether white space has no tabs and strings have no markers. The two gaps around the value count as
well. -/
def Document.isScannable (d : Document) : Bool :=
  isTabless d.before && d.root.isScannable && isTabless d.after

/-- The tokens of a JSON text are those that it spells, unless it is not scannable. Then a fault ends
them, and what is given out before is the start of what it spells. -/
theorem Document.tokens (d : Document) :
    (d.isScannable = true ∧ (Tokens.ofChars d.chars).Spells d.lexemes) ∨
    (d.isScannable = false ∧ (Tokens.ofChars d.chars).Breaks d.root.lexemes) := by
  have hs : (Lexer.start d.chars).cursor.rest =
      gapChars d.before ++ (d.root.chars ++ (gapChars d.after ++ [])) := by
    show d.chars = _
    rw [chars, List.append_nil, List.append_assoc]
  unfold isScannable lexemes
  rcases d.root.outcome (Tokens.sound_start _) (Int.le_refl 0) hs (by decide) (fun _ => rfl) with
    ⟨hroot, s, hreads, hsound, -, g, hleft, hg⟩ | ⟨hroot, hfails⟩
  · rw [hroot, Bool.true_and, ← hg]
    rw [List.append_nil] at hleft
    -- There may still be white space behind the root, and a tab in it ends the tokens with a fault.
    rcases isTabless_or g with hblank | ⟨v, u, rfl, hv⟩
    · obtain ⟨s', hend, hfinished⟩ := hsound.exists_end hleft (areBlank_gapChars hblank)
      exact Or.inl ⟨hblank, Tokens.spells_of_reads (hreads.trans hend) hfinished⟩
    · rw [gapChars_append] at hleft
      have hfails := hreads.fails (hsound.fails_tab hleft (areBlank_gapChars hv) [])
      rw [List.append_nil] at hfails
      exact Or.inr ⟨isTabless_tab v u, Tokens.breaks_of_fails hfails⟩
  · rw [hroot, Bool.false_and]
    exact Or.inr ⟨rfl, Tokens.breaks_of_fails hfails⟩

end TermAudit.JsonText
