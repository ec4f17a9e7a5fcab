import Mathlib.Data.List.TakeDrop
import TermAudit.Proofs.Json.Tokens
import TermAudit.Proofs.Result
import TermAudit.Proofs.Yaml.Values

/-!
# `TermAudit.Proofs.Json.Numbers`: the scalars of plain words

The plain scalars of a JSON text are `null`, `true`, `false` and its numbers. What they are read as is
decided twice: by the forms of YAML, which give a word its tag, and by the readers of integers and of
floating-point numbers. `Number.shows_reading` puts both together.
-/

set_option autoImplicit false

namespace TermAudit.JsonText

open Yaml (Tag Graph NodeId Fault)

/-- Every character is a code point that is a character. -/
theorem toChar?_ofChar (c : Char) : (CodePoint.ofChar c).toChar? = some c := by
  unfold CodePoint.toChar?
  rw [dif_pos (show (CodePoint.ofChar c).val.isValidChar from c.valid)]
  rfl

/-- So characters survive as a text. -/
theorem characters_ofChars (cs : List Char) : (Text.ofChars cs).characters = cs := by
  unfold Text.characters Text.ofChars
  rw [List.map_map]
  have heach : ∀ c ∈ cs, ((fun c : CodePoint => c.toChar?.getD '\uFFFD') ∘ CodePoint.ofChar) c = c := by
    intro c _
    show (CodePoint.ofChar c).toChar?.getD '\uFFFD' = c
    rw [toChar?_ofChar]
    rfl
  rw [List.map_congr_left heach, List.map_id']

/-! ## Digits -/

/-- Digits as a text. -/
def digitsText (ds : List (Fin 10)) : Text :=
  .ofChars (ds.map digitChar)

/-- Digits behind others count for one decimal place more each. -/
theorem foldlM_digitsText (ds : List (Fin 10)) (n : Nat) : (digitsText ds).foldlM (fun n c => do
    let d ← CodePoint.digitValue? c
    if d < 10 then some (n * 10 + d) else none) n =
    some (ds.foldl (fun (n : Nat) d => n * 10 + d.val) n) := by
  induction ds generalizing n with
  | nil => rfl
  | cons d ds ih =>
    have hd : (CodePoint.ofChar (digitChar d)).digitValue? = some d.val :=
      (by decide : ∀ d : Fin 10, (CodePoint.ofChar (digitChar d)).digitValue? = some d.val) d
    show List.foldlM _ n (CodePoint.ofChar (digitChar d) :: digitsText ds) = _
    rw [List.foldlM_cons, hd]
    show (if d.val < 10 then some (n * 10 + d.val) else none) >>= _ = _
    rw [if_pos d.isLt]
    exact ih _

/-- Written digits have the value that they have in base ten. -/
theorem digits?_digitsText {ds : List (Fin 10)} (h : ds ≠ []) :
    (digitsText ds).digits? 10 = some (decimalValue ds) := by
  cases ds with
  | nil => exact absurd rfl h
  | cons d ds => exact foldlM_digitsText (d :: ds) 0

/-- The characters of a number are no white space, and its digits those of ASCII. -/
theorem signed_ofChars {cs : List Char} (h : cs ⊆ numberChars) :
    (Text.ofChars cs).signed = Text.takeSign (.ofChars cs) := by
  have hall : ∀ c ∈ numberChars, Text.isNumberBlank (.ofChar c) = false ∧
      (CodePoint.ofChar c).toAsciiDigit = .ofChar c := forall_mem_of_all (by decide)
  have hmem (c : CodePoint) (hc : c ∈ Text.ofChars cs) :
      Text.isNumberBlank c = false ∧ c.toAsciiDigit = c := by
    obtain ⟨char, hchar, rfl⟩ := List.mem_map.mp hc
    exact hall char (h hchar)
  -- A text without blanks is stripped of nothing.
  have hdrop (t : Text) (ht : ∀ c ∈ t, Text.isNumberBlank c = false) :
      t.dropWhile Text.isNumberBlank = t := by
    cases t with
    | nil => rfl
    | cons c t => rw [List.dropWhile_cons, if_neg (by rw [ht c (List.mem_cons_self ..)]; simp)]
  unfold Text.signed Text.stripBy
  rw [hdrop _ fun c hc => (hmem c hc).1,
    hdrop _ fun c hc => (hmem c (List.mem_reverse.mp hc)).1, List.reverse_reverse,
    List.map_congr_left fun c hc => (hmem c hc).2, List.map_id']

/-- A digit is no sign, so nothing is taken off. -/
theorem takeSign_of_digit {d : Fin 10} {t : Text} :
    Text.takeSign (.ofChar (digitChar d) :: t) = (false, .ofChar (digitChar d) :: t) := by
  have hd : CodePoint.ofChar (digitChar d) ≠ '-' ∧ CodePoint.ofChar (digitChar d) ≠ '+' :=
    (by decide : ∀ d : Fin 10,
      CodePoint.ofChar (digitChar d) ≠ '-' ∧ CodePoint.ofChar (digitChar d) ≠ '+') d
  unfold Text.takeSign
  dsimp only
  rw [if_neg hd.1, if_neg hd.2]

/-- Digits are read as the integer that they denote, unless they are too many. -/
theorem toInt?_digitsText {d : Digits} (h : d.all.length ≤ maxDecimalDigits) :
    (digitsText d.all).toInt? 10 = some (decimalValue d.all : Int) := by
  have hsigned : (digitsText d.all).signed = (false, digitsText d.all) :=
    (signed_ofChars (digits_subset_numberChars _)).trans takeSign_of_digit
  -- In base ten no letter marks the base.
  have hmark : Text.dropBaseMark 10 (digitsText d.all) = digitsText d.all := by
    unfold Text.dropBaseMark
    split
    · exact if_neg fun hboth => absurd hboth.2 (by simp [Text.baseLetters])
    · rfl
  have hlength : ¬ ((10 : Nat) = 10 ∧ maxDecimalDigits < (digitsText d.all).length) := by
    unfold digitsText Text.ofChars
    rw [List.length_map, List.length_map]
    omega
  have hne : d.all ≠ [] := List.cons_ne_nil _ _
  unfold Text.toInt?
  rw [hsigned]
  dsimp only
  rw [hmark, if_neg hlength, digits?_digitsText hne]
  rfl

/-! ## Integers -/

namespace Number

/-- Of a number in JSON the sign is taken off, and the digits are left. The readers of integers and of
floating-point numbers both begin with this. -/
theorem takeNumberSign_ofChars (n : Number) :
    Yaml.takeNumberSign (.ofChars n.chars) = .ok (n.negative, .ofChars n.unsigned) := by
  have hno : ∀ c ∈ numberChars, CodePoint.ofChar c ≠ CodePoint.ofChar '_' :=
    forall_mem_of_all (by decide)
  -- A number has no underscore that would be dropped.
  have hfilter : (Text.ofChars n.chars).filter (fun c => decide (c ≠ CodePoint.ofChar '_')) =
      Text.ofChars n.chars := by
    rw [List.filter_eq_self]
    intro c hc
    obtain ⟨char, hchar, rfl⟩ := List.mem_map.mp hc
    exact decide_eq_true (hno char (n.chars_subset hchar))
  unfold Yaml.takeNumberSign
  rw [hfilter, chars_eq]
  cases n.negative with
  | true => rfl
  | false => exact congrArg Except.ok takeSign_of_digit

/-- No number has a colon. -/
theorem colon_not_mem {cs : List Char} (h : cs ⊆ numberChars) :
    CodePoint.ofChar ':' ∉ Text.ofChars cs := by
  have hno : ∀ c ∈ numberChars, CodePoint.ofChar c ≠ CodePoint.ofChar ':' :=
    forall_mem_of_all (by decide)
  intro hmem
  obtain ⟨c, hc, heq⟩ := List.mem_map.mp hmem
  exact hno c (h hc) heq

/-- An integer has neither a fraction nor an exponent, so it is its digits. -/
theorem ofChars_unsigned_of_isInteger {n : Number} (h : n.isInteger = true) :
    Text.ofChars n.unsigned = digitsText n.whole.all := by
  unfold isInteger at h
  rw [Bool.and_eq_true, Option.isNone_iff_eq_none, Option.isNone_iff_eq_none] at h
  unfold unsigned
  rw [h.1, h.2]
  show Text.ofChars (n.whole.chars ++ []) = _
  rw [List.append_nil]
  rfl

/-- An integer that can be written has no more digits than can be read. -/
theorem length_le_of_isInteger {n : Number} (h : n.isInteger = true) (hw : n.isWritable = true) :
    n.whole.all.length ≤ maxDecimalDigits := by
  unfold isWritable at hw
  rw [h] at hw
  exact of_decide_eq_true hw

/-- The digits of an integer are read in base ten: they begin with zero only if there is no other digit, so
no base of the older kind of YAML is meant. -/
theorem readMagnitude_of_integer {n : Number} (h : n.isInteger = true) (hw : n.isWritable = true) :
    Yaml.readMagnitude (.ofChars n.unsigned) = .ok (decimalValue n.whole.all : Int) := by
  have hcolon : CodePoint.ofChar ':' ∉ digitsText n.whole.all :=
    colon_not_mem (digits_subset_numberChars _)
  rw [ofChars_unsigned_of_isInteger h]
  by_cases hfirst : n.whole.first = 0
  · have hall : n.whole.all = [0] := by
      unfold Digits.all
      rw [n.noLeadingZero hfirst, hfirst]
    rw [hall]
    rfl
  · -- A further digit in front of the others would be a zero that marks a base.
    have hne : CodePoint.ofChar (digitChar n.whole.first) ≠ '0' :=
      (by decide : ∀ d : Fin 10, d ≠ 0 → CodePoint.ofChar (digitChar d) ≠ '0') _ hfirst
    have hcons : digitsText n.whole.all =
        .ofChar (digitChar n.whole.first) :: digitsText n.whole.rest := rfl
    have hzero : digitsText n.whole.all ≠ Text.ofString "0" := by
      rw [hcons]
      exact fun heq => hne (List.cons.inj heq).1
    have hstart (word : Text) (hword : word.head? = some (.ofChar '0')) :
        ¬ (digitsText n.whole.all).beginsWith word = true := by
      obtain ⟨more, rfl⟩ := List.head?_eq_some_iff.mp hword
      rw [hcons, Bool.not_eq_true]
      show (CodePoint.ofChar '0' == CodePoint.ofChar (digitChar n.whole.first) && _) = false
      rw [beq_false_of_ne (Ne.symm hne), Bool.false_and]
    have hread : Yaml.readIntIn 10 (digitsText n.whole.all) = .ok (decimalValue n.whole.all : Int) := by
      unfold Yaml.readIntIn
      rw [toInt?_digitsText (length_le_of_isInteger h hw)]
      rfl
    unfold Yaml.readMagnitude
    rw [hcons] at hzero hstart hcolon hread ⊢
    dsimp only
    rw [if_neg hzero, if_neg (hstart "0b" rfl), if_neg (hstart "0x" rfl), if_neg hne,
      if_neg hcolon, hread]

/-- An integer is read as one. -/
theorem readInt_eq {n : Number} (h : n.isInteger = true) (hw : n.isWritable = true) :
    Yaml.readInt (.ofChars n.chars) = .ok n.integer := by
  unfold Yaml.readInt
  rw [takeNumberSign_ofChars]
  show (Yaml.readMagnitude (.ofChars n.unsigned) >>= _) = _
  rw [readMagnitude_of_integer h hw]
  rfl

/-! ## Floating-point numbers -/

/-- Digits are taken up to what is none. -/
theorem spanDigits_digitsText (ds : List (Fin 10)) {t : Text}
    (ht : ∀ c, t.head? = some c → ¬ (0x30 ≤ c.val ∧ c.val ≤ 0x39)) :
    (digitsText ds ++ t).spanDigits = (digitsText ds, t) := by
  -- The span takes the digits alone: all of them pass, and what follows does not.
  have hds : ∀ c ∈ digitsText ds, (0x30 ≤ c.val && c.val ≤ 0x39) = true := by
    intro c hc
    obtain ⟨char, hchar, rfl⟩ := List.mem_map.mp hc
    obtain ⟨d, -, rfl⟩ := List.mem_map.mp hchar
    exact (by decide : ∀ d : Fin 10, (0x30 ≤ (CodePoint.ofChar (digitChar d)).val &&
      (CodePoint.ofChar (digitChar d)).val ≤ 0x39) = true) d
  unfold Text.spanDigits
  rw [List.span_eq_takeWhile_dropWhile, List.takeWhile_append_of_pos hds,
    List.dropWhile_append_of_pos hds]
  cases t with
  | nil => simp
  | cons c t =>
    have hc : (0x30 ≤ c.val && c.val ≤ 0x39) = false := by
      have hnot := ht c rfl
      simpa using hnot
    rw [List.takeWhile_cons, List.dropWhile_cons, hc]
    simp

/-- An exponent is read as what it stands for. -/
theorem exponent?_exponentChars (e : Option Exponent) :
    Text.exponent? (.ofChars (exponentChars e)) = some (match e with
      | none => 0
      | some e => e.value) := by
  cases e with
  | none => rfl
  | some e =>
    obtain ⟨capital, minus, digits⟩ := e
    have hmark : CodePoint.ofChar (if capital then 'E' else 'e') = 'e' ∨
        CodePoint.ofChar (if capital then 'E' else 'e') = 'E' := by
      cases capital
      · exact Or.inl rfl
      · exact Or.inr rfl
    -- A sign is taken off if there is one, and a digit is none.
    have hsign : Text.takeSign (.ofChars (Exponent.signChars minus ++ digits.chars)) =
        (decide (minus = some true), digitsText digits.all) := by
      rcases minus with _ | _ | _
      · exact takeSign_of_digit
      · rfl
      · rfl
    have hne : digits.all ≠ [] := List.cons_ne_nil _ _
    show Text.exponent? (.ofChar (if capital then 'E' else 'e') ::
      Text.ofChars (Exponent.signChars minus ++ digits.chars)) = _
    unfold Text.exponent?
    dsimp only
    rw [if_pos hmark, hsign]
    dsimp only
    rw [digits?_digitsText hne]
    unfold Exponent.value
    dsimp only
    -- What is left of the cases of the sign is whether it is a minus.
    cases hminus : decide (minus = some true) with
    | true =>
      rw [if_pos (of_decide_eq_true hminus)]
      rfl
    | false =>
      rw [if_neg (of_decide_eq_false hminus)]
      rfl

/-- Digits are written one by one. -/
theorem digitsText_append (ds ds' : List (Fin 10)) :
    digitsText (ds ++ ds') = digitsText ds ++ digitsText ds' := by
  unfold digitsText Text.ofChars
  rw [List.map_append, List.map_append]

/-- What an exponent begins with, if there is one. -/
theorem head?_exponentChars {e : Option Exponent} {c : CodePoint}
    (h : (Text.ofChars (exponentChars e)).head? = some c) : c = 'e' ∨ c = 'E' := by
  cases e with
  | none => cases h
  | some e =>
    obtain ⟨capital, minus, digits⟩ := e
    cases capital
    · exact Or.inl (Option.some.inj h).symm
    · exact Or.inr (Option.some.inj h).symm

/-- A number without its sign is its digits, its fraction and its exponent, each of which has a reader of
its own. -/
theorem ofChars_unsigned (n : Number) : Text.ofChars n.unsigned = digitsText n.whole.all ++
    (Text.ofChars (fractionChars n.fraction) ++ Text.ofChars (exponentChars n.exponent)) := by
  unfold unsigned Text.ofChars
  rw [List.map_append, List.map_append]
  rfl

/-- Where the exponent begins, or the number ends, the digits before it end and no point follows. -/
theorem not_digit_of_head?_exponentChars {e : Option Exponent} {c : CodePoint}
    (h : (Text.ofChars (exponentChars e)).head? = some c) :
    ¬ (0x30 ≤ c.val ∧ c.val ≤ 0x39) ∧ c ≠ '.' := by
  rcases head?_exponentChars h with rfl | rfl
  · decide
  · decide

/-- A number without a fraction: the point of the decimal is where the exponent puts it. -/
theorem toDecimal?_whole (whole : Digits) (e : Option Exponent) :
    (digitsText whole.all ++ Text.ofChars (exponentChars e)).toDecimal? =
      some ⟨decimalValue whole.all, match e with
        | none => 0
        | some e => e.value⟩ := by
  have hends := fun c hc => (not_digit_of_head?_exponentChars (e := e) (c := c) hc).1
  have hnoPoint := fun c hc => (not_digit_of_head?_exponentChars (e := e) (c := c) hc).2
  have hwhole : whole.all ≠ [] := List.cons_ne_nil _ _
  have hexponent := exponent?_exponentChars e
  unfold Text.toDecimal?
  rw [spanDigits_digitsText _ hends]
  dsimp only
  -- The reader looks for a point behind the digits, and finds the exponent or nothing.
  cases hrest : Text.ofChars (exponentChars e) with
  | nil =>
    rw [hrest] at hexponent
    dsimp only
    rw [List.append_nil, digits?_digitsText hwhole, hexponent]
    exact congrArg (fun exponent => some (Decimal.mk (decimalValue whole.all) exponent)) (Int.sub_zero _)
  | cons c rest =>
    rw [hrest] at hexponent hnoPoint
    dsimp only
    rw [if_neg (hnoPoint c rfl)]
    dsimp only
    rw [List.append_nil, digits?_digitsText hwhole, hexponent]
    exact congrArg (fun exponent => some (Decimal.mk (decimalValue whole.all) exponent)) (Int.sub_zero _)

/-- A number with a fraction: every digit behind the point counts one off the exponent. -/
theorem toDecimal?_fraction (whole fraction : Digits) (e : Option Exponent) :
    (digitsText whole.all ++ .ofChar '.' ::
      (digitsText fraction.all ++ Text.ofChars (exponentChars e))).toDecimal? =
      some ⟨decimalValue (whole.all ++ fraction.all), (match e with
        | none => 0
        | some e => e.value) - fraction.all.length⟩ := by
  have hends := fun c hc => (not_digit_of_head?_exponentChars (e := e) (c := c) hc).1
  have hpoint : ∀ c, List.head? (CodePoint.ofChar '.' ::
      (digitsText fraction.all ++ Text.ofChars (exponentChars e))) = some c →
      ¬ (0x30 ≤ c.val ∧ c.val ≤ 0x39) := by
    intro c hc
    obtain rfl := Option.some.inj hc
    decide
  have hne : whole.all ++ fraction.all ≠ [] := List.cons_ne_nil _ _
  have hlength : (digitsText fraction.all).length = fraction.all.length := by
    unfold digitsText Text.ofChars
    rw [List.length_map, List.length_map]
  -- The digits in front end at the point, and those behind it where the exponent begins.
  unfold Text.toDecimal?
  rw [spanDigits_digitsText _ hpoint]
  dsimp only
  rw [if_pos rfl, spanDigits_digitsText _ hends]
  dsimp only
  rw [← digitsText_append, digits?_digitsText hne, exponent?_exponentChars, hlength]
  rfl

/-- The decimal that a number without its sign is read as. -/
theorem toDecimal?_unsigned (n : Number) : (Text.ofChars n.unsigned).toDecimal? = some n.decimal := by
  rw [ofChars_unsigned]
  obtain ⟨negative, whole, fraction, exponent, hzero⟩ := n
  cases fraction with
  | none =>
    refine (toDecimal?_whole whole exponent).trans ?_
    refine congrArg some (congrArg₂ Decimal.mk ?_ ?_)
    · exact congrArg decimalValue (List.append_nil _).symm
    · exact (Int.sub_zero _).symm
  | some fraction => exact toDecimal?_fraction whole fraction exponent

/-- The number with a small letter in front of its exponent. The reader of numbers makes letters small
before it looks at them, so it sees every number in this form. -/
def lowered (n : Number) : Number :=
  { n with exponent := n.exponent.map fun e => { e with capital := false } }

/-- The characters of numbers are ASCII, and none of them has a small letter that depends on the text
before. Induction on the characters, for any text before them. -/
theorem lowerAfter_ofChars (before : Text) {cs : List Char} (h : cs ⊆ numberChars) :
    Text.lowerAfter before (.ofChars cs) = .ofChars (cs.map Char.toLower) := by
  have hall : ∀ c ∈ numberChars, CodePoint.ofChar c ≠ 'Σ' ∧
      (CodePoint.ofChar c).lowerFull = [CodePoint.ofChar c.toLower] :=
    forall_mem_of_all (by decide)
  induction cs generalizing before with
  | nil => rfl
  | cons c cs ih =>
    -- The one letter that depends on what stands around it is a sigma, and no number has one.
    obtain ⟨hsigma, hlower⟩ := hall c (h (List.mem_cons_self ..))
    show Text.lowerAfter before (.ofChar c :: Text.ofChars cs) = _
    unfold Text.lowerAfter
    rw [if_neg hsigma, hlower, ih _ fun d hd => h (List.mem_cons_of_mem _ hd)]
    rfl

/-- So the small letters of a number are those of its characters. -/
theorem lower_ofChars {cs : List Char} (h : cs ⊆ numberChars) :
    (Text.ofChars cs).lower = .ofChars (cs.map Char.toLower) :=
  lowerAfter_ofChars [] h

/-- Only the letter of the exponent is changed by this. -/
theorem map_toLower_chars (n : Number) : n.chars.map Char.toLower = n.lowered.chars := by
  have hdigits (ds : List (Fin 10)) : (ds.map digitChar).map Char.toLower = ds.map digitChar := by
    rw [List.map_map]
    exact List.map_congr_left fun d _ =>
      (by decide : ∀ d : Fin 10, (digitChar d).toLower = digitChar d) d
  obtain ⟨negative, whole, fraction, exponent, hzero⟩ := n
  have hsign : (if negative then ['-'] else []).map Char.toLower =
      if negative then ['-'] else [] := by
    cases negative
    · rfl
    · rfl
  have hfraction : (fractionChars fraction).map Char.toLower = fractionChars fraction := by
    cases fraction with
    | none => rfl
    | some d => exact congrArg (List.cons '.') (hdigits d.all)
  unfold chars lowered
  dsimp only
  rw [List.map_append, List.map_append, List.map_append, hsign, hfraction]
  unfold Digits.chars
  rw [hdigits]
  congr 1
  -- The letter of the exponent is the only one that changes.
  cases exponent with
  | none => rfl
  | some e =>
    obtain ⟨capital, minus, digits⟩ := e
    have hminus : (Exponent.signChars minus).map Char.toLower = Exponent.signChars minus := by
      rcases minus with _ | _ | _
      · rfl
      · rfl
      · rfl
    show (if capital then 'E' else 'e').toLower ::
      (Exponent.signChars minus ++ digits.all.map digitChar).map Char.toLower =
      'e' :: (Exponent.signChars minus ++ digits.all.map digitChar)
    rw [List.map_append, hminus, hdigits]
    cases capital
    · rfl
    · rfl

/-- And that does not change what the number denotes. -/
theorem decimal_lowered (n : Number) : n.lowered.decimal = n.decimal := by
  obtain ⟨negative, whole, fraction, exponent, hzero⟩ := n
  cases exponent
  · rfl
  · rfl

/-- A text of a number begins with a digit, so it is none of the words for numbers. -/
theorem exists_unsigned (n : Number) : ∃ t, Text.ofChars n.unsigned =
    CodePoint.ofChar (digitChar n.whole.first) :: t :=
  ⟨_, rfl⟩

/-- A number is read as the floating-point number nearest to its decimal. -/
theorem toBinary64?_unsigned (origin : Nat) (n : Number) :
    (Text.ofChars n.unsigned).toBinary64? origin = some (Binary64.ofDecimal false n.decimal) := by
  have hsigned : (Text.ofChars n.unsigned).signed = (false, Text.ofChars n.unsigned) :=
    (signed_ofChars n.unsigned_subset).trans takeSign_of_digit
  -- A number begins with a digit, and a word that stands for a number does not.
  have hword (word : String) (h : ∀ d : Fin 10,
      word.toList.head?.map Char.toNat ≠ some (digitChar d).toNat) :
      ¬ Text.isWord word (Text.ofChars n.unsigned) = true := by
    obtain ⟨t, ht⟩ := n.exists_unsigned
    -- A digit has no small letter.
    have hcase : (if 0x41 ≤ (CodePoint.ofChar (digitChar n.whole.first)).val ∧
        (CodePoint.ofChar (digitChar n.whole.first)).val ≤ 0x5A then
        (CodePoint.ofChar (digitChar n.whole.first)).val + 32
        else (CodePoint.ofChar (digitChar n.whole.first)).val) = (digitChar n.whole.first).toNat :=
      if_neg ((by decide : ∀ d : Fin 10, ¬ (0x41 ≤ (CodePoint.ofChar (digitChar d)).val ∧
        (CodePoint.ofChar (digitChar d)).val ≤ 0x5A)) n.whole.first)
    intro hw
    unfold Text.isWord at hw
    rw [beq_iff_eq, ht, List.map_cons, hcase] at hw
    refine h n.whole.first ?_
    rw [← List.head?_map, ← hw]
    rfl
  unfold Text.toBinary64?
  rw [hsigned]
  dsimp only
  rw [if_neg (not_or.mpr ⟨hword "inf" (by decide), hword "infinity" (by decide)⟩),
    if_neg (hword "nan" (by decide)), toDecimal?_unsigned]
  rfl

/-- A number that is read as one is read as the floating-point number nearest to it. -/
theorem readFloat_eq (origin : Nat) (n : Number) :
    Yaml.readFloat origin (.ofChars n.chars) = .ok n.nearest := by
  obtain ⟨t, ht⟩ := n.lowered.exists_unsigned
  -- The words of YAML begin with a point.
  have hnot (word : String) (h : ∀ d : Fin 10,
      (Text.ofString word).head? ≠ some (.ofChar (digitChar d))) :
      Text.ofChars n.lowered.unsigned ≠ Text.ofString word := by
    intro heq
    refine h n.lowered.whole.first ?_
    rw [← heq, ht]
    rfl
  have hcolon := colon_not_mem n.lowered.unsigned_subset
  have hpart : Yaml.readFloatPart origin (.ofChars n.lowered.unsigned) =
      .ok (Binary64.ofDecimal false n.decimal) := by
    unfold Yaml.readFloatPart
    rw [toBinary64?_unsigned, decimal_lowered]
    rfl
  unfold Yaml.readFloat
  rw [lower_ofChars n.chars_subset, map_toLower_chars, takeNumberSign_ofChars]
  show (if Text.ofChars n.lowered.unsigned = Text.ofString ".inf" then _ else _) = _
  rw [if_neg (hnot ".inf" (by decide)), if_neg (hnot ".nan" (by decide)), if_neg hcolon, hpart]
  rfl

/-! ## Forms -/

/-- What a number may begin with. None of them begins a token of another kind, so a number is always
scanned as a plain scalar. -/
def firstChars : List Char :=
  ['-', '0', '1', '2', '3', '4', '5', '6', '7', '8', '9']

/-- A number begins with a sign or a digit, which is what the readers of plain scalars look at first. -/
theorem exists_chars (n : Number) : ∃ c rest, n.chars = c :: rest ∧ c ∈ firstChars := by
  rw [chars_eq]
  cases n.negative with
  | true => exact ⟨'-', n.unsigned, rfl, by decide⟩
  | false =>
    exact ⟨digitChar n.whole.first, _, rfl,
      (by decide : ∀ d : Fin 10, digitChar d ∈ firstChars) n.whole.first⟩

/-- The sign of a number can only be a minus, so dropping a sign leaves its digits. -/
theorem dropSign_chars (n : Number) : Tag.dropSign n.chars = n.unsigned := by
  rw [chars_eq]
  cases n.negative with
  | true => rfl
  | false =>
    have hd : digitChar n.whole.first ≠ '+' ∧ digitChar n.whole.first ≠ '-' :=
      (by decide : ∀ d : Fin 10, digitChar d ≠ '+' ∧ digitChar d ≠ '-') n.whole.first
    show Tag.dropSign n.unsigned = n.unsigned
    unfold Tag.dropSign
    split
    · rename_i heq
      exact absurd (List.cons.inj heq).1 hd.1
    · rename_i heq
      exact absurd (List.cons.inj heq).1 hd.2
    · rfl

/-- No number is a word that begins otherwise. -/
theorem isOneOf_eq_false {c : Char} {rest : List Char} (hc : c ∈ firstChars) {words : List String}
    (h : ∀ c ∈ firstChars, ∀ w ∈ words, w.toList.head? ≠ some c) :
    Tag.isOneOf words (c :: rest) = false := by
  unfold Tag.isOneOf
  rw [List.any_eq_false]
  intro w hw heq
  refine h c hc w hw ?_
  rw [beq_iff_eq.mp heq]
  rfl

/-- So a number is none of the words that begin with something else, such as those for null and for truth
values. -/
theorem isOneOf_chars (n : Number) {words : List String}
    (h : ∀ c ∈ firstChars, ∀ w ∈ words, w.toList.head? ≠ some c) :
    Tag.isOneOf words n.chars = false := by
  obtain ⟨c, rest, hchars, hc⟩ := n.exists_chars
  rw [hchars]
  exact isOneOf_eq_false hc h

/-- Digits are among what may stand in numbers with underscores. -/
theorem isSpacedDigit_digits (ds : List (Fin 10)) :
    ∀ c ∈ ds.map digitChar, Tag.isSpacedDigit c = true := by
  intro c hc
  obtain ⟨d, -, rfl⟩ := List.mem_map.mp hc
  exact (by decide : ∀ d : Fin 10, Tag.isSpacedDigit (digitChar d) = true) d

/-- And they are digits as such. -/
theorem isDigit_digits (ds : List (Fin 10)) : ∀ c ∈ ds.map digitChar, c.isDigit = true := by
  intro c hc
  obtain ⟨d, -, rfl⟩ := List.mem_map.mp hc
  exact (by decide : ∀ d : Fin 10, (digitChar d).isDigit = true) d

/-- Digits are dropped up to an exponent. -/
theorem dropWhile_exponentChars (ds : List (Fin 10)) (e : Option Exponent) :
    (ds.map digitChar ++ exponentChars e).dropWhile Tag.isSpacedDigit = exponentChars e := by
  rw [List.dropWhile_append_of_pos (isSpacedDigit_digits ds)]
  cases e with
  | none => rfl
  | some e =>
    obtain ⟨capital, minus, digits⟩ := e
    cases capital
    · rfl
    · rfl

/-- An exponent in a plain scalar has to have a sign. -/
theorem isExponent_exponentChars (e : Option Exponent) :
    Tag.isExponent (exponentChars e) = (match e with
      | none => true
      | some e => e.minus.isSome) := by
  cases e with
  | none => rfl
  | some e =>
    obtain ⟨capital, minus, digits⟩ := e
    have hmark : ((if capital then 'E' else 'e') == 'e' || (if capital then 'E' else 'e') == 'E') =
        true := by
      cases capital
      · rfl
      · rfl
    have hall : digits.chars.all Char.isDigit = true := List.all_eq_true.mpr (isDigit_digits _)
    have hne : digits.chars.isEmpty = false := rfl
    -- Without a sign a digit stands where the sign has to be.
    rcases minus with _ | minus
    · have hd : (digitChar digits.first == '+' || digitChar digits.first == '-') = false :=
        (by decide : ∀ d : Fin 10, (digitChar d == '+' || digitChar d == '-') = false) digits.first
      show ((_ && (digitChar digits.first == '+' || digitChar digits.first == '-')) && _ && _) = false
      rw [hd, Bool.and_false, Bool.false_and, Bool.false_and]
    · have hsign (sign : Char) (h : (sign == '+' || sign == '-') = true) :
          Tag.isExponent ((if capital then 'E' else 'e') :: sign :: digits.chars) = true := by
        unfold Tag.isExponent
        dsimp only
        rw [hmark, h, hne, hall]
        rfl
      cases minus
      · exact hsign '+' rfl
      · exact hsign '-' rfl

/-- What follows the digits at the start of a number is a point or an exponent, if anything. It is where
the forms of integers and of floating-point numbers part. -/
def behindWhole (n : Number) : List Char :=
  fractionChars n.fraction ++ exponentChars n.exponent

/-- The digits at the start can be skipped up to the point or the exponent: neither of these is a digit or
an underscore. -/
theorem dropWhile_behindWhole (ds : List (Fin 10)) (n : Number) :
    (ds.map digitChar ++ n.behindWhole).dropWhile Tag.isSpacedDigit = n.behindWhole := by
  unfold behindWhole
  cases n.fraction with
  | none => exact dropWhile_exponentChars ds n.exponent
  | some d =>
    rw [List.dropWhile_append_of_pos (isSpacedDigit_digits _)]
    rfl

/-- A number has no parts in base sixty. -/
theorem areSixties_behindWhole (ends : List Char → Bool) (fuel : Nat) (n : Number) :
    Tag.areSixties ends fuel n.behindWhole = false := by
  -- A part in base sixty begins with a colon.
  have hcolon : ∀ cs, n.behindWhole ≠ ':' :: cs := by
    intro cs heq
    have hmem : ':' ∈ n.behindWhole := by
      rw [heq]
      exact List.mem_cons_self ..
    have hsubset : n.behindWhole ⊆ numberChars :=
      List.append_subset.mpr ⟨fractionChars_subset _, exponentChars_subset _⟩
    exact absurd (hsubset hmem) (by decide)
  cases fuel with
  | zero => rfl
  | succ fuel =>
    unfold Tag.areSixties
    split
    · rename_i heq
      cases heq
    · rename_i heq
      exact absurd heq (hcolon _)
    · rfl

/-- YAML wants a sign in the exponent. That is how a number in JSON can be a string. -/
theorem isExponent_of_behindWhole {n : Number} {rest : List Char} (h : n.behindWhole = '.' :: rest) :
    Tag.isExponent (rest.dropWhile Tag.isSpacedDigit) = (n.fraction.isSome && n.isNumeric) := by
  obtain ⟨negative, whole, fraction, exponent, hzero⟩ := n
  cases fraction with
  | none =>
    -- Without a fraction the point would be the first character of an exponent, and that is a letter.
    have hexponent : exponentChars exponent = '.' :: rest := h
    cases exponent with
    | none => cases hexponent
    | some e =>
      obtain ⟨capital, minus, digits⟩ := e
      cases capital
      · cases hexponent
      · cases hexponent
  | some d =>
    obtain rfl : d.chars ++ exponentChars exponent = rest := (List.cons.inj h).2
    unfold Digits.chars
    rw [dropWhile_exponentChars, isExponent_exponentChars]
    cases exponent
    · rfl
    · rfl

/-- A number has the form of a floating-point number if it has a point, and a sign in its
exponent. -/
theorem isFloat_chars (n : Number) :
    Tag.isFloat n.chars = (n.fraction.isSome && n.isNumeric) := by
  obtain ⟨c, rest, hchars, hc⟩ := n.exists_chars
  have hnoPoint : c ≠ '.' := forall_mem_of_all (p := fun c => c ≠ '.') (by decide) c hc
  have hdigit : (n.unsigned.headD ' ').isDigit = true :=
    (by decide : ∀ d : Fin 10, (digitChar d).isDigit = true) n.whole.first
  have hinf : Tag.isOneOf [".inf", ".Inf", ".INF"] n.unsigned = false :=
    isOneOf_eq_false ((by decide : ∀ d : Fin 10, digitChar d ∈ firstChars) n.whole.first)
      (forall_mem_of_all (by decide))
  have hnan : Tag.isOneOf [".nan", ".NaN", ".NAN"] n.chars = false :=
    n.isOneOf_chars (forall_mem_of_all (by decide))
  -- Of the forms of floating-point numbers only the one of digits with a point is left.
  unfold Tag.isFloat
  dsimp only
  have hdrop : n.unsigned.dropWhile Tag.isSpacedDigit = n.behindWhole :=
    dropWhile_behindWhole n.whole.all n
  rw [dropSign_chars, hdrop, areSixties_behindWhole, hdigit, hinf, hnan, hchars]
  simp only [Bool.true_and, Bool.or_false]
  split
  · rename_i more hmore
    split
    · rename_i heq
      exact absurd (List.cons.inj heq).1 hnoPoint
    · rw [Bool.or_false]
      exact isExponent_of_behindWhole hmore
  · rename_i hnot
    -- Without a point there is no fraction.
    have hnone : n.fraction = none := by
      cases hfraction : n.fraction with
      | none => rfl
      | some d =>
        refine absurd ?_ (hnot (d.chars ++ exponentChars n.exponent))
        unfold behindWhole
        rw [hfraction]
        rfl
    split
    · rename_i heq
      exact absurd (List.cons.inj heq).1 hnoPoint
    · rw [hnone]
      rfl

/-- Nothing follows the digits of an integer, and of no other number. -/
theorem isEmpty_behindWhole (n : Number) : n.behindWhole.isEmpty = n.isInteger := by
  obtain ⟨negative, whole, fraction, exponent, hzero⟩ := n
  cases fraction
  · cases exponent
    · rfl
    · rfl
  · rfl

/-- Behind the digits at its start an integer ends. Any other number has no digit there, so none of base
eight. -/
theorem behindWhole_cases (n : Number) : (n.isInteger = true ∧ n.behindWhole = []) ∨
    (n.isInteger = false ∧ ∃ c rest, n.behindWhole = c :: rest ∧ (c = '.' ∨ c = 'e' ∨ c = 'E')) := by
  obtain ⟨negative, whole, fraction, exponent, hzero⟩ := n
  cases fraction with
  | some d => exact Or.inr ⟨rfl, '.', _, rfl, Or.inl rfl⟩
  | none =>
    cases exponent with
    | none => exact Or.inl ⟨rfl, rfl⟩
    | some e =>
      obtain ⟨capital, minus, digits⟩ := e
      cases capital
      · exact Or.inr ⟨rfl, 'e', _, rfl, Or.inr (Or.inl rfl)⟩
      · exact Or.inr ⟨rfl, 'E', _, rfl, Or.inr (Or.inr rfl)⟩

/-- A number without its sign begins with a digit. -/
theorem unsigned_eq_cons (n : Number) : n.unsigned =
    digitChar n.whole.first :: (n.whole.rest.map digitChar ++ n.behindWhole) :=
  rfl

/-- A number has the form of an integer if it is one. -/
theorem isInt_chars (n : Number) : Tag.isInt n.chars = n.isInteger := by
  unfold Tag.isInt
  dsimp only
  rw [dropSign_chars]
  by_cases hfirst : n.whole.first = 0
  · -- A zero at the start is all of the integer part.
    have hunsigned : n.unsigned = '0' :: n.behindWhole := by
      rw [unsigned_eq_cons, n.noLeadingZero hfirst, hfirst]
      rfl
    rw [hunsigned]
    rcases n.behindWhole_cases with ⟨hinteger, hnil⟩ | ⟨hinteger, c, rest, hrest, hc⟩
    · rw [hnil, hinteger]
      rfl
    · rw [hrest, hinteger]
      rcases hc with rfl | rfl | rfl
      · rfl
      · rfl
      · rfl
  · -- Only the form of decimal integers begins with a digit that is not zero.
    have hne : digitChar n.whole.first ≠ '0' :=
      (by decide : ∀ d : Fin 10, d ≠ 0 → digitChar d ≠ '0') _ hfirst
    have hdrop := dropWhile_behindWhole n.whole.rest n
    rw [unsigned_eq_cons]
    split
    · rename_i heq
      exact absurd (List.cons.inj heq).1 hne
    · rename_i heq
      exact absurd (List.cons.inj heq).1 hne
    · rename_i heq
      exact absurd (List.cons.inj heq).1 hne
    · rename_i heq
      exact absurd (List.cons.inj heq).1 hne
    · rename_i heq
      obtain ⟨rfl, rfl⟩ := List.cons.inj heq
      rw [hdrop, areSixties_behindWhole, isEmpty_behindWhole, Bool.or_false,
        isDigit_digits [n.whole.first] _ (List.mem_singleton.mpr rfl), Bool.true_and]
    · rename_i heq
      cases heq

/-- No hyphen stands behind a digit in front of the exponent. -/
theorem char?_hyphen (ds : List (Fin 10)) (n : Number) :
    WrittenTime.char? '-' (ds.map digitChar ++ n.behindWhole) = none := by
  cases ds with
  | cons d ds =>
    have hd : (digitChar d == '-') = false :=
      (by decide : ∀ d : Fin 10, (digitChar d == '-') = false) d
    show (if digitChar d == '-' then _ else none) = _
    rw [hd]
    rfl
  | nil =>
    show WrittenTime.char? '-' n.behindWhole = none
    -- What begins a fraction or an exponent is no hyphen.
    rcases n.behindWhole_cases with ⟨-, hnil⟩ | ⟨-, c, rest, hrest, hc⟩
    · rw [hnil]
      rfl
    · rw [hrest]
      rcases hc with rfl | rfl | rfl
      · rfl
      · rfl
      · rfl

/-- The digits at the start of a number end at the latest where its fraction or exponent begins. -/
theorem takeWhile_isDigit (count : Nat) (n : Number) :
    (n.unsigned.take count).takeWhile Char.isDigit = (n.whole.all.take count).map digitChar := by
  -- Nothing behind the digits at the start counts as one.
  have hbehind : (n.behindWhole.take (count - n.whole.chars.length)).takeWhile Char.isDigit = [] := by
    cases count - n.whole.chars.length with
    | zero => rfl
    | succ k =>
      rcases n.behindWhole_cases with ⟨-, hnil⟩ | ⟨-, c, rest, hrest, hc⟩
      · rw [hnil]
        rfl
      · rw [hrest]
        rcases hc with rfl | rfl | rfl
        · rfl
        · rfl
        · rfl
  have hwhole : ∀ c ∈ n.whole.chars.take count, c.isDigit = true :=
    fun c hc => isDigit_digits _ c (List.mem_of_mem_take hc)
  show ((n.whole.chars ++ n.behindWhole).take count).takeWhile Char.isDigit = _
  rw [List.take_append, List.takeWhile_append_of_pos hwhole, hbehind, List.append_nil]
  exact (List.map_take ..).symm

/-- No number is a day. -/
theorem isTimestamp_chars (n : Number) : Tag.isTimestamp n.chars = false := by
  -- A day has a hyphen behind its year; behind four digits of a number there is none.
  have hhyphen {year count : Nat} {rest : List Char}
      (h : WrittenTime.digits? 4 4 n.chars = some (year, count, rest)) :
      WrittenTime.char? '-' rest = none := by
    unfold WrittenTime.digits? at h
    dsimp only at h
    split at h
    · cases h
    · rename_i hlength
      rw [chars_eq] at h hlength
      -- A minus is no digit, so a negative number has no year at all.
      cases hnegative : n.negative with
      | true =>
        rw [hnegative] at hlength
        exact absurd (by decide : (0 : Nat) < 4) hlength
      | false =>
        rw [hnegative] at h
        have hrest : rest =
            n.unsigned.drop ((n.unsigned.take 4).takeWhile Char.isDigit).length :=
          (congrArg (fun r => r.2.2) (Option.some.inj h)).symm
        -- The year is part of the digits at the start.
        have hle : (n.whole.all.take 4).length ≤ n.whole.chars.length := by
          unfold Digits.chars
          rw [List.length_map, List.length_take]
          exact Nat.min_le_right _ _
        rw [hrest, takeWhile_isDigit, List.length_map]
        show WrittenTime.char? '-' ((n.whole.chars ++ n.behindWhole).drop _) = none
        rw [List.drop_append_of_le_length hle]
        unfold Digits.chars
        rw [← List.map_drop]
        exact char?_hyphen _ n
  have hnone : WrittenTime.ofChars? n.chars = none := by
    unfold WrittenTime.ofChars?
    cases hdigits : WrittenTime.digits? 4 4 n.chars with
    | none => rfl
    | some r =>
      obtain ⟨year, count, rest⟩ := r
      show (WrittenTime.char? '-' rest >>= WrittenTime.digits? 1 2) >>= _ = none
      rw [hhyphen hdigits]
      rfl
  unfold Tag.isTimestamp
  rw [hnone]

/-- An integer has no fraction. -/
theorem isSome_fraction_of_isInteger {n : Number} (h : n.isInteger = true) :
    n.fraction.isSome = false := by
  unfold isInteger at h
  rw [Bool.and_eq_true] at h
  rw [← Option.not_isNone, h.1]
  rfl

/-- So nothing can keep YAML from taking it for a number. -/
theorem isNumeric_of_isInteger {n : Number} (h : n.isInteger = true) : n.isNumeric = true := by
  unfold isInteger at h
  rw [Bool.and_eq_true, Option.isNone_iff_eq_none, Option.isNone_iff_eq_none] at h
  unfold isNumeric
  rw [h.2]

/-- A numeric number that is no integer has a point. -/
theorem isSome_fraction_of_isNumeric {n : Number} (h : n.isNumeric = true)
    (hinteger : n.isInteger = false) : n.fraction.isSome = true := by
  unfold isNumeric at h
  unfold isInteger at hinteger
  split at h
  · rename_i hexponent
    rw [hexponent] at hinteger
    simpa using hinteger
  · rw [Bool.and_eq_true] at h
    exact h.1

/-- The tag of a plain scalar that is a number: without a point, an exponent makes it a text. -/
theorem ofPlain_chars (n : Number) : Tag.ofPlain (.ofChars n.chars) =
    if n.isInteger then .int else if n.isNumeric then .float else .str := by
  -- The final line break that a form may leave out is no character of a number.
  have hbreak : Tag.dropFinalBreak n.chars = n.chars := by
    unfold Tag.dropFinalBreak
    rw [if_neg]
    intro hlast
    have hmem : '\n' ∈ n.chars := List.mem_of_getLast? (beq_iff_eq.mp hlast)
    exact absurd (n.chars_subset hmem) (by decide)
  have hne : (Text.ofChars n.chars).isEmpty = false := by
    obtain ⟨c, rest, hchars, -⟩ := n.exists_chars
    rw [hchars]
    rfl
  -- No form that is a list of words has a word that begins like a number.
  have hbool : Tag.isBool n.chars = false := n.isOneOf_chars (forall_mem_of_all (by decide))
  have hmerge : Tag.isOneOf ["<<"] n.chars = false :=
    n.isOneOf_chars (forall_mem_of_all (by decide))
  have hnull : Tag.isOneOf ["~", "null", "Null", "NULL"] n.chars = false :=
    n.isOneOf_chars (forall_mem_of_all (by decide))
  have hvalue : Tag.isOneOf ["="] n.chars = false := n.isOneOf_chars (forall_mem_of_all (by decide))
  have hyaml : Tag.isOneOf ["!", "&", "*"] n.chars = false :=
    n.isOneOf_chars (forall_mem_of_all (by decide))
  unfold Tag.ofPlain
  rw [hne, characters_ofChars, hbreak, if_neg Bool.false_ne_true]
  unfold Tag.forms
  simp only [List.find?_cons, hbool, isFloat_chars, isInt_chars, hmerge, hnull, isTimestamp_chars,
    hvalue, hyaml, List.find?_nil]
  cases hinteger : n.isInteger with
  | true =>
    rw [isSome_fraction_of_isInteger hinteger]
    rfl
  | false =>
    cases hnumeric : n.isNumeric with
    | false =>
      rw [Bool.and_false]
      rfl
    | true =>
      rw [isSome_fraction_of_isNumeric hnumeric hinteger]
      rfl

/-- A plain scalar that is a number is read as its reading. The tag is found by the form of the word, and
the number by its digits, and both agree with what JSON means by it as far as `isNumeric` says. -/
theorem shows_reading {n : Number} (hw : n.isWritable = true) {g : Graph} {id : NodeId}
    (htag : (g.node id).tag = Tag.ofPlain (.ofChars n.chars))
    (hcontent : (g.node id).content = .scalar (.ofChars n.chars)) :
    g.ShowsScalar id n.reading := by
  rw [ofPlain_chars] at htag
  -- The text of the node is that of the number, whatever is made of it.
  have htext (fuel : Nat) : g.text? (fuel + 1) id = .ok (.ofChars n.chars) := by
    unfold Graph.text?
    rw [hcontent]
    rfl
  unfold reading
  cases hnumeric : n.isNumeric with
  | false =>
    -- A number that is read as a text is no integer.
    have hinteger : n.isInteger = false := by
      rw [← Bool.not_eq_true]
      intro hinteger
      rw [isNumeric_of_isInteger hinteger] at hnumeric
      cases hnumeric
    rw [hinteger, hnumeric] at htag
    exact .text _ htag hcontent
  | true =>
    rw [if_pos rfl]
    unfold value
    cases hinteger : n.isInteger with
    | true =>
      rw [hinteger] at htag
      rw [if_pos rfl] at htag ⊢
      refine .other _ _ (fun _ h => by cases h) (by rw [htag]; exact Tag.noConfusion) hcontent ?_
      unfold Graph.scalar?
      rw [htag, htext]
      show some (Scalar.int <$> Yaml.readInt _) = _
      rw [readInt_eq hinteger hw]
      rfl
    | false =>
      rw [hinteger, hnumeric] at htag
      refine .other _ _ (fun _ h => by cases h) (by rw [htag]; exact Tag.noConfusion) hcontent ?_
      unfold Graph.scalar?
      rw [htag, htext]
      show some (Scalar.float <$> Yaml.readFloat _ _) = _
      rw [readFloat_eq]
      rfl

end Number

/-! ## Words -/

/-- The word for nothing. -/
theorem shows_null {g : Graph} {id : NodeId}
    (htag : (g.node id).tag = Tag.ofPlain (.ofChars "null".toList))
    (hcontent : (g.node id).content = .scalar (.ofChars "null".toList)) :
    g.ShowsScalar id .null := by
  have hnull : Tag.ofPlain (.ofChars "null".toList) = .null := by decide
  rw [hnull] at htag
  refine .other _ _ (fun _ h => by cases h) (by rw [htag]; exact Tag.noConfusion) hcontent ?_
  unfold Graph.scalar? Graph.text?
  rw [htag, hcontent]
  rfl

/-- The words for truth values. -/
theorem shows_bool {b : Bool} {word : String} {g : Graph} {id : NodeId}
    (hbool : Tag.ofPlain (.ofChars word.toList) = .bool)
    (hread : Yaml.readBool (.ofChars word.toList) = .ok b)
    (htag : (g.node id).tag = Tag.ofPlain (.ofChars word.toList))
    (hcontent : (g.node id).content = .scalar (.ofChars word.toList)) :
    g.ShowsScalar id (.bool b) := by
  rw [hbool] at htag
  refine .other _ _ (fun _ h => by cases h) (by rw [htag]; exact Tag.noConfusion) hcontent ?_
  unfold Graph.scalar? Graph.text?
  rw [htag, hcontent]
  show some (Scalar.bool <$> Yaml.readBool _) = _
  rw [hread]
  rfl

/-- The two truth values of JSON are truth values in YAML, too. -/
theorem ofPlain_truthWords : Tag.ofPlain (.ofChars "true".toList) = .bool ∧
    Tag.ofPlain (.ofChars "false".toList) = .bool := by
  decide

/-- And they are the same ones there. -/
theorem readBool_truthWords : Yaml.readBool (.ofChars "true".toList) = .ok true ∧
    Yaml.readBool (.ofChars "false".toList) = .ok false :=
  ⟨rfl, rfl⟩

end TermAudit.JsonText
