import Mathlib.Data.List.Basic
import TermAudit.Json
import TermAudit.Proofs.Json.Graph
import TermAudit.Proofs.Text.Case

/-!
# `TermAudit.Proofs.Json.Printed`: printed values are JSON texts

What the printer writes is the spelling of a syntax tree: `JsonString.written` is the string that it
writes for a text, and `Tree.ofItems` and `Tree.ofMembers` are arrays and objects with the white space
that it puts between tokens. `prints_array` and `prints_object` say so.

The printer writes ASCII on lines (`Json.all_printedAt`), so the one thing that can keep a reader of
YAML from its output is a key that is too long (`JsonString.fitsKey_written`). Strings are read as they were
unless they have code points past the basic plane, of which the printer makes two escapes each
(`JsonString.reading_written`).
-/

set_option autoImplicit false

namespace TermAudit

namespace Text

/-- Characters become code points one by one, so texts are put together as their characters are. -/
@[simp] theorem ofChars_append (a b : List Char) : ofChars (a ++ b) = ofChars a ++ ofChars b :=
  List.map_append

/-- The same with a single character in front. -/
@[simp] theorem ofChars_cons (c : Char) (cs : List Char) :
    ofChars (c :: cs) = CodePoint.ofChar c :: ofChars cs :=
  rfl

/-- No character is lost or made up on the way. -/
theorem length_ofChars (cs : List Char) : (ofChars cs).length = cs.length :=
  List.length_map _

end Text

/-- The UTF-16 units of a code point, as code points. Past the basic plane there are two of them, a pair
of surrogates. The printer escapes each of them for itself. -/
def CodePoint.units (c : CodePoint) : Text :=
  if c.val < 0x10000 then [c]
  else
    [.ofNat (0xD800 + (c.val - 0x10000) / 0x400), .ofNat (0xDC00 + (c.val - 0x10000) % 0x400)]

namespace Text

/-- The text with surrogate pairs in place of the code points past the basic plane. This is what the text
is read back as, because the reader does not put the pairs together again. -/
def units (t : Text) : Text :=
  t.flatMap CodePoint.units

/-- A surrogate is in the basic plane, which is what the pairs are for. -/
theorem isBasic_units (t : Text) : t.units.isBasic = true := by
  refine List.all_eq_true.mpr fun u hu => ?_
  obtain ⟨c, -, hu⟩ := List.mem_flatMap.mp hu
  have hlt := c.isLt
  unfold CodePoint.units at hu
  rw [decide_eq_true_eq]
  split at hu
  · rename_i hbasic
    rw [List.mem_singleton.mp hu]
    exact hbasic
  · rcases List.mem_cons.mp hu with hu | hu
    · rw [hu, CodePoint.val_ofNat (by omega)]
      omega
    · rw [List.mem_singleton.mp hu, CodePoint.val_ofNat (by omega)]
      omega

/-- A text of the basic plane has no need of surrogates. -/
theorem units_of_isBasic {t : Text} (h : t.isBasic = true) : t.units = t := by
  induction t with
  | nil => rfl
  | cons c t ih =>
    rw [isBasic, List.all_cons, Bool.and_eq_true, decide_eq_true_eq] at h
    have hc : c.units = [c] := if_pos h.1
    unfold units
    rw [List.flatMap_cons, hc]
    exact congrArg (c :: ·) (ih h.2)

end Text

namespace JsonText

open Yaml (Source.isBreak)

/-! ## Strings -/

/-- The last hexadecimal digit of a number. -/
def hexDigit (n : Nat) : HexDigit :=
  ⟨⟨n % 16, Nat.mod_lt n (Nat.zero_lt_succ 15)⟩, false⟩

/-- The digits of an escape are the printer's: ASCII, and small letters. -/
theorem char_hexDigit (n : Nat) : (hexDigit n).char = Nat.digitChar (n % 16) := by
  have hall : ∀ d : Fin 16, (⟨d, false⟩ : HexDigit).char = Nat.digitChar d.val := by decide
  exact hall ⟨n % 16, _⟩

/-- A number in writing is its last digit behind the others. -/
theorem hex_succ (width n : Nat) :
    Text.hex (width + 2) n = Text.hex (width + 1) (n / 16) ++ Text.ofChars [(hexDigit n).char] := by
  unfold Text.hex
  rw [char_hexDigit]
  by_cases h : n < 16
  · have hzero : n / 16 = 0 := by omega
    rw [hzero, Nat.toDigits_of_lt_base h, Nat.mod_eq_of_lt h]
    have hfill : List.replicate (width + 1) '0' = List.replicate width '0' ++ ['0'] :=
      List.replicate_succ'
    rw [← Text.ofChars_append]
    exact congrArg (fun zeros => Text.ofChars (zeros ++ [n.digitChar])) hfill
  · rw [Nat.toDigits_of_base_le (by decide) (Nat.le_of_not_lt h)]
    dsimp only
    rw [← Text.ofChars_append, List.length_append, List.length_singleton, List.append_assoc,
      Nat.add_sub_add_right (width + 1) 1]

/-- Four digits in writing. -/
theorem hex_four {n : Nat} (h : n < 0x10000) : Text.hex 4 n = Text.ofChars
    [(hexDigit (n / 16 / 16 / 16)).char, (hexDigit (n / 16 / 16)).char, (hexDigit (n / 16)).char,
      (hexDigit n).char] := by
  have hlt : n / 16 / 16 / 16 < 16 := by omega
  have hone : Text.hex 1 (n / 16 / 16 / 16) =
      Text.ofChars [(hexDigit (n / 16 / 16 / 16)).char] := by
    unfold Text.hex
    rw [char_hexDigit, Nat.toDigits_of_lt_base hlt, Nat.mod_eq_of_lt hlt]
    rfl
  rw [hex_succ, hex_succ, hex_succ, hone]
  rfl

namespace StringPart

/-- The escape of a UTF-16 unit. It always has four digits, with small letters. -/
def ofUnit (n : Nat) : StringPart :=
  .unit (hexDigit (n / 16 / 16 / 16)) (hexDigit (n / 16 / 16)) (hexDigit (n / 16)) (hexDigit n)

/-- An escape with four digits stands for its number, a surrogate included. -/
theorem codePoint_ofUnit {n : Nat} (h : n < 0x10000) : (ofUnit n).codePoint = .ofNat n := by
  have hvalue : ((n / 16 / 16 / 16 % 16 * 16 + n / 16 / 16 % 16) * 16 + n / 16 % 16) * 16 + n % 16
      = n := by
    omega
  exact congrArg CodePoint.ofNat hvalue

/-- It is written like the printer writes it. -/
theorem ofChars_ofUnit {n : Nat} (h : n < 0x10000) :
    Text.ofChars (ofUnit n).chars = Json.unitEscape n := by
  unfold Json.unitEscape
  rw [hex_four h]
  rfl

/-- What the printer writes for a code point: a short escape where there is one, the character itself in
printable ASCII, and otherwise the escapes of its units. -/
def written (c : CodePoint) : JsonString :=
  if c = '"' then [.short .quote]
  else if c = '\\' then [.short .backslash]
  else if c = '\n' then [.short .lineFeed]
  else if c = '\r' then [.short .carriageReturn]
  else if c = '\t' then [.short .tab]
  else if c.val = 0x08 then [.short .backspace]
  else if c.val = 0x0C then [.short .formFeed]
  else if 0x20 ≤ c.val ∧ c.val ≤ 0x7E then
    if h : isPlainChar (Char.ofNat c.val) = true then [.plain _ h] else []
  else if c.val < 0x10000 then [ofUnit c.val]
  else
    let n := c.val - 0x10000
    [ofUnit (0xD800 + n / 0x400), ofUnit (0xDC00 + n % 0x400)]

/-- The string is what the printer writes for the code point, in printable ASCII, and it stands for the
units of the code point. The three are stated together, as one case analysis over code points proves all
of them. -/
structure Spells (s : JsonString) (c : CodePoint) : Prop where
  text : Text.ofChars (JsonString.inner s) = Json.escaped c
  units : s.map codePoint = c.units
  typed : ∀ x ∈ JsonString.inner s, 0x20 ≤ x.toNat ∧ x.toNat ≤ 0x7E

/-- A string of one part has the characters of that part between its quotation marks. -/
theorem inner_singleton (p : StringPart) : JsonString.inner [p] = p.chars :=
  List.append_nil _

/-- An escape is printable ASCII, which every reader of YAML allows on a line. -/
theorem typed_ofUnit (n : Nat) : ∀ x ∈ (ofUnit n).chars, 0x20 ≤ x.toNat ∧ x.toNat ≤ 0x7E := by
  have hdigit : ∀ d : HexDigit, 0x20 ≤ d.char.toNat ∧ d.char.toNat ≤ 0x7E := by
    rintro ⟨value, capital⟩
    revert value capital
    decide
  intro x hx
  unfold ofUnit chars at hx
  simp only [List.mem_cons, List.not_mem_nil, or_false] at hx
  rcases hx with rfl | rfl | rfl | rfl | rfl | rfl
  · decide
  · decide
  · exact hdigit _
  · exact hdigit _
  · exact hdigit _
  · exact hdigit _

/-- A number in ASCII is that of a character. -/
theorem ofChar_ofNat {c : CodePoint} (h : c.val ≤ 0x7E) :
    (Char.ofNat c.val).toNat = c.val ∧ CodePoint.ofChar (Char.ofNat c.val) = c := by
  have hvalid : c.val.isValidChar := Or.inl (by omega)
  have hnat : (Char.ofNat c.val).toNat = c.val := by
    unfold Char.ofNat
    rw [dif_pos hvalid]
    rfl
  exact ⟨hnat, CodePoint.eq_iff_val.mpr hnat⟩

/-- Of printable ASCII, all but the quotation mark and the backslash stand for themselves. -/
theorem isPlainChar_of_typed {c : CodePoint} (h : 0x20 ≤ c.val ∧ c.val ≤ 0x7E) (hquote : c ≠ '"')
    (hslash : c ≠ '\\') : isPlainChar (Char.ofNat c.val) = true := by
  obtain ⟨hnat, heq⟩ := ofChar_ofNat h.2
  have hquote' : Char.ofNat c.val ≠ '"' := fun h => hquote (heq.symm.trans (congrArg _ h))
  have hslash' : Char.ofNat c.val ≠ '\\' := fun h => hslash (heq.symm.trans (congrArg _ h))
  unfold isPlainChar
  rw [hnat]
  simp [h.1, hquote', hslash']

section Spelled

variable {c : CodePoint}

/-- The first way to write a code point: as it is. This needs a character that is neither a quotation mark
nor a backslash nor a control character. -/
theorem spells_plain (h : 0x20 ≤ c.val ∧ c.val ≤ 0x7E)
    (hplain : isPlainChar (Char.ofNat c.val) = true) (hescaped : Json.escaped c = [c]) :
    Spells [.plain (Char.ofNat c.val) hplain] c := by
  obtain ⟨hnat, heq⟩ := ofChar_ofNat h.2
  have hunits : c.units = [c] := if_pos (by omega)
  refine ⟨?_, ?_, fun x hx => ?_⟩
  · rw [hescaped]
    exact congrArg (fun c => [c]) heq
  · rw [hunits]
    exact congrArg (fun c => [c]) heq
  · rw [List.mem_singleton.mp hx, hnat]
    exact h

/-- The second way: as one escape with its number. -/
theorem spells_ofUnit (h : c.val < 0x10000) (hescaped : Json.escaped c = Json.unitEscape c.val) :
    Spells [ofUnit c.val] c := by
  have hunits : c.units = [c] := if_pos h
  refine ⟨?_, ?_, fun x hx => ?_⟩
  · rw [hescaped, ← ofChars_ofUnit h, inner_singleton]
  · rw [hunits]
    exact congrArg (fun c => [c]) ((codePoint_ofUnit h).trans c.ofNat_val)
  · rw [inner_singleton] at hx
    exact typed_ofUnit c.val x hx

/-- Past the basic plane a code point is two escapes, one for each of its surrogates. -/
theorem spells_ofUnits (h : ¬c.val < 0x10000) (hescaped : Json.escaped c =
      Json.unitEscape (0xD800 + (c.val - 0x10000) / 0x400) ++
        Json.unitEscape (0xDC00 + (c.val - 0x10000) % 0x400)) :
    Spells [ofUnit (0xD800 + (c.val - 0x10000) / 0x400),
      ofUnit (0xDC00 + (c.val - 0x10000) % 0x400)] c := by
  have hlt := c.isLt
  have hhigh : 0xD800 + (c.val - 0x10000) / 0x400 < 0x10000 := by omega
  have hlow : 0xDC00 + (c.val - 0x10000) % 0x400 < 0x10000 := by omega
  have hunits : c.units = [.ofNat (0xD800 + (c.val - 0x10000) / 0x400),
    .ofNat (0xDC00 + (c.val - 0x10000) % 0x400)] := if_neg h
  refine ⟨?_, ?_, fun x hx => ?_⟩
  · rw [hescaped, ← ofChars_ofUnit hhigh, ← ofChars_ofUnit hlow, ← Text.ofChars_append]
    rfl
  · rw [hunits, ← codePoint_ofUnit hhigh, ← codePoint_ofUnit hlow]
    rfl
  · rw [JsonString.inner_cons, inner_singleton] at hx
    rcases List.mem_append.mp hx with hx | hx
    · exact typed_ofUnit _ x hx
    · exact typed_ofUnit _ x hx

end Spelled

/-- In each of its cases the printer writes a code point as parts of a string that stand for its units. The
cases are those of `Json.escaped`. -/
theorem spells_written (c : CodePoint) : Spells (written c) c := by
  unfold written
  -- The seven code points with a short escape are closed terms, and so is what is said of them.
  by_cases h₁ : c = '"'
  · subst h₁
    exact ⟨rfl, rfl, forall_mem_of_all (by decide)⟩
  by_cases h₂ : c = '\\'
  · subst h₂
    exact ⟨rfl, rfl, forall_mem_of_all (by decide)⟩
  by_cases h₃ : c = '\n'
  · subst h₃
    exact ⟨rfl, rfl, forall_mem_of_all (by decide)⟩
  by_cases h₄ : c = '\r'
  · subst h₄
    exact ⟨rfl, rfl, forall_mem_of_all (by decide)⟩
  by_cases h₅ : c = '\t'
  · subst h₅
    exact ⟨rfl, rfl, forall_mem_of_all (by decide)⟩
  by_cases h₆ : c.val = 0x08
  · obtain rfl : c = .ofNat 0x08 := CodePoint.eq_iff_val.mpr h₆
    exact ⟨rfl, rfl, forall_mem_of_all (by decide)⟩
  by_cases h₇ : c.val = 0x0C
  · obtain rfl : c = .ofNat 0x0C := CodePoint.eq_iff_val.mpr h₇
    exact ⟨rfl, rfl, forall_mem_of_all (by decide)⟩
  -- For the others the printer and the spelling ask the same three questions.
  rw [if_neg h₁, if_neg h₂, if_neg h₃, if_neg h₄, if_neg h₅, if_neg h₆, if_neg h₇]
  have hescaped : Json.escaped c =
      if 0x20 ≤ c.val ∧ c.val ≤ 0x7E then [c]
      else if c.val < 0x10000 then Json.unitEscape c.val
      else
        Json.unitEscape (0xD800 + (c.val - 0x10000) / 0x400) ++
          Json.unitEscape (0xDC00 + (c.val - 0x10000) % 0x400) := by
    unfold Json.escaped
    rw [if_neg h₁, if_neg h₂, if_neg h₃, if_neg h₄, if_neg h₅, if_neg h₆, if_neg h₇]
  by_cases h₈ : 0x20 ≤ c.val ∧ c.val ≤ 0x7E
  · have hplain := isPlainChar_of_typed h₈ h₁ h₂
    rw [if_pos h₈] at hescaped
    rw [if_pos h₈, dif_pos hplain]
    exact spells_plain h₈ hplain hescaped
  rw [if_neg h₈] at hescaped ⊢
  by_cases h₉ : c.val < 0x10000
  · rw [if_pos h₉] at hescaped ⊢
    exact spells_ofUnit h₉ hescaped
  · rw [if_neg h₉] at hescaped ⊢
    exact spells_ofUnits h₉ hescaped

end StringPart

namespace JsonString

/-- The units of what a surrogate pair stands for. -/
theorem units_pair {high low : CodePoint} (hhigh : isHighSurrogate high = true)
    (hlow : isLowSurrogate low = true) : CodePoint.units
      (.ofNat (0x10000 + (high.val - 0xD800) * 0x400 + (low.val - 0xDC00))) = [high, low] := by
  unfold isHighSurrogate at hhigh
  unfold isLowSurrogate at hlow
  rw [Bool.and_eq_true, decide_eq_true_eq, decide_eq_true_eq] at hhigh hlow
  have hval : (CodePoint.ofNat (0x10000 + (high.val - 0xD800) * 0x400 + (low.val - 0xDC00))).val =
      0x10000 + (high.val - 0xD800) * 0x400 + (low.val - 0xDC00) :=
    CodePoint.val_ofNat (by omega)
  have hfirst : 0xD800 + (0x10000 + (high.val - 0xD800) * 0x400 + (low.val - 0xDC00) - 0x10000) / 0x400
      = high.val := by
    omega
  have hsecond : 0xDC00 + (0x10000 + (high.val - 0xD800) * 0x400 + (low.val - 0xDC00) - 0x10000) % 0x400
      = low.val := by
    omega
  unfold CodePoint.units
  rw [hval, if_neg (by omega), hfirst, hsecond, CodePoint.ofNat_val, CodePoint.ofNat_val]

/-- The units of a text without code points past the basic plane are found again in pairs. -/
theorem units_paired (t : Text) (h : t.isBasic = true) : (paired t).units = t := by
  induction t using paired.induct with
  | case1 => rfl
  | case2 c => exact Text.units_of_isBasic h
  | case3 high low rest hpair ih =>
    rw [Text.isBasic, List.all_cons, List.all_cons, Bool.and_eq_true, Bool.and_eq_true] at h
    -- A pair becomes one code point, which is taken apart into the same two units.
    rw [paired, if_pos hpair]
    rw [Bool.and_eq_true] at hpair
    unfold Text.units
    rw [List.flatMap_cons, units_pair hpair.1 hpair.2]
    exact congrArg (high :: low :: ·) (ih h.2.2)
  | case4 high low rest hnot ih =>
    rw [Text.isBasic, List.all_cons, Bool.and_eq_true, decide_eq_true_eq] at h
    have hhigh : high.units = [high] := if_pos h.1
    rw [paired, if_neg hnot]
    unfold Text.units
    rw [List.flatMap_cons, hhigh]
    exact congrArg (high :: ·) (ih h.2)

/-- The string that the printer writes for a text. Each code point is written for itself, so a surrogate
pair that is in the text already looks like an escaped code point. -/
def written (t : Text) : JsonString :=
  t.flatMap StringPart.written

/-- A written string is what the printer writes, in printable ASCII. -/
theorem ofChars_inner_written (t : Text) :
    Text.ofChars (inner (written t)) = t.flatMap Json.escaped := by
  induction t with
  | nil => rfl
  | cons c t ih =>
    unfold written
    rw [List.flatMap_cons, List.flatMap_cons, ← ih, ← (StringPart.spells_written c).text,
      ← Text.ofChars_append]
    exact congrArg Text.ofChars List.flatMap_append

/-- So the printer writes a text as a string does that stands for it. This is what turns statements about
printed text into statements about syntax trees. -/
theorem ofChars_written (t : Text) : Text.ofChars (chars (written t)) = Json.string t := by
  unfold chars Json.string
  rw [Text.ofChars_append, ← ofChars_inner_written]
  rfl

/-- All that the printer writes is printable ASCII. -/
theorem typed_written (t : Text) :
    ∀ x ∈ chars (written t), 0x20 ≤ x.toNat ∧ x.toNat ≤ 0x7E := by
  have hinner : ∀ x ∈ inner (written t), 0x20 ≤ x.toNat ∧ x.toNat ≤ 0x7E := by
    intro x hx
    unfold inner written at hx
    rw [List.flatMap_assoc] at hx
    obtain ⟨c, -, hx⟩ := List.mem_flatMap.mp hx
    exact (StringPart.spells_written c).typed x hx
  intro x hx
  unfold chars at hx
  rcases List.mem_append.mp hx with hx | hx
  · rcases List.mem_cons.mp hx with rfl | hx
    · decide
    · exact hinner x hx
  · rw [List.mem_singleton.mp hx]
    decide

/-- No printable ASCII character ends a line. -/
theorem isBreak_of_typed {x : Char} (h : 0x20 ≤ x.toNat ∧ x.toNat ≤ 0x7E) :
    Source.isBreak x = false := by
  unfold Source.isBreak
  have hne {y : Char} (hy : y.toNat < 0x20 ∨ 0x7E < y.toNat) : x ≠ y := by
    rintro rfl
    omega
  simp only [Bool.or_eq_false_iff, beq_eq_false_iff_ne]
  exact ⟨⟨⟨⟨hne (by decide), hne (by decide)⟩, hne (by decide)⟩, hne (by decide)⟩, hne (by decide)⟩

/-- So the printer never breaks a line inside a string, not even by an escape. -/
theorem break?_of_mem_written {t : Text} {part : StringPart} (h : part ∈ written t) :
    part.break? = none := by
  obtain ⟨cs, hcs⟩ := part.chars_eq_cons
  have hmem : part.first ∈ inner (written t) :=
    List.mem_flatMap.mpr ⟨part, h, hcs ▸ List.mem_cons_self⟩
  have htyped := typed_written t part.first
    (List.mem_append_left _ (List.mem_cons_of_mem _ hmem))
  rw [StringPart.break?_eq, isBreak_of_typed htyped]
  rfl

/-- Read as JSON, the string has the units of the text, one for each part. -/
theorem codePoint_written (t : Text) : (written t).map StringPart.codePoint = t.units := by
  unfold written Text.units
  rw [List.map_flatMap]
  exact congrArg t.flatMap (funext fun c => (StringPart.spells_written c).units)

/-- A written string is read as the units of its text. Nothing in it is folded, since the printer escapes
line breaks. -/
theorem reading_written (t : Text) : reading (written t) = t.units := by
  unfold reading
  rw [readingFrom_of_breakless fun part hpart => break?_of_mem_written hpart, codePoint_written]

/-- Written strings of different texts in the basic plane stand for different texts. -/
theorem value_written_inj {s t : Text} (hs : s.isBasic = true) (ht : t.isBasic = true)
    (h : value (written s) = value (written t)) : s = t := by
  unfold value at h
  rw [codePoint_written, codePoint_written, Text.units_of_isBasic hs, Text.units_of_isBasic ht] at h
  rw [← units_paired s hs, ← units_paired t ht, h]

/-- A scanner of YAML reads the string, too: it is on one line, and has no escape that YAML does not
know. -/
theorem isScannable_written (t : Text) : isScannable (written t) = true := by
  have h := isScannable_append (v := written t) (u := [])
    fun part hpart => break?_of_mem_written hpart
  rw [List.append_nil] at h
  exact h

/-- The one limit of a key is its length. A printed key has no line break, and its colon stands right
behind it. -/
theorem fitsKey_written (t : Text) :
    fitsKey (written t) [] = decide ((Json.string t).length ≤ 1024) := by
  have hbreak : (chars (written t) ++ gapChars []).any Source.isBreak = false := by
    refine List.any_eq_false.mpr fun x hx => ?_
    rw [show chars (written t) ++ gapChars [] = chars (written t) from List.append_nil _] at hx
    rw [isBreak_of_typed (typed_written t x hx)]
    exact Bool.false_ne_true
  have hlength : (chars (written t) ++ gapChars []).length = (Json.string t).length := by
    rw [← ofChars_written, Text.length_ofChars]
    exact congrArg List.length (List.append_nil _)
  unfold fitsKey
  dsimp only
  rw [hbreak, hlength, Bool.not_false, Bool.and_true]

end JsonString

end JsonText

/-! ## ASCII -/

namespace Json

/-- A line feed or a code point of printable ASCII. The output of the printer has no others, and so it can
be written to any file and read from it. -/
def isLinePoint (c : CodePoint) : Bool :=
  c.val == 0x0A || (0x20 ≤ c.val && c.val ≤ 0x7E)

/-- A string stays on its line. -/
theorem all_string (t : Text) : (string t).all isLinePoint = true := by
  rw [← JsonText.JsonString.ofChars_written]
  refine List.all_eq_true.mpr fun c hc => ?_
  obtain ⟨x, hx, rfl⟩ := List.mem_map.mp hc
  obtain ⟨hle, hge⟩ := JsonText.JsonString.typed_written t x hx
  unfold isLinePoint
  rw [CodePoint.val_ofChar, decide_eq_true hle, decide_eq_true hge]
  exact Bool.or_true _

/-- The white space between tokens is made of breaks and spaces. -/
theorem all_newline (depth : Nat) : (newline depth).all isLinePoint = true := by
  unfold newline
  rw [List.all_cons, List.all_replicate]
  simp [isLinePoint]

/-- Numbers are made of digits. -/
theorem all_ofNat (n : Nat) : (Text.ofNat n).all isLinePoint = true := by
  refine List.all_eq_true.mpr fun c hc => ?_
  have hdigit := Text.isDigit_of_mem_ofNat hc
  have hle : 0x20 ≤ c.val := Nat.le_trans (by decide) hdigit.1
  have hge : c.val ≤ 0x7E := Nat.le_trans hdigit.2 (by decide)
  unfold isLinePoint
  rw [decide_eq_true hle, decide_eq_true hge]
  exact Bool.or_true _

mutual

/-- A printed value is ASCII on lines. So it can be written in any encoding that has ASCII, and is read
back as the same characters. -/
theorem all_printedAt (j : Json) (depth : Nat) : (j.printedAt depth).all isLinePoint = true := by
  match j with
  | .null => exact (rfl : (Text.ofString "null").all isLinePoint = true)
  | .bool true => exact (rfl : (Text.ofString "true").all isLinePoint = true)
  | .bool false => exact (rfl : (Text.ofString "false").all isLinePoint = true)
  | .int (.ofNat n) => exact all_ofNat n
  | .int (.negSucc n) => exact all_ofNat (n + 1)
  | .text t => exact all_string t
  | .array [] => exact (rfl : (Text.ofString "[]").all isLinePoint = true)
  | .array (item :: rest) =>
    unfold printedAt
    simp only [List.all_append, all_newline, all_printedAt item, all_printedItems rest]
    rfl
  | .object [] => exact (rfl : (Text.ofString "\x7b\x7d").all isLinePoint = true)
  | .object ((key, value) :: rest) =>
    unfold printedAt
    simp only [List.all_append, all_newline, all_string, all_printedAt value,
      all_printedMembers rest]
    rfl

/-- The same for further items of an array. -/
theorem all_printedItems (items : List Json) (depth : Nat) :
    (printedItems depth items).all isLinePoint = true := by
  match items with
  | [] => rfl
  | item :: rest =>
    unfold printedItems
    simp only [List.all_append, all_newline, all_printedAt item, all_printedItems rest]
    rfl

/-- The same for further members of an object. -/
theorem all_printedMembers (members : List (Text × Json)) (depth : Nat) :
    (printedMembers depth members).all isLinePoint = true := by
  match members with
  | [] => rfl
  | (key, value) :: rest =>
    unfold printedMembers
    simp only [List.all_append, all_newline, all_string, all_printedAt value,
      all_printedMembers rest]
    rfl

end

end Json

namespace JsonText

/-! ## Arrays and objects -/

/-- A new line at a depth, which the printer indents by two spaces for each level. -/
def gapAt (depth : Nat) : Gap :=
  .lineFeed :: List.replicate (2 * depth) .space

/-- The white space in a tree is what the printer puts between tokens at this depth. -/
theorem ofChars_gapAt (depth : Nat) : Text.ofChars (gapChars (gapAt depth)) = Json.newline depth := by
  unfold Text.ofChars gapChars gapAt Json.newline
  rw [List.map_map, List.map_cons, List.map_replicate]
  rfl

/-- There are no tabs in it, which YAML does not allow for indentation. -/
theorem isTabless_gapAt (depth : Nat) : isTabless (gapAt depth) = true := by
  unfold isTabless gapAt
  rw [Bool.not_eq_true', List.contains_eq_mem, decide_eq_false_iff_not]
  intro h
  rcases List.mem_cons.mp h with h | h
  · cases h
  · cases List.eq_of_mem_replicate h

/-- Items on lines of their own. The comma stands behind the item, with no white space before it. -/
def Items.ofList (depth : Nat) : Tree → List Tree → Items
  | item, [] => .last (gapAt (depth + 1)) item (gapAt depth)
  | item, next :: rest => .more (gapAt (depth + 1)) item [] (ofList depth next rest)

/-- An array with its items on lines of their own. An empty one has nothing between its brackets. -/
def Tree.ofItems (depth : Nat) : List Tree → Tree
  | [] => .emptyArray []
  | item :: rest => .array (.ofList depth item rest)

/-- Members on lines of their own. There is a space behind the colon and none before it. -/
def Members.ofList (depth : Nat) : JsonString × Tree → List (JsonString × Tree) → Members
  | m, [] => .last (gapAt (depth + 1)) m.1 [] [.space] m.2 (gapAt depth)
  | m, next :: rest => .more (gapAt (depth + 1)) m.1 [] [.space] m.2 [] (ofList depth next rest)

/-- An object with its members on lines of their own. An empty one has nothing between its braces. -/
def Tree.ofMembers (depth : Nat) : List (JsonString × Tree) → Tree
  | [] => .emptyObject []
  | m :: rest => .object (.ofList depth m rest)

/-- The tree is what the printer writes for a value at a depth. With it a printed value is a JSON text,
and what is known about reading JSON texts applies to it. -/
def Tree.Prints (t : Tree) (depth : Nat) (j : Json) : Prop :=
  Text.ofChars t.chars = j.printedAt depth

section Printing

variable {depth : Nat}

/-- A text is printed as the string that is written for it. -/
theorem prints_string (t : Text) : (Tree.string (.written t)).Prints depth (.text t) :=
  JsonString.ofChars_written t

/-- The items of an array with the white space around them, under the assumption that each of them is
printed. Induction on the items behind the first one. -/
theorem Items.ofChars_ofList {item : Tree} {rest : List Tree} {j : Json} {items : List Json}
    (hitem : item.Prints (depth + 1) j)
    (h : List.Forall₂ (fun t j => Tree.Prints t (depth + 1) j) rest items) :
    Text.ofChars (Items.ofList depth item rest).chars = Json.newline (depth + 1) ++
      j.printedAt (depth + 1) ++ Json.printedItems (depth + 1) items ++ Json.newline depth := by
  have hitem : Text.ofChars item.chars = j.printedAt (depth + 1) := hitem
  induction h generalizing item j with
  | nil =>
    unfold Items.ofList Items.chars Json.printedItems
    simp only [Text.ofChars_append, ofChars_gapAt, hitem, List.append_nil]
  | @cons next j' rest items hnext _ ih =>
    have hcomma : (Text.ofString ",") = [CodePoint.ofChar ','] := rfl
    unfold Items.ofList Items.chars Json.printedItems
    simp only [Text.ofChars_append, Text.ofChars_cons, ofChars_gapAt, hitem, ih hnext hnext, hcomma,
      List.append_assoc, List.cons_append, List.nil_append]
    rfl

/-- An array is printed as the tree with the trees of its items. -/
theorem prints_array {trees : List Tree} {items : List Json}
    (h : List.Forall₂ (fun t j => Tree.Prints t (depth + 1) j) trees items) :
    (Tree.ofItems depth trees).Prints depth (.array items) := by
  cases h with
  | nil => rfl
  | cons hitem hrest =>
    unfold Tree.Prints Tree.ofItems Tree.chars Json.printedAt
    rw [Text.ofChars_append, Text.ofChars_cons, Items.ofChars_ofList hitem hrest]
    simp only [List.append_assoc, List.cons_append]
    rfl

/-- The same for the members of an object, whose names are strings. -/
theorem Members.ofChars_ofList {m : JsonString × Tree} {rest : List (JsonString × Tree)}
    {e : Text × Json} {members : List (Text × Json)}
    (hm : m.1 = .written e.1 ∧ m.2.Prints (depth + 1) e.2)
    (h : List.Forall₂ (fun m e => m.1 = .written e.1 ∧ Tree.Prints m.2 (depth + 1) e.2)
      rest members) :
    Text.ofChars (Members.ofList depth m rest).chars = Json.newline (depth + 1) ++
      Json.string e.1 ++ (": " : Text) ++ e.2.printedAt (depth + 1) ++
        Json.printedMembers (depth + 1) members ++ Json.newline depth := by
  have hvalue : Text.ofChars m.2.chars = e.2.printedAt (depth + 1) := hm.2
  have hkey : Text.ofChars (JsonString.chars m.1) = Json.string e.1 :=
    hm.1 ▸ JsonString.ofChars_written e.1
  have hcolon : (Text.ofString ": ") = [CodePoint.ofChar ':', CodePoint.ofChar ' '] := rfl
  have hspace : gapChars [.space] = [' '] := rfl
  have hnone : gapChars [] = [] := rfl
  induction h generalizing m e with
  | nil =>
    unfold Members.ofList Members.chars Json.printedMembers
    simp only [Text.ofChars_append, Text.ofChars_cons, ofChars_gapAt, hvalue, hkey, hcolon, hspace,
      hnone, List.append_nil, List.append_assoc, List.cons_append, List.nil_append]
  | @cons next e' rest members hnext _ ih =>
    have hcomma : (Text.ofString ",") = [CodePoint.ofChar ','] := rfl
    have hvalue' : Text.ofChars next.2.chars = e'.2.printedAt (depth + 1) := hnext.2
    have hkey' : Text.ofChars (JsonString.chars next.1) = Json.string e'.1 :=
      hnext.1 ▸ JsonString.ofChars_written e'.1
    unfold Members.ofList Members.chars Json.printedMembers
    simp only [Text.ofChars_append, Text.ofChars_cons, ofChars_gapAt, hvalue, hkey, hcolon, hspace,
      hnone, ih hnext hvalue' hkey', hcomma, List.append_nil, List.append_assoc, List.cons_append,
      List.nil_append]

/-- An object is printed as the tree with the trees of its members. -/
theorem prints_object {trees : List (JsonString × Tree)} {members : List (Text × Json)}
    (h : List.Forall₂ (fun m e => m.1 = .written e.1 ∧ Tree.Prints m.2 (depth + 1) e.2)
      trees members) :
    (Tree.ofMembers depth trees).Prints depth (.object members) := by
  cases h with
  | nil => rfl
  | @cons m e rest members hm hrest =>
    obtain ⟨key, value⟩ := e
    unfold Tree.Prints Tree.ofMembers Tree.chars Json.printedAt
    rw [Text.ofChars_append, Text.ofChars_cons, Members.ofChars_ofList hm hrest]
    simp only [List.append_assoc, List.cons_append]
    rfl

end Printing

/-! ## What is read of printed arrays and objects -/

section Reading

variable {depth : Nat}

/-- White space does not count for the data of a tree, so items give the list of their data. -/
theorem Items.data_ofList (string : JsonString → Text) (number : Number → Scalar) (item : Tree)
    (rest : List Tree) : (Items.ofList depth item rest).data string number =
      (item :: rest).map (Tree.data string number) := by
  induction rest generalizing item with
  | nil => rfl
  | cons next rest ih => exact congrArg (item.data string number :: ·) (ih next)

/-- The data of a printed array. -/
theorem Tree.data_ofItems (string : JsonString → Text) (number : Number → Scalar)
    (trees : List Tree) : (Tree.ofItems depth trees).data string number =
      .list (trees.map (Tree.data string number)) := by
  cases trees with
  | nil => rfl
  | cons item rest => exact congrArg Value.list (Items.data_ofList string number item rest)

/-- Members give entries, each with the name as a text. -/
theorem Members.data_ofList (string : JsonString → Text) (number : Number → Scalar)
    (m : JsonString × Tree) (rest : List (JsonString × Tree)) :
    (Members.ofList depth m rest).data string number =
      (m :: rest).map fun m => (.text (string m.1), m.2.data string number) := by
  induction rest generalizing m with
  | nil => rfl
  | cons next rest ih => exact congrArg (_ :: ·) (ih next)

/-- The data of a printed object. -/
theorem Tree.data_ofMembers (string : JsonString → Text) (number : Number → Scalar)
    (trees : List (JsonString × Tree)) : (Tree.ofMembers depth trees).data string number =
      .mapping (trees.map fun m => (.text (string m.1), m.2.data string number)) := by
  cases trees with
  | nil => rfl
  | cons m rest => exact congrArg Value.mapping (Members.data_ofList string number m rest)

/-- The names of printed members in their order. -/
theorem Members.keys_ofList (m : JsonString × Tree) (rest : List (JsonString × Tree)) :
    (Members.ofList depth m rest).keys = (m :: rest).map Prod.fst := by
  induction rest generalizing m with
  | nil => rfl
  | cons next rest ih => exact congrArg (m.1 :: ·) (ih next)

/-- The conditions on trees that are conditions on all trees inside of them. Keys are left out, since
whether they fit depends on the colon behind them. -/
structure Tree.IsPlain (t : Tree) : Prop where
  scannable : t.isScannable = true
  writable : t.isWritable = true

/-- A printed string is one that readers of YAML can scan. -/
theorem isPlain_string (t : Text) : (Tree.string (.written t)).IsPlain :=
  ⟨JsonString.isScannable_written t, rfl⟩

/-- If the items can be scanned and written, so can all of them in a row: the white space between them has
no tabs. -/
theorem Items.isPlain_ofList {item : Tree} {rest : List Tree} (h : ∀ t ∈ item :: rest, t.IsPlain) :
    (Items.ofList depth item rest).isScannable = true ∧
      (Items.ofList depth item rest).isWritable = true := by
  induction rest generalizing item with
  | nil =>
    have hitem := h item List.mem_cons_self
    refine ⟨?_, hitem.writable⟩
    unfold Items.ofList Items.isScannable
    rw [isTabless_gapAt, isTabless_gapAt, hitem.scannable]
    rfl
  | cons next rest ih =>
    have hitem := h item List.mem_cons_self
    have hrest := ih fun t ht => h t (List.mem_cons_of_mem _ ht)
    constructor
    · unfold Items.ofList Items.isScannable
      rw [isTabless_gapAt, hitem.scannable, hrest.1]
      rfl
    · unfold Items.ofList Items.isWritable
      rw [hitem.writable, hrest.2]
      rfl

/-- So printed arrays are plain if their items are. -/
theorem isPlain_ofItems {trees : List Tree} (h : ∀ t ∈ trees, t.IsPlain) :
    (Tree.ofItems depth trees).IsPlain := by
  cases trees with
  | nil => exact ⟨rfl, rfl⟩
  | cons item rest => exact ⟨(Items.isPlain_ofList h).1, (Items.isPlain_ofList h).2⟩

/-- The same for members, whose names have to be printed strings. -/
theorem Members.isPlain_ofList {m : JsonString × Tree} {rest : List (JsonString × Tree)}
    (h : ∀ e ∈ m :: rest, (∃ t, e.1 = .written t) ∧ e.2.IsPlain) :
    (Members.ofList depth m rest).isScannable = true ∧
      (Members.ofList depth m rest).isWritable = true := by
  have hspace : isTabless [.space] = true := rfl
  have hnone : isTabless [] = true := rfl
  induction rest generalizing m with
  | nil =>
    obtain ⟨⟨t, hkey⟩, hitem⟩ := h m List.mem_cons_self
    refine ⟨?_, hitem.writable⟩
    unfold Members.ofList Members.isScannable
    rw [isTabless_gapAt, isTabless_gapAt, hitem.scannable, hkey, JsonString.isScannable_written,
      hspace, hnone]
    rfl
  | cons next rest ih =>
    obtain ⟨⟨t, hkey⟩, hitem⟩ := h m List.mem_cons_self
    have hrest := ih fun e he => h e (List.mem_cons_of_mem _ he)
    constructor
    · unfold Members.ofList Members.isScannable
      rw [isTabless_gapAt, hitem.scannable, hkey, JsonString.isScannable_written, hspace, hnone,
        hrest.1]
      rfl
    · unfold Members.ofList Members.isWritable
      rw [hitem.writable, hrest.2]
      rfl

/-- So printed objects are plain if what is in them is. -/
theorem isPlain_ofMembers {trees : List (JsonString × Tree)}
    (h : ∀ m ∈ trees, (∃ t, m.1 = .written t) ∧ m.2.IsPlain) :
    (Tree.ofMembers depth trees).IsPlain := by
  cases trees with
  | nil => exact ⟨rfl, rfl⟩
  | cons m rest => exact ⟨(Members.isPlain_ofList h).1, (Members.isPlain_ofList h).2⟩

/-- Items have no names of their own, so what is asked of names is asked of each item. -/
theorem Items.keys_ofList (item : Tree) (rest : List Tree) :
    (Items.ofList depth item rest).keysFit = (item :: rest).all Tree.keysFit ∧
      (Items.ofList depth item rest).keysDiffer = (item :: rest).all Tree.keysDiffer := by
  induction rest generalizing item with
  | nil => exact ⟨(Bool.and_true _).symm, (Bool.and_true _).symm⟩
  | cons next rest ih =>
    exact ⟨congrArg (item.keysFit && ·) (ih next).1, congrArg (item.keysDiffer && ·) (ih next).2⟩

/-- An array has no keys of its own. -/
theorem keys_ofItems (trees : List Tree) :
    (Tree.ofItems depth trees).keysFit = trees.all Tree.keysFit ∧
      (Tree.ofItems depth trees).keysDiffer = trees.all Tree.keysDiffer := by
  cases trees with
  | nil => exact ⟨rfl, rfl⟩
  | cons item rest => exact Items.keys_ofList item rest

/-- A name has to fit on one line, together with the colon behind it. -/
theorem Members.keysFit_ofList (m : JsonString × Tree) (rest : List (JsonString × Tree)) :
    (Members.ofList depth m rest).keysFit =
      (m :: rest).all fun m => JsonString.fitsKey m.1 [] && m.2.keysFit := by
  induction rest generalizing m with
  | nil => exact (Bool.and_true _).symm
  | cons next rest ih => exact congrArg (JsonString.fitsKey m.1 [] && m.2.keysFit && ·) (ih next)

/-- The names of a printed object fit if each of them does, and all names further inside. -/
theorem keysFit_ofMembers (trees : List (JsonString × Tree)) :
    (Tree.ofMembers depth trees).keysFit =
      trees.all fun m => JsonString.fitsKey m.1 [] && m.2.keysFit := by
  cases trees with
  | nil => rfl
  | cons m rest => exact Members.keysFit_ofList m rest

/-- Names further inside differ if those of each member do. -/
theorem Members.keysDiffer_ofList (m : JsonString × Tree) (rest : List (JsonString × Tree)) :
    (Members.ofList depth m rest).keysDiffer = (m :: rest).all fun m => m.2.keysDiffer := by
  induction rest generalizing m with
  | nil => exact (Bool.and_true _).symm
  | cons next rest ih => exact congrArg (m.2.keysDiffer && ·) (ih next)

/-- The names of a printed object differ if no two of them stand for one text, and so on inside. -/
theorem keysDiffer_ofMembers (trees : List (JsonString × Tree)) :
    (Tree.ofMembers depth trees).keysDiffer =
      (decide ((trees.map Prod.fst).map JsonString.value).Nodup &&
        trees.all fun m => m.2.keysDiffer) := by
  cases trees with
  | nil => rfl
  | cons m rest =>
    rw [Tree.ofMembers, Tree.keysDiffer, Members.keys_ofList, Members.keysDiffer_ofList]

/-- The text of every scalar in the value has the property. It is said of what happens in the value, so
that keys are covered as well as strings. -/
def Tree.Speaks (P : Text → Prop) (t : Tree) : Prop :=
  ∀ p form content, Yaml.Happening.scalar p form content ∈ t.happenings → P content

variable {P : Text → Prop}

/-- The scalar that a string makes is what the string is read as. -/
theorem speaks_string {t : Text} (h : P t.units) : (Tree.string (.written t)).Speaks P := by
  intro p form content hmem
  cases List.mem_singleton.mp hmem
  rw [JsonString.reading_written]
  exact h

/-- The events of items come one after the other. -/
theorem Items.happenings_ofList (item : Tree) (rest : List Tree) :
    (Items.ofList depth item rest).happenings = (item :: rest).flatMap Tree.happenings := by
  induction rest generalizing item with
  | nil => exact (List.append_nil _).symm
  | cons next rest ih => exact congrArg (item.happenings ++ ·) (ih next)

/-- So an array speaks only of what its items do. -/
theorem speaks_ofItems {trees : List Tree} (h : ∀ t ∈ trees, t.Speaks P) :
    (Tree.ofItems depth trees).Speaks P := by
  intro p form content hmem
  cases trees with
  | nil =>
    rcases List.mem_pair.mp hmem with h | h
    · cases h
    · cases h
  | cons item rest =>
    unfold Tree.ofItems Tree.happenings at hmem
    rw [Items.happenings_ofList] at hmem
    rcases List.mem_append.mp hmem with hmem | hmem
    · rcases List.mem_cons.mp hmem with hmem | hmem
      · cases hmem
      · obtain ⟨t, ht, hmem⟩ := List.mem_flatMap.mp hmem
        exact h t ht p form content hmem
    · cases List.mem_singleton.mp hmem

/-- A member makes the scalar of its name, and then what its value makes. -/
theorem Members.happenings_ofList (m : JsonString × Tree) (rest : List (JsonString × Tree)) :
    (Members.ofList depth m rest).happenings = (m :: rest).flatMap fun m =>
      bareScalar .string (JsonString.reading m.1) :: m.2.happenings := by
  induction rest generalizing m with
  | nil => exact (List.append_nil _).symm
  | cons next rest ih =>
    exact congrArg (bareScalar .string (JsonString.reading m.1) :: m.2.happenings ++ ·) (ih next)

/-- So an object speaks only of its names and of what its values do. -/
theorem speaks_ofMembers {trees : List (JsonString × Tree)}
    (h : ∀ m ∈ trees, P (JsonString.reading m.1) ∧ m.2.Speaks P) :
    (Tree.ofMembers depth trees).Speaks P := by
  intro p form content hmem
  cases trees with
  | nil =>
    rcases List.mem_pair.mp hmem with h | h
    · cases h
    · cases h
  | cons m rest =>
    unfold Tree.ofMembers Tree.happenings at hmem
    rw [Members.happenings_ofList] at hmem
    rcases List.mem_append.mp hmem with hmem | hmem
    · rcases List.mem_cons.mp hmem with hmem | hmem
      · cases hmem
      · obtain ⟨e, he, hmem⟩ := List.mem_flatMap.mp hmem
        rcases List.mem_cons.mp hmem with hmem | hmem
        · cases hmem
          exact (h e he).1
        · exact (h e he).2 p form content hmem
    · cases List.mem_singleton.mp hmem

end Reading

namespace Document

/-- What is not read as a document of YAML is none. -/
theorem readable_of_ofText {d : Document} {read : Option Yaml.Document}
    (h : Yaml.Document.ofText d.text = .ok read) : d.Readable := by
  by_contra hnot
  obtain ⟨fault, hfault⟩ := exists_fault_of_not_readable hnot
  rw [h] at hfault
  cases hfault

/-- A document has the texts of the JSON text that it is read from. -/
theorem over_ofText {d : Document} {doc : Yaml.Document} {P : Text → Prop} (hnil : P [])
    (hroot : d.root.Speaks P) (h : Yaml.Document.ofText d.text = .ok (some doc)) :
    doc.graph.Over P := by
  have hreadable := readable_of_ofText h
  obtain ⟨hprintable, hgood⟩ := d.readable_iff.mp hreadable
  obtain ⟨chars, hread, hevents⟩ := bind_eq_ok_iff.mp h
  rcases source_chars_ofChars d.chars with ⟨-, hchars⟩ | ⟨hnot, -⟩
  · obtain rfl : d.chars = chars := Except.ok.inj (hchars.symm.trans hread)
    rcases d.events with ⟨-, -, -, hhappenings⟩ | ⟨hbad, -⟩
    · refine Yaml.Document.over_ofEvents hnil (fun e he p form content heq => ?_) hevents
      have hmem : e.happening ∈ d.happenings := hhappenings ▸ List.mem_map_of_mem he
      rw [heq] at hmem
      -- What happens around the root is the beginning and the end of the document, without any text.
      unfold happenings at hmem
      rcases List.mem_append.mp hmem with hmem | hmem
      · rcases List.mem_cons.mp hmem with hmem | hmem
        · cases hmem
        · exact hroot p form content hmem
      · rcases List.mem_pair.mp hmem with h | h
        · cases h
        · cases h
    · exact absurd hgood hbad
  · exact absurd hprintable hnot

end Document

end JsonText

end TermAudit
