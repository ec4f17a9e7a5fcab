import TermAudit.Number.Shortest
import TermAudit.Text.Blank
import TermAudit.Text.Digit

/-!
# `TermAudit.Number.Reading`: numbers out of text

`Text.toInt?` reads an integer in a base, `Text.toBinary64?` a decimal number. Both allow white
space around the number, a sign, and the decimal digits of every script. An integer in base ten
may have at most `maxDecimalDigits` digits.
-/

set_option autoImplicit false

namespace TermAudit

/-- The greatest number of digits of an integer that is read or written in base ten. Beyond it both fail,
while bases that are powers of two have no such limit. -/
def maxDecimalDigits : Nat := 4300

/-- Whether an integer is too long to be written in base ten. Documents can give one in another base. -/
def isOverlong (n : Int) : Bool :=
  Nat.pow 10 maxDecimalDigits ≤ n.natAbs

/-- What is said about an integer that is too long to be written. -/
def overlongMessage : Text :=
  ("Exceeds the limit (" : Text) ++ Text.ofNat maxDecimalDigits
    ++ (" digits) for integer string conversion; " : Text)
    ++ ("use sys.set_int_max_str_digits() to increase the limit" : Text)

namespace Text

/-- White space that may surround a number: the information separators U+001C to U+001F may
not. -/
def isNumberBlank (c : CodePoint) : Bool :=
  c.isBlank && !(0x1C ≤ c.val && c.val ≤ 0x1F)

/-- Takes a sign from the start of a text: whether it is a minus, and the rest. -/
def takeSign : Text → Bool × Text
  | [] => (false, [])
  | c :: rest =>
    if c = '-' then (true, rest) else if c = '+' then (false, rest) else (false, c :: rest)

/-- A text as a number reads it: without white space around it and with ASCII digits. Gives
whether a minus comes first, and what follows the sign. -/
def signed (t : Text) : Bool × Text :=
  takeSign ((t.stripBy isNumberBlank).map CodePoint.toAsciiDigit)

/-- The letter that may follow a zero in front of digits of the base. -/
def baseLetters : Nat → List Char
  | 2 => ['b', 'B']
  | 8 => ['o', 'O']
  | 16 => ['x', 'X']
  | _ => []

/-- Drops a mark of the base, such as `0x`, from the start of the digits. -/
def dropBaseMark (base : Nat) (t : Text) : Text :=
  match t with
  | zero :: letter :: rest =>
    if zero = '0' ∧ (baseLetters base).any (CodePoint.ofChar · = letter) then rest else t
  | _ => t

/-- The integer that the text denotes in the base. -/
def toInt? (base : Nat) (t : Text) : Option Int :=
  let (negative, digits) := t.signed
  let digits := dropBaseMark base digits
  if base = 10 ∧ maxDecimalDigits < digits.length then none
  else
    (digits.digits? base).map fun n =>
      if negative then -(n : Int) else n

/-- Whether the text is the word in any mixture of ASCII capitals and small letters. -/
def isWord (word : String) (t : Text) : Bool :=
  t.map (fun c => if 0x41 ≤ c.val ∧ c.val ≤ 0x5A then c.val + 32 else c.val)
    == word.toList.map Char.toNat

/-- Splits off the ASCII digits at the start. -/
def spanDigits (t : Text) : Text × Text :=
  t.span fun c => 0x30 ≤ c.val && c.val ≤ 0x39

/-- The exponent at the end of a decimal number: nothing, or `e`, a sign and digits. -/
def exponent? : Text → Option Int
  | [] => some 0
  | mark :: rest =>
    if mark = 'e' ∨ mark = 'E' then
      let (negative, digits) := takeSign rest
      (digits.digits? 10).map fun n => if negative then -(n : Int) else n
    else none

/-- The decimal number that a text without sign denotes: digits, a point and more digits, with a
digit on one side at least, and an exponent. -/
def toDecimal? (t : Text) : Option Decimal := do
  let (whole, rest) := t.spanDigits
  let (fraction, rest) :=
    match rest with
    | point :: rest' => if point = '.' then Text.spanDigits rest' else ([], rest)
    | [] => ([], [])
  let digits ← (whole ++ fraction).digits? 10
  let exponent ← exponent? rest
  return ⟨digits, exponent - fraction.length⟩

end Text

namespace Binary64

/-- The number nearest to a decimal. More than 400 orders of magnitude from one the answer is
zero or infinite, and the power of ten is not computed. -/
def ofDecimal (negative : Bool) (d : Decimal) : Binary64 :=
  let magnitude : Int := d.exponent + (Nat.log2 d.digits * 30103 / 100000 : Nat)
  if d.digits = 0 ∨ magnitude < -400 then .finite negative 0 0
  else if 400 < magnitude then .infinity negative
  else if 0 ≤ d.exponent then ofFraction negative (d.digits * Nat.pow 10 d.exponent.toNat) 1
  else ofFraction negative d.digits (Nat.pow 10 (-d.exponent).toNat)

end Binary64

namespace Text

/-- The floating-point number that the text denotes, where `origin` marks one that is not a
number. -/
def toBinary64? (origin : Nat) (t : Text) : Option Binary64 :=
  let (negative, number) := t.signed
  if isWord "inf" number ∨ isWord "infinity" number then some (.infinity negative)
  else if isWord "nan" number then some (.nan origin)
  else number.toDecimal?.map (Binary64.ofDecimal negative)

end Text

end TermAudit
