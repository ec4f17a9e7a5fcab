import TermAudit.Number.Shortest
import TermAudit.Text.Basic

/-!
# `TermAudit.Number.Style`: floating-point numbers in writing

`Binary64.shown` writes a number with the fewest digits that read back. What this leaves open is
decided by one record, `NumberStyle.plain`.
-/

set_option autoImplicit false

namespace TermAudit

/-- The choices that a way of writing floating-point numbers makes. -/
structure NumberStyle where
  /-- The least decimal exponent written positionally. -/
  leastPositional : Int
  /-- The greatest decimal exponent written positionally. -/
  greatestPositional : Int
  /-- What marks the exponent. -/
  exponentMark : Text
  /-- How many digits an exponent has at least. -/
  exponentDigits : Nat
  /-- What stands for an infinity, after its sign. -/
  infinity : Text
  /-- What stands for a result that is not a number. -/
  notANumber : Text

namespace NumberStyle

/-- Positional from 0.0001 up to sixteen digits before the point, and otherwise with a signed
exponent of two digits or more. -/
def plain : NumberStyle where
  leastPositional := -4
  greatestPositional := 15
  exponentMark := "e"
  exponentDigits := 2
  infinity := "inf"
  notANumber := "nan"

/-- So many zeros. -/
def zeros (n : Nat) : Text :=
  List.replicate n '0'

/-- Digits with a point after the first `places`; a number without a fraction keeps one zero. -/
def pointed (digits : Text) (places : Int) : Text :=
  if places ≤ 0 then ("0." : Text) ++ zeros (-places).toNat ++ digits
  else if digits.length ≤ places.toNat then
    digits ++ zeros (places.toNat - digits.length) ++ (".0" : Text)
  else digits.take places.toNat ++ ("." : Text) ++ digits.drop places.toNat

/-- Digits with a point after the first and an exponent; a single digit has no point. -/
def scientific (s : NumberStyle) (digits : Text) (exponent : Int) : Text :=
  let fraction := digits.drop 1
  let power := Text.ofNat exponent.natAbs
  digits.take 1 ++ (if fraction.isEmpty then [] else ("." : Text) ++ fraction)
    ++ s.exponentMark ++ (if exponent < 0 then ("-" : Text) else "+")
    ++ zeros (s.exponentDigits - power.length) ++ power

/-- A positive decimal. -/
def write (s : NumberStyle) (d : Decimal) : Text :=
  let digits := Text.ofNat d.digits
  let exponent := d.exponent + digits.length - 1
  if s.leastPositional ≤ exponent ∧ exponent ≤ s.greatestPositional then
    pointed digits (exponent + 1)
  else s.scientific digits exponent

end NumberStyle

namespace Binary64

/-- A number in the given style. -/
def written (s : NumberStyle) (x : Binary64) : Text :=
  let sign : Text := if x.isNegative then "-" else ""
  match x with
  | .nan _ => s.notANumber
  | .infinity _ => sign ++ s.infinity
  | .finite _ m e =>
    sign ++ if m = 0 then NumberStyle.pointed "0" 1 else s.write (Decimal.shortest m e)

/-- A number in the plain style. -/
def shown (x : Binary64) : Text :=
  x.written .plain

end Binary64

end TermAudit
