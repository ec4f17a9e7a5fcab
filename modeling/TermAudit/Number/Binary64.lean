import TermAudit.Number.Rounding

/-!
# `TermAudit.Number.Binary64`: floating-point numbers by their exact values

A finite number is its sign, a significand below `2 ^ 53` and an exponent; its magnitude is
`significand * 2 ^ exponent` units of `2 ^ -1074`, the smallest positive number of the format. So
every magnitude is a natural number of units, and `ofUnits` rounds any positive fraction of units
to the nearest number, a tie to the even significand. Sums and products are the exact results,
rounded once.
-/

set_option autoImplicit false

namespace TermAudit

/-- A number of the IEEE 754 format binary64. All operations round to the nearest number, with ties to the
even significand. -/
inductive Binary64 where
  /-- Not a number. The origin tells apart the results of different computations. -/
  | nan (origin : Nat)
  /-- An infinity. -/
  | infinity (negative : Bool)
  /-- A finite number. -/
  | finite (negative : Bool) (significand exponent : Nat)
deriving DecidableEq

namespace Binary64

/-- The positive zero. -/
def zero : Binary64 := .finite false 0 0

/-- The number of units of `2 ^ -1074` in a whole. -/
def unitsPerOne : Nat := Nat.pow 2 1074

/-- The number nearest to `num / den` units. A significand of `2 ^ 53` after rounding is the
least one of the next exponent, and an exponent above 2045 is out of range. -/
def ofUnits (negative : Bool) (num den : Nat) : Binary64 :=
  let whole := num / den
  let excess := if whole = 0 then 0 else Nat.log2 whole + 1 - 53
  let m := roundToEven num (den * Nat.pow 2 excess)
  let (m, e) := if m = Nat.pow 2 53 then (Nat.pow 2 52, excess + 1) else (m, excess)
  if e > 2045 then .infinity negative else .finite negative m e

/-- The number nearest to the fraction `num / den`. The fraction is turned into units of the least
exponent, so that one rounding is enough for all magnitudes. -/
def ofFraction (negative : Bool) (num den : Nat) : Binary64 :=
  ofUnits negative (num * unitsPerOne) den

/-- The number nearest to an integer. -/
def ofInt (n : Int) : Binary64 :=
  ofFraction (n < 0) n.natAbs 1

/-- The exact value of a finite number in units, with its sign. -/
def units? : Binary64 → Option Int
  | .finite negative m e =>
    let magnitude : Int := m * Nat.pow 2 e
    some (if negative then -magnitude else magnitude)
  | _ => none

/-- Whether the sign is a minus. -/
def isNegative : Binary64 → Bool
  | .nan _ => false
  | .infinity negative => negative
  | .finite negative _ _ => negative

/-- Changes the sign. -/
def neg : Binary64 → Binary64
  | .nan origin => .nan origin
  | .infinity negative => .infinity !negative
  | .finite negative m e => .finite (!negative) m e

/-- The sum. A sum of exactly zero is negative only if both terms are. -/
def add (a b : Binary64) : Binary64 :=
  match a, b with
  | .nan origin, _ => .nan origin
  | _, .nan origin => .nan origin
  | .infinity s, .infinity t => if s = t then .infinity s else .nan 0
  | .infinity s, _ => .infinity s
  | _, .infinity t => .infinity t
  | .finite s m d, .finite t n e =>
    let x : Int := (if s then -1 else 1) * (m * Nat.pow 2 d : Nat)
    let y : Int := (if t then -1 else 1) * (n * Nat.pow 2 e : Nat)
    let sum := x + y
    if sum = 0 then .finite (s && t) 0 0 else ofUnits (sum < 0) sum.natAbs 1

/-- The product. Zero times an infinity is not a number. -/
def mul (a b : Binary64) : Binary64 :=
  match a, b with
  | .nan origin, _ => .nan origin
  | _, .nan origin => .nan origin
  | .infinity s, .infinity t => .infinity (s != t)
  | .infinity s, .finite t n _ => if n = 0 then .nan 0 else .infinity (s != t)
  | .finite s m _, .infinity t => if m = 0 then .nan 0 else .infinity (s != t)
  | .finite s m d, .finite t n e => ofUnits (s != t) (m * Nat.pow 2 d * (n * Nat.pow 2 e)) unitsPerOne

/-- Equality as numbers: zeros are equal whatever their signs. A number that is not a number
equals only those of its own origin. -/
def sameNumber (a b : Binary64) : Bool :=
  match a, b with
  | .nan x, .nan y => x == y
  | .infinity s, .infinity t => s == t
  | .finite .., .finite .. => a.units? == b.units?
  | _, _ => false

/-- Whether the number is exactly the integer. -/
def isInt (a : Binary64) (n : Int) : Bool :=
  a.units? == some (n * unitsPerOne)

end Binary64

end TermAudit
