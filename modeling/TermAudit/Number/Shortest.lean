import TermAudit.Number.Binary64

/-!
# `TermAudit.Number.Shortest`: the fewest digits that read back

The real numbers that round to a given binary64 number form an interval around it, with its ends
if the significand is even. For one digit, two digits and so on, `shortest` looks at the two
neighbours of the number on the grid of decimals with so many digits. The first grid with a
neighbour inside the interval gives the answer; of two neighbours the nearer one is taken, and at
equal distance the one with an even last digit.
-/

set_option autoImplicit false

namespace TermAudit

/-- A decimal number `digits * 10 ^ exponent`. -/
structure Decimal where
  digits : Nat
  exponent : Int
deriving DecidableEq

namespace Decimal

/-- The least `k` with `num < 10 ^ k * den`, looked for from `k` on. -/
def magnitudeFrom (num den : Nat) : Nat → Int → Int
  | 0, k => k
  | fuel + 1, k =>
    let below := if 0 ≤ k then num < Nat.pow 10 k.toNat * den else num * Nat.pow 10 (-k).toNat < den
    if below then k else magnitudeFrom num den fuel (k + 1)

/-- The least `k` with `num / den < 10 ^ k`. The search starts below an estimate from the
lengths of the binary forms: a binary digit is between 0.30102 and 0.30103 decimal digits. -/
def magnitude (num den : Nat) : Int :=
  let bits : Int := (Nat.log2 num : Int) - Nat.log2 den
  magnitudeFrom num den 8 ((bits - 1) * 30103 / 100000 - 2)

/-- Moves zeros at the end of the digits into the exponent. -/
def trimmed : Nat → Decimal → Decimal
  | 0, d => d
  | fuel + 1, d =>
    if d.digits ≠ 0 ∧ d.digits % 10 = 0 then trimmed fuel ⟨d.digits / 10, d.exponent + 1⟩ else d

/-- An interval of positive fractions around `num / den`: from `low / den` to `high / den`, with its ends
if `closed`. It is what rounds to a floating-point number. -/
structure Interval where
  num : Nat
  den : Nat
  low : Nat
  high : Nat
  closed : Bool

/-- The decimal with the grid's unit `10 ^ exponent` next to the interval's number, if one of the
two neighbours lies inside. -/
def Interval.onGrid? (i : Interval) (exponent : Int) : Option Decimal :=
  let up := if 0 ≤ exponent then 1 else Nat.pow 10 (-exponent).toNat
  let down := if 0 ≤ exponent then Nat.pow 10 exponent.toNat else 1
  let unit := i.den * down
  let floor := i.num * up / unit
  let within (d : Nat) : Bool :=
    let x := d * unit
    if i.closed then i.low * up ≤ x && x ≤ i.high * up else i.low * up < x && x < i.high * up
  let rest := i.num * up - floor * unit
  match within floor, within (floor + 1) with
  | true, true =>
    if 2 * rest < unit ∨ (2 * rest = unit ∧ floor % 2 = 0) then some ⟨floor, exponent⟩
    else some ⟨floor + 1, exponent⟩
  | true, false => some ⟨floor, exponent⟩
  | false, true => some ⟨floor + 1, exponent⟩
  | false, false => none

/-- The numbers that round to the positive number `m * 2 ^ e` units. Below a power of two the
neighbour is nearer than above it. -/
def Interval.around (m e : Nat) : Interval :=
  let lowGap := if m = Nat.pow 2 52 ∧ e ≠ 0 then 1 else 2
  { num := 4 * m * Nat.pow 2 e
    den := 4 * Binary64.unitsPerOne
    low := (4 * m - lowGap) * Nat.pow 2 e
    high := (4 * m + 2) * Nat.pow 2 e
    closed := m % 2 == 0 }

/-- The first grid with a hit, among those of `digits`, `digits + 1`, … digits. -/
def Interval.firstHit (i : Interval) (magnitude : Int) : Nat → Nat → Decimal
  | 0, _ => ⟨0, 0⟩
  | fuel + 1, digits =>
    match i.onGrid? (magnitude - digits) with
    | some d => d
    | none => i.firstHit magnitude fuel (digits + 1)

/-- The shortest decimal that rounds to the positive number `m * 2 ^ e` units; 17 digits always suffice.
Of several with the same number of digits it is the one nearest to the number. -/
def shortest (m e : Nat) : Decimal :=
  let i := Interval.around m e
  trimmed 17 (i.firstHit (magnitude i.num i.den) 17 1)

end Decimal

end TermAudit
