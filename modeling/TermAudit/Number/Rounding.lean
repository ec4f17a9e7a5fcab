/-!
# `TermAudit.Number.Rounding`: rounded quotients

`roundToEven` rounds a quotient to the nearest natural number. Where two are equally near, the even
one is taken, so that sums of many rounded parts stray neither up nor down.
-/

set_option autoImplicit false

namespace TermAudit

/-- Rounds `num / den` to a natural number, a tie to the even one. -/
def roundToEven (num den : Nat) : Nat :=
  let q := num / den
  let r := num % den
  if 2 * r < den then q
  else if 2 * r > den then q + 1
  else q + q % 2

/-- A quotient without remainder stays as it is. -/
theorem roundToEven_mul (q : Nat) {d : Nat} (h : 0 < d) : roundToEven (q * d) d = q := by
  simp [roundToEven, Nat.mul_div_cancel q h, h]

end TermAudit
