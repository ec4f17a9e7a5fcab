import TermAudit.Text.CodePoint

/-!
# `TermAudit.Text.Stride`: the form in which character data is stored

Unicode properties and case mappings are stored as short lists of runs. A `Stride` is a set of
code point numbers at a fixed distance, a `CaseRun` maps such a set onto another one of the same
form. The distance is 1 where a property holds of a whole block, and 2 in the blocks where
capital and small letters alternate.
-/

set_option autoImplicit false

namespace TermAudit

/-- The numbers `first`, `first + step`, … up to `last`. -/
structure Stride where
  first : Nat
  last : Nat
  step : Nat

/-- Whether the number is one of the stride's. -/
def Stride.contains (s : Stride) (n : Nat) : Bool :=
  s.first ≤ n && n ≤ s.last && (n - s.first) % s.step == 0

/-- Whether a number belongs to one of the strides, which come in the order of their first
numbers. -/
def Stride.anyContains (n : Nat) : List Stride → Bool
  | [] => false
  | s :: rest => if n < s.first then false else s.contains n || anyContains n rest

/-- The numbers `first`, `first + step`, … up to `last`, each sent as far above `target` as it
stands above `first`. -/
structure CaseRun where
  first : Nat
  last : Nat
  step : Nat
  target : Nat

/-- The image of a number that belongs to the run. -/
def CaseRun.map? (r : CaseRun) (n : Nat) : Option Nat :=
  if (Stride.mk r.first r.last r.step).contains n then some (r.target + (n - r.first)) else none

/-- The image under the run that holds the number; every other number is its own image. The runs
come in the order of their first numbers, so the search ends at a run that begins behind the
number. -/
def CaseRun.mapIn (n : Nat) : List CaseRun → Nat
  | [] => n
  | r :: rest =>
    if n < r.first then n
    else
      match r.map? n with
      | some m => m
      | none => mapIn n rest

end TermAudit
