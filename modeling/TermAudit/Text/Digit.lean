import TermAudit.Text.Basic

/-!
# `TermAudit.Text.Digit`: decimal digits of every script

Each script's ten decimal digits stand in order, so a digit is told by the zero of its script
(Unicode 14).
-/

set_option autoImplicit false

namespace TermAudit

namespace CodePoint

/-- The zeros of the scripts. -/
def digitZeros : List Nat :=
  [0x0030, 0x0660, 0x06F0, 0x07C0, 0x0966, 0x09E6, 0x0A66, 0x0AE6, 0x0B66, 0x0BE6, 0x0C66, 0x0CE6,
   0x0D66, 0x0DE6, 0x0E50, 0x0ED0, 0x0F20, 0x1040, 0x1090, 0x17E0, 0x1810, 0x1946, 0x19D0, 0x1A80,
   0x1A90, 0x1B50, 0x1BB0, 0x1C40, 0x1C50, 0xA620, 0xA8D0, 0xA900, 0xA9D0, 0xA9F0, 0xAA50, 0xABF0,
   0xFF10, 0x104A0, 0x10D30, 0x11066, 0x110F0, 0x11136, 0x111D0, 0x112F0, 0x11450, 0x114D0,
   0x11650, 0x116C0, 0x11730, 0x118E0, 0x11950, 0x11C50, 0x11D50, 0x11DA0, 0x16A60, 0x16AC0,
   0x16B50, 0x1D7CE, 0x1D7D8, 0x1D7E2, 0x1D7EC, 0x1D7F6, 0x1E140, 0x1E2F0, 0x1E950, 0x1FBF0]

/-- The value of a decimal digit. -/
def digit? (c : CodePoint) : Option Nat :=
  (digitZeros.find? fun z => z ≤ c.val && c.val < z + 10).map (c.val - ·)

/-- The ASCII digit with the value of a decimal digit; any other code point stays. -/
def toAsciiDigit (c : CodePoint) : CodePoint :=
  match c.digit? with
  | some d => ofNat (0x30 + d)
  | none => c

/-- The value of an ASCII digit or letter as a digit of a base up to 36. -/
def digitValue? (c : CodePoint) : Option Nat :=
  if 0x30 ≤ c.val ∧ c.val ≤ 0x39 then some (c.val - 0x30)
  else if 0x41 ≤ c.val ∧ c.val ≤ 0x5A then some (c.val - 0x41 + 10)
  else if 0x61 ≤ c.val ∧ c.val ≤ 0x7A then some (c.val - 0x61 + 10)
  else none

end CodePoint

namespace Text

/-- The number that a text of digits of the base denotes, most significant first. An empty text
and a text with anything else denote none. -/
def digits? (base : Nat) : Text → Option Nat
  | [] => none
  | c :: rest =>
    (c :: rest).foldlM
      (fun n c => do
        let d ← c.digitValue?
        if d < base then some (n * base + d) else none)
      0

end Text

end TermAudit
