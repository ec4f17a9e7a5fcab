/-!
# `TermAudit.Text.CodePoint`: the unit of text

A `CodePoint` is any of the 1,114,112 code points of Unicode. Unlike `Char` it includes the
surrogates U+D800 to U+DFFF: an escape in a double-quoted scalar can denote one, and a text that
holds it has to be kept, measured and printed like any other.
-/

set_option autoImplicit false

namespace TermAudit

/-- A Unicode code point, surrogates included. -/
structure CodePoint where
  /-- The number of the code point. -/
  val : Nat
  /-- There are 17 planes of 65,536 code points. -/
  isLt : val < 0x110000
deriving DecidableEq

namespace CodePoint

/-- Every character is a code point. -/
def ofChar (c : Char) : CodePoint where
  val := c.toNat
  isLt := by
    rcases c.valid with h | h
    · exact Nat.lt_trans h (by decide)
    · exact h.2

/-- A character is a code point. -/
instance : Coe Char CodePoint := ⟨ofChar⟩

/-- The code point with the given number, if there is one. -/
def ofNat? (n : Nat) : Option CodePoint :=
  if h : n < 0x110000 then some ⟨n, h⟩ else none

/-- The code point with the given number; a number past the last plane gives U+FFFD. -/
def ofNat (n : Nat) : CodePoint :=
  if h : n < 0x110000 then ⟨n, h⟩ else ⟨0xFFFD, by decide⟩

/-- Surrogates are the code points that are no characters. -/
def isSurrogate (c : CodePoint) : Bool :=
  0xD800 ≤ c.val && c.val ≤ 0xDFFF

/-- The character with the same number, unless the code point is a surrogate. -/
def toChar? (c : CodePoint) : Option Char :=
  if h : c.val.isValidChar then some (Char.ofNatAux c.val h) else none

/-- ASCII is the first 128 code points. -/
def isAscii (c : CodePoint) : Bool :=
  c.val < 0x80

/-- Code points are equal if their numbers are. -/
theorem eq_iff_val {a b : CodePoint} : a = b ↔ a.val = b.val := by
  cases a; cases b; simp

/-- A character has the number of its code point. -/
@[simp] theorem val_ofChar (c : Char) : (ofChar c).val = c.toNat := rfl

/-- Different characters are different code points. -/
theorem ofChar_inj {c d : Char} : ofChar c = ofChar d ↔ c = d := by
  rw [eq_iff_val, val_ofChar, val_ofChar, Char.toNat_inj]

/-- A number up to 0x10FFFF is that of a code point, also one that no character has. -/
theorem val_ofNat {n : Nat} (h : n < 0x110000) : (ofNat n).val = n := by
  simp [ofNat, h]

/-- A code point is made again of its number. -/
@[simp] theorem ofNat_val (c : CodePoint) : ofNat c.val = c := by
  simp [ofNat, c.isLt]

end CodePoint

end TermAudit
