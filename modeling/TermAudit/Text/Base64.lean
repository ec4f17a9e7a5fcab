import TermAudit.Text.Basic

/-!
# `TermAudit.Text.Base64`: octets written in base 64

`Base64.decode?` reads the standard alphabet and passes over every other character. Four digits
give three octets; padding can end the last group after its second or third digit.
-/

set_option autoImplicit false

namespace TermAudit.Base64

/-- The value of a digit. -/
def digit? (c : Char) : Option Nat :=
  if 'A' ≤ c ∧ c ≤ 'Z' then some (c.toNat - 'A'.toNat)
  else if 'a' ≤ c ∧ c ≤ 'z' then some (c.toNat - 'a'.toNat + 26)
  else if '0' ≤ c ∧ c ≤ '9' then some (c.toNat - '0'.toNat + 52)
  else if c = '+' then some 62
  else if c = '/' then some 63
  else none

/-- The octet that is complete after the digit `d` at place `place` of a group, given the digit
before it. -/
def octet? (place before d : Nat) : Option UInt8 :=
  match place with
  | 1 => some (UInt8.ofNat (before * 4 + d / 16))
  | 2 => some (UInt8.ofNat (before % 16 * 16 + d / 4))
  | 3 => some (UInt8.ofNat (before % 4 * 64 + d))
  | _ => none

/-- Reads on at place `place` of a group, behind the digit `before` and `padding` padding
characters without digits between them. Text that ends inside of a group is refused. -/
def decodeFrom (place before padding : Nat) : List Char → Option (List UInt8)
  | [] => if place = 0 then some [] else none
  | c :: rest =>
    if c = '=' then
      if 2 ≤ place ∧ 4 ≤ place + padding + 1 then some []
      else decodeFrom place before (if 2 ≤ place then padding + 1 else padding) rest
    else
      match digit? c with
      | none => decodeFrom place before padding rest
      | some d =>
        (decodeFrom ((place + 1) % 4) d 0 rest).map fun octets =>
          (octet? place before d).toList ++ octets

/-- The octets that a text denotes. -/
def decode? (cs : List Char) : Option (List UInt8) :=
  decodeFrom 0 0 0 cs

end TermAudit.Base64
