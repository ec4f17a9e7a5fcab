import TermAudit.Console.Emoji.NamesAToB
import TermAudit.Console.Emoji.NamesC
import TermAudit.Console.Emoji.NamesDToF
import TermAudit.Console.Emoji.NamesGToL
import TermAudit.Console.Emoji.NamesMToO
import TermAudit.Console.Emoji.NamesPToR
import TermAudit.Console.Emoji.NamesSToV
import TermAudit.Console.Emoji.NamesWToZ
import TermAudit.Text.Blank
import TermAudit.Text.Case

/-!
# `TermAudit.Console.Emoji`: emoji by name

In lines for the console the name of an emoji between colons, as in `:heart:`, stands for the emoji.
The name may end in `-text` or `-emoji`, which asks for the plain or the colored form. A name may
be written in any case; what is no name stays as it is.
-/

set_option autoImplicit false

namespace TermAudit.Emoji

/-- All emoji by name. -/
def table : List (Text × Text) :=
  [namesAToB, namesC, namesDToF, namesGToL,
    namesMToO, namesPToR, namesSToV, namesWToZ].flatten.map fun (name, numbers) =>
      (Text.ofString name, numbers.map CodePoint.ofNat)

/-- The emoji with a name. -/
def ofName? (name : Text) : Option Text :=
  table.lookup name.lower

/-- The endings of a name that ask for a form, and the code point that does the same behind the
emoji. -/
def forms : List (Text × CodePoint) :=
  [("-text", CodePoint.ofNat 0xFE0E), ("-emoji", CodePoint.ofNat 0xFE0F)]

/-- What the text between two colons stands for. -/
def ofCode? (code : Text) : Option Text :=
  match forms.find? fun (ending, _) => ending.isSuffixOf code with
  | some (ending, form) =>
    (ofName? (code.take (code.length - ending.length))).map fun emoji => emoji ++ [form]
  | none => ofName? code

/-- Whether the code point can stand between the colons. -/
def isCodePart (c : CodePoint) : Bool :=
  !(c.isBlank || c == CodePoint.ofChar ':')

/-- Puts emoji in the place of their names, where `before` is the text since a colon that may begin
a name, last code point first. -/
def replacedFrom : Option Text → Text → Text
  | none, [] => []
  | some before, [] => CodePoint.ofChar ':' :: before.reverse
  | none, c :: rest =>
    if c = ':' then replacedFrom (some []) rest else c :: replacedFrom none rest
  | some before, c :: rest =>
    if c = ':' then
      let code := before.reverse
      let written : Text := (":" : Text) ++ code ++ (":" : Text)
      (ofCode? code).getD written ++ replacedFrom none rest
    else if isCodePart c then replacedFrom (some (c :: before)) rest
    else CodePoint.ofChar ':' :: before.reverse ++ c :: replacedFrom none rest

/-- Puts emoji in the place of their names, from left to right. -/
def replaced (t : Text) : Text :=
  replacedFrom none t

end TermAudit.Emoji
