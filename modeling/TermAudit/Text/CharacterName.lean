import TermAudit.Text.CharacterName.NamesDToG
import TermAudit.Text.CharacterName.NamesHToK
import TermAudit.Text.CharacterName.NamesNToR
import TermAudit.Text.CharacterName.NamesOfA
import TermAudit.Text.CharacterName.NamesOfB
import TermAudit.Text.CharacterName.NamesOfC
import TermAudit.Text.CharacterName.NamesOfL
import TermAudit.Text.CharacterName.NamesOfM
import TermAudit.Text.CharacterName.NamesOfS
import TermAudit.Text.CharacterName.NamesTToZ
import TermAudit.Text.Digit

/-!
# `TermAudit.Text.CharacterName`: the names of characters

Every character has a name of capital letters, digits, hyphens and spaces, and some have further
names (Unicode 14). The names of ideographs end in the number of the character and those of Korean
syllables are spelled out from their letters; all others are listed in tables.
`Text.isCharacterName` says whether a text is a name. Letters of a listed name may also be small.
-/

set_option autoImplicit false

namespace TermAudit

namespace CharacterName

/-- The tables of names. -/
def tables : List String :=
  [namesOfA, namesOfB, namesOfC, namesDToG, namesHToK, namesOfL, namesOfM, namesNToR, namesOfS,
   namesTToZ]

/-- The value of a digit in the numbers of a table. -/
def markValue? (c : CodePoint) : Option Nat :=
  if 0x61 ≤ c.val ∧ c.val ≤ 0x7A then some (c.val - 0x61) else none

/-- Whether the rest of a table lists the name, last code point first. Before it stands `entry`, the
start of a name of the table or all of it, and perhaps a number that says how much of it the next
name `kept`. -/
def listsFrom (name entry : Text) : Option Nat → Text → Bool
  | _, [] => entry == name
  | kept, c :: rest =>
    if c = '\n' then listsFrom name entry kept rest
    else
      match markValue? c, kept with
      | some d, some k => listsFrom name entry (some (26 * k + d)) rest
      | some d, none => entry == name || listsFrom name entry (some d) rest
      | none, some k => listsFrom name (c :: entry.drop (entry.length - k)) none rest
      | none, none => listsFrom name (c :: entry) none rest

/-- The capital letter for a small one of ASCII. -/
def asciiCapital (c : CodePoint) : CodePoint :=
  if 0x61 ≤ c.val ∧ c.val ≤ 0x7A then CodePoint.ofNat (c.val - 0x20) else c

/-- Whether the tables list the name. -/
def isListed (name : Text) : Bool :=
  let wanted := (name.map asciiCapital).reverse
  !name.isEmpty && tables.any fun table => listsFrom wanted [] none (Text.ofString table)

/-- The blocks of ideographs whose names end in their numbers. -/
def ideographBlocks : List (Nat × Nat) :=
  [(0x3400, 0x4DBF), (0x4E00, 0x9FFF), (0x20000, 0x2A6DF), (0x2A700, 0x2B738), (0x2B740, 0x2B81D),
   (0x2B820, 0x2CEA1), (0x2CEB0, 0x2EBE0), (0x30000, 0x3134A)]

/-- Whether the name is one of an ideograph: its number has four or five digits with capital
letters. -/
def isOfIdeograph (name : Text) : Bool :=
  match name.dropStart? "CJK UNIFIED IDEOGRAPH-" with
  | none => false
  | some digits =>
    (digits.length == 4 || digits.length == 5) && !digits.any (fun c => (markValue? c).isSome) &&
      (Text.digits? 16 digits).any fun n =>
        ideographBlocks.any fun (first, last) => first ≤ n && n ≤ last

/-- The names of the letters at the start of a Korean syllable, the one that is not spoken among
them. -/
def leadingLetters : List Text :=
  ["G", "GG", "N", "D", "DD", "R", "M", "B", "BB", "S", "SS", "", "J", "JJ", "C", "K", "T", "P",
   "H"]

/-- The names of the letters in the middle of a Korean syllable. -/
def vowelLetters : List Text :=
  ["A", "AE", "YA", "YAE", "EO", "E", "YEO", "YE", "O", "WA", "WAE", "OE", "YO", "U", "WEO", "WE",
   "WI", "YU", "EU", "YI", "I"]

/-- The names of the letters at the end of a Korean syllable, where there may be none. -/
def trailingLetters : List Text :=
  ["", "G", "GG", "GS", "N", "NJ", "NH", "D", "L", "LG", "LM", "LB", "LS", "LT", "LP", "LH", "M",
   "B", "BS", "S", "SS", "NG", "J", "C", "K", "T", "P", "H"]

/-- What follows the longest of the letters with which a text begins. -/
def dropLetter? (letters : List Text) (t : Text) : Option Text :=
  let sizes := (letters.filter t.beginsWith).map List.length
  sizes.max?.map t.drop

/-- Whether the name is one of a Korean syllable. -/
def isOfSyllable (name : Text) : Bool :=
  let rest : Option Text := do
    let rest ← dropLetter? leadingLetters (← name.dropStart? "HANGUL SYLLABLE ")
    dropLetter? trailingLetters (← dropLetter? vowelLetters rest)
  rest == some []

end CharacterName

/-- Whether the text is the name of a character. -/
def Text.isCharacterName (t : Text) : Bool :=
  CharacterName.isOfIdeograph t || CharacterName.isOfSyllable t || CharacterName.isListed t

end TermAudit
