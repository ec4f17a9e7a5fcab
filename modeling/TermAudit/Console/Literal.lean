import TermAudit.Number.Reading
import TermAudit.Text.Alphanumeric
import TermAudit.Text.CharacterName
import TermAudit.Text.Utf8

/-!
# `TermAudit.Console.Literal`: values written out

The argument of a handler in a style tag is a literal: a number, a text, octets, `True`, `False`,
`None`, an ellipsis, a tuple, a set or a map of literals, with blanks and comments between the
parts. `Literal.accepts` says whether a text is one. What the value is does not matter to anything
that is shown, so only its `Form` is kept: what can be said of it as a part of another literal.
Tags hold no square brackets, so there are no lists. The `Depth` to which literals are nested is
limited.
-/

set_option autoImplicit false

namespace TermAudit.Literal

/-- What can be said of a literal as a part of another one. Only this is needed to tell what the whole is,
so literals are not evaluated. -/
inductive Form where
  /-- A number without a sign. -/
  | real
  /-- A number with a sign. -/
  | signedReal
  /-- A number with the mark of the imaginary unit. -/
  | imaginary
  /-- A text in quotes. -/
  | text
  /-- Octets in quotes. -/
  | octets
  /-- Any other value; only one that cannot be changed can be an element of a set or a key. -/
  | other (isConstant : Bool)
deriving DecidableEq

/-- Whether the literal can be an element of a set or a key of a map. -/
def Form.isKey : Form → Bool
  | .other isConstant => isConstant
  | _ => true

/-! ### Blanks -/

/-- Skips blanks and comments. Line breaks count as blanks only `inside` of parentheses; behind a
backslash they do everywhere. -/
def skipFrom (inside inComment : Bool) : Text → Text
  | [] => []
  | c :: rest =>
    if c = '\n' then if inside then skipFrom inside false rest else c :: rest
    else if inComment then skipFrom inside true rest
    else if c = ' ' ∨ c = '\t' ∨ c = '\x0c' then skipFrom inside false rest
    else if c = '#' then skipFrom inside true rest
    else if c = '\\' then
      match rest with
      | d :: rest => if d = '\n' then skipFrom inside false rest else c :: d :: rest
      | [] => [c]
    else c :: rest

/-- Skips blanks and comments. -/
def skip (inside : Bool) (t : Text) : Text :=
  skipFrom inside false t

/-- What begins in the first line that holds more than blanks and comments, if that line is not
indented. A line that goes on behind a backslash is `held` to be indented if it is so before, and a
form feed takes the indentation back. -/
def contentFrom (isIndented held inComment : Bool) : Text → Option Text
  | [] => none
  | c :: rest =>
    if c = '\n' then contentFrom false false false rest
    else if inComment then contentFrom isIndented held true rest
    else if c = ' ' ∨ c = '\t' then contentFrom true held false rest
    else if c = '\x0c' then contentFrom false held false rest
    else if c = '#' then contentFrom isIndented held true rest
    else if c = '\\' then
      match rest with
      | d :: rest =>
        if d = '\n' then contentFrom isIndented (held || isIndented) false rest else none
      | [] => none
    else if held || isIndented then none
    else some (c :: rest)

/-! ### Depth -/

/-- How deep a part of a literal lies: in how many parentheses and braces, and behind how many steps of
the grammar. Both have limits, and a literal beyond one of them is none. -/
structure Depth where
  brackets : Nat
  steps : Nat

/-- The greatest number of parentheses and braces around a part. -/
def maxBrackets : Nat := 200

/-- The greatest number of steps of the grammar. Literals that are nested deeper are not read. -/
def maxSteps : Nat := 6000

/-- The steps of the grammar from where a value may stand to its first code point. -/
def valueSteps : Nat := 23

namespace Depth

/-- So many steps deeper. -/
def behind (d : Depth) (steps : Nat) : Depth :=
  { d with steps := d.steps + steps }

/-- In one more pair of parentheses or braces. -/
def inBrackets (d : Depth) : Depth :=
  { d with brackets := d.brackets + 1 }

/-- Whether the depth is not too great for a value, even if none follows. -/
def isBearable (d : Depth) : Bool :=
  d.brackets ≤ maxBrackets && d.steps + valueSteps ≤ maxSteps

/-- Whether line breaks count as blanks. -/
def isInside (d : Depth) : Bool :=
  0 < d.brackets

end Depth

/-- The steps to the items of a list one after the other; the last number goes for all further
ones. -/
abbrev ItemSteps := List Nat

namespace ItemSteps

/-- The steps to the next item. -/
def here (s : ItemSteps) : Nat :=
  s.headD 0

/-- The steps to the items behind it. -/
def behind : ItemSteps → ItemSteps
  | _ :: next :: rest => next :: rest
  | s => s

/-- The steps to items that stand in nothing. -/
def bare : ItemSteps := [2, 4]

/-- The steps from parentheses to the items in them. -/
def inParentheses : ItemSteps := [28, 30, 31]

/-- The steps from braces to the elements or entries in them. -/
def inBraces : ItemSteps := [29, 30]

end ItemSteps

/-! ### Numbers -/

/-- Whether the code point is a digit of the base. -/
def isDigit (base : Nat) (c : CodePoint) : Bool :=
  c.digitValue?.any (· < base)

/-- The digits behind a first one and what follows them; single low lines may stand between
digits. -/
def moreDigits? (base : Nat) : Text → Option (Text × Text)
  | [] => some ([], [])
  | c :: rest =>
    if isDigit base c then (moreDigits? base rest).map fun (ds, after) => (c :: ds, after)
    else if c = '_' then
      match rest with
      | d :: rest =>
        if isDigit base d then (moreDigits? base rest).map fun (ds, after) => (d :: ds, after)
        else none
      | [] => none
    else some ([], c :: rest)

/-- The digits at the start of a text, at least one, and what follows them. -/
def digits? (base : Nat) : Text → Option (Text × Text)
  | [] => none
  | c :: rest =>
    if isDigit base c then (moreDigits? base rest).map fun (ds, after) => (c :: ds, after)
    else none

/-- Skips the exponent at the start of a text. -/
def skipExponent : Text → Option Text
  | [] => some []
  | mark :: rest =>
    if mark = 'e' ∨ mark = 'E' then (digits? 10 (Text.takeSign rest).2).map Prod.snd
    else some (mark :: rest)

/-- The form of a number, and the rest behind it, given whether the digits so far make a whole
number. -/
def imaginaryOr (isWhole : Bool) : Text → Option (Form × Text)
  | [] => if isWhole then some (.real, []) else none
  | c :: rest =>
    if c = 'j' ∨ c = 'J' then some (.imaginary, rest)
    else if isWhole then some (.real, c :: rest)
    else none

/-- The number behind its digits in front of the point. A number without point, exponent and
imaginary unit is whole, and begins with a zero only if it is zero. -/
def decimalTail (whole : Text) (t : Text) : Option (Form × Text) :=
  let isPlain : Bool :=
    (whole.head? != some (CodePoint.ofChar '0') || whole.all (· == CodePoint.ofChar '0'))
      && whole.length ≤ maxDecimalDigits
  match t with
  | [] => imaginaryOr isPlain []
  | c :: rest =>
    if c = '.' then do
      let after ←
        match rest with
        | d :: _ => if isDigit 10 d then (digits? 10 rest).map Prod.snd else some rest
        | [] => some rest
      imaginaryOr true (← skipExponent after)
    else if c = 'e' ∨ c = 'E' then do imaginaryOr true (← skipExponent t)
    else imaginaryOr isPlain t

/-- The number in a base other than ten behind its mark. -/
def based? (base : Nat) (t : Text) : Option (Form × Text) :=
  let t := (t.dropStart? "_").getD t
  (digits? base t).map fun (_, rest) => (.real, rest)

/-- The number at the start of a text. -/
def number? (t : Text) : Option (Form × Text) :=
  match t with
  | zero :: mark :: rest =>
    match [2, 8, 16].find? fun b => (Text.baseLetters b).any (CodePoint.ofChar · = mark) with
    | some base =>
      if zero = '0' then based? base rest else (digits? 10 t).bind fun (ds, r) => decimalTail ds r
    | none =>
      if zero = '.' then do
        let (_, after) ← digits? 10 (mark :: rest)
        imaginaryOr true (← skipExponent after)
      else (digits? 10 t).bind fun (ds, r) => decimalTail ds r
  | _ => (digits? 10 t).bind fun (ds, r) => decimalTail ds r

/-! ### Texts -/

/-- How a text in quotes is written: the quotes around it, whether a backslash stands for itself,
and whether it denotes octets. -/
structure Quotation where
  quote : Text
  isRaw : Bool
  isOctets : Bool

/-- The number of hexadecimal digits that an escape asks for. -/
def escapeDigits (q : Quotation) (c : CodePoint) : Nat :=
  if c = 'x' then 2
  else if q.isOctets then 0
  else if c = 'u' then 4
  else if c = 'U' then 8
  else 0

/-- Whether the text behind the letter of an escape has the digits that it asks for, and they denote
a code point. -/
def hasEscapeDigits (q : Quotation) (c : CodePoint) (rest : Text) : Bool :=
  let count := escapeDigits q c
  count == 0 || (rest.length ≥ count && (Text.digits? 16 (rest.take count)).any (· < 0x110000))

/-- Whether an escape for a named character has the name of one in braces behind it. -/
def hasEscapeName (q : Quotation) (c : CodePoint) (rest : Text) : Bool :=
  if c = 'N' && !q.isOctets then
    match rest with
    | brace :: name =>
      match Text.splitFirst '\x7d' name with
      | (name, some _) => brace = '\x7b' && name.isCharacterName
      | (_, none) => false
    | [] => false
  else true

/-- What follows the quotes at the end of a text in quotes. A number of code points that are
escaped or belong to the closing quotes can be `passed` over. -/
def closed? (q : Quotation) (passed : Nat) : Text → Option Text
  | [] => none
  | c :: rest =>
    match passed with
    | n + 1 => closed? q n rest
    | 0 =>
      if q.quote.isPrefixOf (c :: rest) then some ((c :: rest).drop q.quote.length)
      else if c = '\n' ∧ q.quote.length = 1 then none
      else if q.isOctets ∧ !c.isAscii then none
      else if c = '\\' then
        match rest with
        | [] => none
        | d :: after =>
          if q.isOctets ∧ !d.isAscii then none
          else if q.isRaw ∨ (hasEscapeDigits q d after ∧ hasEscapeName q d after) then
            closed? q 1 rest
          else none
      else closed? q 0 rest

/-- The letters that may stand before quotes, with what they say. -/
def quoteMarks : List (String × Bool × Bool) :=
  [("", false, false), ("u", false, false), ("r", true, false), ("b", false, true),
   ("br", true, true), ("rb", true, true)]

/-- How the text in quotes at the start of a text is written, and what is inside and behind. -/
def quotation? (t : Text) : Option (Quotation × Text) :=
  let isQuote (c : CodePoint) : Bool := c = '\x27' || c = '\x22'
  let letters := t.takeWhile fun c => !isQuote c
  if 2 < letters.length then none
  else
    match t.drop letters.length with
    | [] => none
    | c :: rest =>
      (quoteMarks.find? fun (mark, _) => Text.isWord mark letters).map
        fun (_, isRaw, isOctets) =>
          match Text.dropStart? rest [c, c] with
          | some inside => (⟨[c, c, c], isRaw, isOctets⟩, inside)
          | none => (⟨[c], isRaw, isOctets⟩, rest)

/-- One text in quotes at the start of a text. -/
def quoted? (t : Text) : Option (Form × Text) := do
  let (q, inside) ← quotation? t
  let rest ← closed? q 0 inside
  return (if q.isOctets then .octets else .text, rest)

/-- Texts in quotes that follow each other are one; they are all texts or all octets. -/
def quotedRun? (inside : Bool) : Nat → Text → Option (Form × Text)
  | 0, _ => none
  | fuel + 1, t => do
    let (form, rest) ← quoted? t
    match quotation? (skip inside rest) with
    | none => return (form, rest)
    | some _ =>
      let (next, rest) ← quotedRun? inside fuel (skip inside rest)
      if next = form then return (form, rest) else none

/-! ### Values -/

/-- The words that are literals. -/
def constants : List Text :=
  ["True", "False", "None"]

/-- The steps from a value to a text in quotes. -/
def quotedSteps : Nat := 2

/-- The steps from a value to what may stand in the parentheses of a call. -/
def callSteps : Nat := 24

/-- A number, a text or a word at the start of a text. -/
def simple? (d : Depth) (t : Text) : Option (Form × Text) :=
  match t.dropStart? "..." with
  | some rest => some (.other true, rest)
  | none =>
    match quotation? t with
    | some _ =>
      if (d.behind quotedSteps).isBearable then quotedRun? d.isInside (t.length + 1) t else none
    | none =>
      let word := t.takeWhile CodePoint.isWordPart
      let rest := t.drop word.length
      if word ∈ constants then some (.other true, rest)
      else if word = Text.ofString "set" then do
        let rest ← (skip d.isInside rest).dropStart? "("
        let rest ← (skip true rest).dropStart? ")"
        if (d.inBrackets.behind callSteps).isBearable then return (.other false, rest) else none
      else number? t

/-- The items of a list with commas, and whether there is a comma. -/
structure Items where
  forms : List Form
  hasComma : Bool

/-- Whether the text begins with the character. -/
def isFollowedBy (c : Char) (t : Text) : Bool :=
  t.head? = some (CodePoint.ofChar c)

mutual

/-- A literal without sign and sum at the start of a text. -/
def atom? (d : Depth) : Nat → Text → Option (Form × Text)
  | 0, _ => none
  | fuel + 1, t =>
    match t with
    | [] => none
    | c :: rest =>
      if !d.isBearable then none
      else if c = '(' then do
        let (items, rest) ← items? d.inBrackets .inParentheses fuel (skip true rest)
        let rest ← rest.dropStart? ")"
        match items with
        | ⟨[form], false⟩ => return (form, rest)
        | ⟨forms, _⟩ => return (.other (forms.all Form.isKey), rest)
      else if c = '\x7b' then do
        let rest ← elements? d.inBrackets fuel (skip true rest)
        return (.other false, ← rest.dropStart? "\x7d")
      else simple? d t

/-- A literal with at most one sign at the start of a text. -/
def signed? (d : Depth) : Nat → Text → Option (Form × Text)
  | 0, _ => none
  | fuel + 1, t =>
    match t with
    | [] => none
    | c :: rest =>
      if c = '+' ∨ c = '-' then do
        match ← atom? (d.behind 1) fuel (skip d.isInside rest) with
        | (.real, rest) => return (.signedReal, rest)
        | (.imaginary, rest) => return (.other true, rest)
        | _ => none
      else atom? d fuel t

/-- A literal at the start of a text: a real and an imaginary number may make a sum. -/
def value? (d : Depth) : Nat → Text → Option (Form × Text)
  | 0, _ => none
  | fuel + 1, t => do
    let (form, rest) ← signed? d fuel t
    let after := skip d.isInside rest
    if isFollowedBy '+' after || isFollowedBy '-' after then
      match ← atom? d fuel (skip d.isInside (after.drop 1)) with
      | (.imaginary, rest) =>
        if form = .real ∨ form = .signedReal then return (.other true, skip d.isInside rest)
        else none
      | _ => none
    else return (form, after)

/-- Literals with commas between them and perhaps one behind them. -/
def items? (d : Depth) (steps : ItemSteps) : Nat → Text → Option (Items × Text)
  | 0, _ => none
  | fuel + 1, t =>
    if !(d.behind steps.here).isBearable then none
    else if t.isEmpty || isFollowedBy ')' t || isFollowedBy '\n' t then some (⟨[], false⟩, t)
    else do
      let (form, rest) ← value? (d.behind steps.here) fuel t
      match rest.dropStart? "," with
      | none => return (⟨[form], false⟩, rest)
      | some rest =>
        let (items, rest) ← items? d steps.behind fuel (skip d.isInside rest)
        return (⟨form :: items.forms, true⟩, rest)

/-- The elements of a set, or the entries of a map. -/
def elements? (d : Depth) : Nat → Text → Option Text
  | 0, _ => none
  | fuel + 1, t =>
    let here := d.behind ItemSteps.inBraces.here
    if !here.isBearable then none
    else if isFollowedBy '\x7d' t then some t
    else do
      let (form, rest) ← value? here fuel t
      if form.isKey then
        match rest.dropStart? ":" with
        | some rest =>
          let (_, rest) ← value? here fuel (skip true rest)
          laterElements? d true fuel rest
        | none => laterElements? d false fuel rest
      else none

/-- The elements of a set, or the entries of a map, behind the first. -/
def laterElements? (d : Depth) (isMap : Bool) : Nat → Text → Option Text
  | 0, _ => none
  | fuel + 1, t =>
    match t.dropStart? "," with
    | none => some t
    | some rest =>
      let t := skip true rest
      let here := d.behind ItemSteps.inBraces.behind.here
      if !here.isBearable then none
      else if isFollowedBy '\x7d' t then some t
      else do
        let (form, rest) ← value? here fuel t
        if form.isKey then
          if isMap then do
            let rest ← rest.dropStart? ":"
            let (_, rest) ← value? here fuel (skip true rest)
            laterElements? d isMap fuel rest
          else laterElements? d isMap fuel rest
        else none

end

/-- Whether the text, which has no white space around it, is a literal, or literals with commas
between them. The line in which it begins must not be indented. -/
def accepts (t : Text) : Bool :=
  let t := t.withPlainBreaks
  let isReadable (c : CodePoint) : Bool := c.val != 0 && !c.isSurrogate
  t.all isReadable &&
    match contentFrom false false false t with
    | none => false
    | some content =>
      match items? ⟨0, 0⟩ .bare (8 * (t.length + 1)) content with
      | some (items, rest) => !items.forms.isEmpty && (skip true rest).isEmpty
      | none => false

end TermAudit.Literal
