import TermAudit.Text.Utf8
import TermAudit.Number.Reading
import TermAudit.Yaml.Token

/-!
# `TermAudit.Yaml.Token.Markers`: directives, anchors, aliases and tags

Each function reads one of these from its first character on, and gives the cursor behind it.
-/

set_option autoImplicit false

namespace TermAudit.Yaml.Cursor

open Source

/-- Refuses the document at this place. -/
def refuse {α : Type} (k : Cursor) (problem : Problem) : Except Fault α :=
  throw (.malformed (.plain k.position problem))

/-- Refuses the document at this place in the middle of an activity that began at `start`. -/
def refuseIn {α : Type} (activity : Activity) (start : Position) (k : Cursor)
    (problem : Problem) : Except Fault α :=
  throw (.malformed (.within activity start k.position problem))

/-- Refuses the next character in the middle of an activity. -/
def refuseChar {α : Type} (activity : Activity) (start : Position) (wanted : Expectation)
    (k : Cursor) : Except Fault α :=
  k.refuseIn activity start (.unexpected wanted k.peek)

/-- A name of at least one character. -/
def takeName (activity : Activity) (start : Position) (k : Cursor) :
    Except Fault (Text × Cursor) :=
  match k.span isNameChar with
  | ([], _) => k.refuseChar activity start .name
  | (name, k') => pure (.ofChars name, k')

/-- The name behind `*` or `&`. -/
def takeAnchor (activity : Activity) (k : Cursor) : Except Fault (Text × Cursor) := do
  let start := k.position
  let (name, k) ← k.advance.takeName activity start
  if isGap k.peek || ['?', ':', ',', ']', '}', '%', '@', '\x60'].contains k.peek then
    return (name, k)
  else k.refuseChar activity start .name

/-! ## Tags -/

/-- What the parts of a tag belong to: a tag, or a directive about tags. -/
structure TagOwner where
  activity : Activity
  /-- What reading the part behind the handle is called. -/
  addressActivity : Activity
  start : Position

/-- A tag that begins at this place. -/
def TagOwner.tag (start : Position) : TagOwner :=
  ⟨.tag, .tagAddress, start⟩

/-- A directive that begins at this place. -/
def TagOwner.directive (start : Position) : TagOwner :=
  ⟨.directive, .directiveAddress, start⟩

/-- Refuses the next character of a part. -/
def TagOwner.refuse {α : Type} (o : TagOwner) (wanted : Expectation) (k : Cursor) :
    Except Fault α :=
  k.refuseChar o.activity o.start wanted

/-- A tag handle: `!`, or a name between two of them. -/
def takeHandle (o : TagOwner) (k : Cursor) : Except Fault (Text × Cursor) := do
  if k.peek != '!' then o.refuse .exclamationMark k
  let k := k.advance
  if k.peek == ' ' then return ("!", k)
  let (name, k) := k.span isNameChar
  if k.peek != '!' then o.refuse .exclamationMark k
  return (.ofChars ('!' :: name ++ ['!']), k.advance)

/-- The characters that stand for themselves in a tag. -/
def isAddressChar (c : Char) : Bool :=
  c.isAlphanum || "-;/?:@&=+$,_.!~*'()[]".toList.contains c

/-- The octet of an escape: `%` and two hexadecimal digits. -/
def takeOctet (o : TagOwner) (k : Cursor) : Except Fault (UInt8 × Cursor) := do
  let k := k.advance
  let refuse (found : Char) : Except Fault (UInt8 × Cursor) :=
    k.refuseIn o.activity o.start (.unexpected .addressEscape found)
  match hexValue? k.peek, hexValue? (k.peekAt 1) with
  | some a, some b => return (UInt8.ofNat (16 * a + b), k.advanceBy 2)
  | none, _ => refuse k.peek
  | _, none => refuse (k.peekAt 1)

/-- Consecutive escapes. -/
def takeOctets (o : TagOwner) : Nat → Cursor → Except Fault (List UInt8 × Cursor)
  | 0, k => pure ([], k)
  | fuel + 1, k =>
    if k.peek == '%' then do
      let (octet, k) ← k.takeOctet o
      let (octets, k) ← takeOctets o fuel k
      return (octet :: octets, k)
    else pure ([], k)

/-- Characters and runs of escapes, the latter read as UTF-8. -/
def takeAddressParts (o : TagOwner) : Nat → Cursor → Except Fault (Text × Cursor)
  | 0, k => pure ([], k)
  | fuel + 1, k => do
    if k.peek == '%' then
      let (octets, after) ← takeOctets o k.rest.length k
      match Text.ofUtf8? octets with
      | none => k.refuseIn o.activity o.start .addressNotUtf8
      | some part =>
        let (more, k) ← takeAddressParts o fuel after
        return (part ++ more, k)
    else
      match k.span isAddressChar with
      | ([], _) => return ([], k)
      | (part, after) =>
        let (more, k) ← takeAddressParts o fuel after
        return (.ofChars part ++ more, k)

/-- The part of a tag behind its handle, of at least one character. -/
def takeAddress (o : TagOwner) (k : Cursor) : Except Fault (Text × Cursor) := do
  let (address, after) ← takeAddressParts o k.rest.length k
  if after.position == k.position then k.refuseChar o.addressActivity o.start .address
  return (address, after)

/-- Whether a second `!` follows the first before a gap other than a tab. -/
def hasNamedHandle (k : Cursor) : Bool :=
  (k.advance.skip fun c => c != '!' && !endsWord c).peek == '!'

/-- A tag, from its `!` on. -/
def takeTag (k : Cursor) : Except Fault (WrittenTag × Cursor) := do
  let o : TagOwner := .tag k.position
  let (tag, k) ←
    if k.peekAt 1 == '<' then do
      let (address, k) ← (k.advanceBy 2).takeAddress o
      if k.peek != '>' then k.refuseChar o.addressActivity o.start .closingAngle
      pure (WrittenTag.verbatim address, k.advance)
    else if isGap (k.peekAt 1) then pure (WrittenTag.verbatim "!", k.advance)
    else if k.hasNamedHandle then do
      let (handle, k) ← k.takeHandle o
      let (suffix, k) ← k.takeAddress o
      pure (WrittenTag.withHandle handle suffix, k)
    else do
      let (suffix, k) ← k.advance.takeAddress o
      pure (WrittenTag.withHandle "!" suffix, k)
  if endsWord k.peek then return (tag, k) else o.refuse .space k

/-! ## Directives -/

/-- The rest of a line, in which only a comment may stand, and its line break. -/
def finishLine (activity : Activity) (start : Position) (k : Cursor) : Except Fault Cursor := do
  let k := k.skipSpaces.skipComment
  if endsLine k.peek then
    match k.takeBreak? with
    | some (_, k) => return k
    | none => return k
  else k.refuseChar activity start .lineEnd

/-- One of the two numbers of a version. -/
def takeVersionNumber (start : Position) (k : Cursor) : Except Fault (Nat × Cursor) :=
  match k.span Char.isDigit with
  | ([], _) => k.refuseChar .directive start .digit
  | (digits, k') =>
    match (Text.ofChars digits).toInt? 10 with
    | some n => pure (n.toNat, k')
    | none => throw (.unreadable (.integer 10 (.ofChars digits)))

/-- The two numbers of a version. -/
def takeVersion (start : Position) (k : Cursor) : Except Fault (Directive × Cursor) := do
  let (major, k) ← k.skipSpaces.takeVersionNumber start
  if k.peek != '.' then k.refuseChar .directive start .digitOrPoint
  let (minor, k) ← k.advance.takeVersionNumber start
  if endsWord k.peek then return (.version major minor, k)
  else k.refuseChar .directive start .digitOrSpace

/-- A tag handle and what it stands for. -/
def takeHandleMeaning (start : Position) (k : Cursor) : Except Fault (Directive × Cursor) := do
  let o : TagOwner := .directive start
  let (handle, k) ← k.skipSpaces.takeHandle o
  if k.peek != ' ' then o.refuse .space k
  let (address, k) ← k.skipSpaces.takeAddress o
  if endsWord k.peek then return (.handle handle address, k) else o.refuse .space k

/-- A directive, from its `%` to the end of its line. -/
def takeDirective (k : Cursor) : Except Fault (Directive × Cursor) := do
  let start := k.position
  let (name, k) ← k.advance.takeName .directive start
  if !endsWord k.peek then k.refuseChar .directive start .name
  let (directive, k) ←
    if name = Text.ofString "YAML" then k.takeVersion start
    else if name = Text.ofString "TAG" then k.takeHandleMeaning start
    else pure (.other, k.skip fun c => !endsLine c)
  return (directive, ← k.finishLine .directive start)

end TermAudit.Yaml.Cursor
