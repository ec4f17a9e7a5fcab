import TermAudit.Text.Quoted
import TermAudit.Yaml.Source

/-!
# `TermAudit.Yaml.Fault`: why a document is refused

A document can be refused at every stage, from its characters up to the values of its nodes.
A `Problem` says what is wrong, in the order of the stages, and an `Activity` what was under way
when it was noticed. A `Report` puts both together with their places. A `Fault` is a report, or
one of the failures of a single value that have no place of their own.
-/

set_option autoImplicit false

namespace TermAudit.Yaml

/-- What a character would have to be at a place. -/
inductive Expectation where
  | name
  | digit
  | digitOrPoint
  | digitOrSpace
  | space
  | exclamationMark
  | closingAngle
  | address
  | addressEscape
  | lineEnd
  | blockIndicator
  /-- So many hexadecimal digits. -/
  | hexDigits (n : Nat)
deriving DecidableEq

/-- An expectation in words. -/
def Expectation.describe : Expectation → Text
  | .name => "alphabetic or numeric character"
  | .digit => "a digit"
  | .digitOrPoint => "a digit or '.'"
  | .digitOrSpace => "a digit or ' '"
  | .space => "' '"
  | .exclamationMark => "'!'"
  | .closingAngle => "'>'"
  | .address => "URI"
  | .addressEscape => "URI escape sequence of 2 hexadecimal numbers"
  | .lineEnd => "a comment or a line break"
  | .blockIndicator => "chomping or indentation indicators"
  | .hexDigits n =>
    ("escape sequence of " : Text) ++ Text.ofNat n ++ (" hexadecimal numbers" : Text)

/-- The kinds of nodes. -/
inductive NodeKind where
  | scalar
  | sequence
  | mapping
deriving DecidableEq

/-- What a kind of node is called. -/
def NodeKind.called : NodeKind → Text
  | .scalar => "scalar"
  | .sequence => "sequence"
  | .mapping => "mapping"

/-- What can be wrong with a document. Where a token was not expected, `found` is what it is
called. -/
inductive Problem where
  -- Characters
  | unprintable (c : CodePoint) (index : Nat)
  -- Tokens
  | keyWithoutColon
  | entryNotAllowed
  | keyNotAllowed
  | valueNotAllowed
  | strayCharacter (c : Char)
  | unexpected (wanted : Expectation) (found : Char)
  | addressNotUtf8
  | zeroIndentation
  | unknownEscape (c : Char)
  | endInQuote
  | separatorInQuote
  -- Structure
  | repeatedVersion
  | versionTooNew
  | repeatedHandle (handle : Text)
  | undefinedHandle (handle : Text)
  | noDocumentStart (found : Text)
  | noContent (found : Text)
  | noBlockEnd (found : Text)
  | noCommaOr (close : Char) (found : Text)
  -- Nodes
  | undefinedAlias (name : Text)
  | repeatedAnchor
  | secondDocument
  -- Values
  | unknownTag (name : Text)
  | wrongKind (wanted found : NodeKind)
  | notPairs (found : NodeKind)
  | notPair (found : NodeKind)
  | pairSize (n : Nat)
  | unhashableKey
  | notMergeable (found : NodeKind)
  | notMergeableItem (found : NodeKind)
  | notAscii
  | notBase64
  | recursiveNode
deriving DecidableEq

/-- A character between quotation marks. -/
def quotedChar (c : Char) : Text :=
  Text.quoted [CodePoint.ofChar c]

/-- A problem in words. -/
def Problem.describe : Problem → Text
  | .unprintable c index =>
    ("unacceptable character #x" : Text) ++ Text.hex 4 c.val
      ++ (": special characters are not allowed\n  in \"<unicode string>\", position " : Text)
      ++ Text.ofNat index
  | .keyWithoutColon => "could not find expected ':'"
  | .entryNotAllowed => "sequence entries are not allowed here"
  | .keyNotAllowed => "mapping keys are not allowed here"
  | .valueNotAllowed => "mapping values are not allowed here"
  | .strayCharacter c =>
    ("found character " : Text) ++ quotedChar c ++ (" that cannot start any token" : Text)
  | .unexpected wanted found =>
    ("expected " : Text) ++ wanted.describe ++ (", but found " : Text) ++ quotedChar found
  | .addressNotUtf8 => "the escapes of a URI are not UTF-8"
  | .zeroIndentation => "expected indentation indicator in the range 1-9, but found 0"
  | .unknownEscape c => ("found unknown escape character " : Text) ++ quotedChar c
  | .endInQuote => "found unexpected end of stream"
  | .separatorInQuote => "found unexpected document separator"
  | .repeatedVersion => "found duplicate YAML directive"
  | .versionTooNew => "found incompatible YAML document (version 1.* is required)"
  | .repeatedHandle handle => ("duplicate tag handle " : Text) ++ handle.quoted
  | .undefinedHandle handle => ("found undefined tag handle " : Text) ++ handle.quoted
  | .noDocumentStart found =>
    ("expected '<document start>', but found " : Text) ++ found.quoted
  | .noContent found => ("expected the node content, but found " : Text) ++ found.quoted
  | .noBlockEnd found => ("expected <block end>, but found " : Text) ++ found.quoted
  | .noCommaOr close found =>
    ("expected ',' or " : Text) ++ quotedChar close ++ (", but got " : Text) ++ found.quoted
  | .undefinedAlias name => ("found undefined alias " : Text) ++ name.quoted
  | .repeatedAnchor => "second occurrence"
  | .secondDocument => "but found another document"
  | .unknownTag name => ("could not determine a constructor for the tag " : Text) ++ name.quoted
  | .wrongKind wanted found =>
    ("expected a " : Text) ++ wanted.called ++ (" node, but found " : Text) ++ found.called
  | .notPairs found => ("expected a sequence, but found " : Text) ++ found.called
  | .notPair found => ("expected a mapping of length 1, but found " : Text) ++ found.called
  | .pairSize n =>
    ("expected a single mapping item, but found " : Text) ++ Text.ofNat n ++ (" items" : Text)
  | .unhashableKey => "found unhashable key"
  | .notMergeable found =>
    ("expected a mapping or list of mappings for merging, but found " : Text) ++ found.called
  | .notMergeableItem found => ("expected a mapping for merging, but found " : Text) ++ found.called
  | .notAscii => "failed to convert base64 data into ascii"
  | .notBase64 => "failed to decode base64 data"
  | .recursiveNode => "found unconstructable recursive node"

/-- What was under way when a problem was noticed. -/
inductive Activity where
  -- Tokens
  | nextToken
  | simpleKey
  | directive
  | directiveAddress
  | alias
  | anchor
  | tag
  | tagAddress
  | blockScalar
  | quotedScalar
  | doubleQuotedScalar
  -- Structure
  | node
  | blockNode
  | flowNode
  | blockSequence
  | blockMapping
  | flowSequence
  | flowMapping
  -- Nodes
  | firstAnchor (name : Text)
  | firstDocument
  -- Values
  | mapping
  | orderedMap
  | pairs
deriving DecidableEq

/-- An activity in words. -/
def Activity.describe : Activity → Text
  | .nextToken => "while scanning for the next token"
  | .simpleKey => "while scanning a simple key"
  | .directive => "while scanning a directive"
  | .directiveAddress => "while parsing a directive"
  | .alias => "while scanning an alias"
  | .anchor => "while scanning an anchor"
  | .tag => "while scanning a tag"
  | .tagAddress => "while parsing a tag"
  | .blockScalar => "while scanning a block scalar"
  | .quotedScalar => "while scanning a quoted scalar"
  | .doubleQuotedScalar => "while scanning a double-quoted scalar"
  | .node => "while parsing a node"
  | .blockNode => "while parsing a block node"
  | .flowNode => "while parsing a flow node"
  | .blockSequence => "while parsing a block collection"
  | .blockMapping => "while parsing a block mapping"
  | .flowSequence => "while parsing a flow sequence"
  | .flowMapping => "while parsing a flow mapping"
  | .firstAnchor name =>
    ("found duplicate anchor " : Text) ++ name.quoted ++ ("; first occurrence" : Text)
  | .firstDocument => "expected a single document in the stream"
  | .mapping => "while constructing a mapping"
  | .orderedMap => "while constructing an ordered map"
  | .pairs => "while constructing pairs"

/-- An activity, and where it began if that is told. -/
structure Context where
  activity : Activity
  start : Option Position
deriving DecidableEq

/-- A problem, where it was noticed if a place is known, and what was under way. -/
structure Report where
  problem : Problem
  position : Option Position
  context : Option Context
deriving DecidableEq

namespace Report

/-- A problem at a place, whatever was under way. -/
def plain (position : Position) (problem : Problem) : Report :=
  ⟨problem, some position, none⟩

/-- A problem at a place in the middle of an activity. -/
def within (activity : Activity) (start position : Position) (problem : Problem) : Report :=
  ⟨problem, some position, some ⟨activity, some start⟩⟩

end Report

/-- A text that is to be read as something and denotes nothing. -/
inductive Unreadable where
  | integer (base : Nat) (t : Text)
  | float (t : Text)
  /-- A day or a time that no calendar and no clock has. -/
  | time
  /-- The number of a code point behind the last one. -/
  | codePoint
deriving DecidableEq

/-- What cannot be read, in words. A long integer is quoted up to its first part only. -/
def Unreadable.describe : Unreadable → Text
  | .integer base t =>
    ("no integer in base " : Text) ++ Text.ofNat base ++ (": " : Text) ++ t.quoted.take 200
  | .float t => ("no number: " : Text) ++ t.quoted
  | .time => "no such date or time"
  | .codePoint => "no such code point"

/-- Why no value can be given for a document. -/
inductive Fault where
  /-- The octets of the document are not UTF-8. -/
  | notUtf8
  /-- The document is at fault. -/
  | malformed (report : Report)
  /-- A number, a date or an escape denotes nothing. -/
  | unreadable (what : Unreadable)
  /-- A number is too large to become a floating-point number, or to be an escape. -/
  | tooLarge
  /-- The text of a boolean is none of the known words. -/
  | unknownWord
  /-- A number without digits. -/
  | emptyNumber
  /-- The text of a time does not have the form of one. -/
  | formlessTime
  /-- A mapping stands where the text of a time is needed. -/
  | timeNotText
  /-- Scalars stand for each other without end. This is the only bound on depth there is: nodes may be
  nested as deep as the text has them. An interpreter that gives up somewhere does so because its stack is
  full, and how deep it gets depends on what was on the stack before, so a text alone does not decide it. -/
  | endless
deriving DecidableEq

/-- The characters of a document, unless one is not allowed. -/
def Source.chars (t : Text) : Except Fault (List Char) :=
  match t.findIdx? fun c => !Source.allows c with
  | none => .ok (t.filterMap CodePoint.toChar?)
  | some i => .error (.malformed ⟨.unprintable (t.getD i '\x00') i, none, none⟩)

end TermAudit.Yaml
