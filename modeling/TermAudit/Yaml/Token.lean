import TermAudit.Yaml.Fault

/-!
# `TermAudit.Yaml.Token`: the tokens of a document

A `Token` is what the characters of a document spell, with the positions of its start and its end.
Besides the indicators there are tokens without characters, for the block collections that only
the indentation shows.
-/

set_option autoImplicit false

namespace TermAudit.Yaml

/-- A directive line. -/
inductive Directive where
  | version (major minor : Nat)
  | handle (name address : Text)
  | other
deriving DecidableEq

/-- A tag as it is written. -/
inductive WrittenTag where
  /-- A handle and what follows it. -/
  | withHandle (handle suffix : Text)
  /-- A tag in full. -/
  | verbatim (tag : Text)
deriving DecidableEq

/-- What a token spells. -/
inductive Lexeme where
  | directive (d : Directive)
  | documentStart
  | documentEnd
  | streamEnd
  | blockSequenceStart
  | blockMappingStart
  | blockEnd
  | flowSequenceStart
  | flowSequenceEnd
  | flowMappingStart
  | flowMappingEnd
  | blockEntry
  | flowEntry
  | key
  | value
  | alias (name : Text)
  | anchor (name : Text)
  | tag (t : WrittenTag)
  /-- A scalar, and whether it is plain, that is, neither quoted nor a block scalar. -/
  | scalar (content : Text) (plain : Bool)
deriving DecidableEq

/-- What a lexeme is called. -/
def Lexeme.called : Lexeme → Text
  | .directive _ => "<directive>"
  | .documentStart => "<document start>"
  | .documentEnd => "<document end>"
  | .streamEnd => "<stream end>"
  | .blockSequenceStart => "<block sequence start>"
  | .blockMappingStart => "<block mapping start>"
  | .blockEnd => "<block end>"
  | .flowSequenceStart => "["
  | .flowSequenceEnd => "]"
  | .flowMappingStart => "\x7b"
  | .flowMappingEnd => "\x7d"
  | .blockEntry => "-"
  | .flowEntry => ","
  | .key => "?"
  | .value => ":"
  | .alias _ => "<alias>"
  | .anchor _ => "<anchor>"
  | .tag _ => "<tag>"
  | .scalar .. => "<scalar>"

/-- A lexeme with the place where it starts and the place behind it. -/
structure Token where
  lexeme : Lexeme
  start : Position
  stop : Position
deriving DecidableEq

end TermAudit.Yaml
