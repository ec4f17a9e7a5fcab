import TermAudit.Terms.Table
import TermAudit.Value
import TermAudit.Yaml.Outline
import TermAudit.Yaml.Report

/-!
# `TermAudit.Terms.Config`: configurations of terms

A `TermsConfig` has terms to append to the built-in ones and terms to put in their place.
`TermsConfig.ofValue` reads one from plain data, `ofText` from a document in JSON or YAML;
`TermsConfig.merged` layers one over another. That only one of the two kinds may be there is
checked when the table is made, so layers can be read one by one.
-/

set_option autoImplicit false

namespace TermAudit

/-- The two kinds of terms in a configuration: those to look for besides the built-in ones, and those to
look for in their place. -/
inductive ConfigSection where
  | append
  | replace
deriving DecidableEq

/-- The key of a section. -/
def ConfigSection.key : ConfigSection → Text
  | .append => "appendNoninclusiveTerms"
  | .replace => "replaceNoninclusiveTerms"

/-- What is wrong with a configuration. -/
inductive ConfigError where
  | unreadableFile (path reason : Text)
  | invalidDocument (reason : Text)
  | notMapping
  | unknownKeys (keys : List Text)
  | sectionNotMapping (part : ConfigSection)
  | termNotText (part : ConfigSection) (term : Scalar)
  | badSuggestions (part : ConfigSection) (term : Text)
  | table (error : TableError)

/-- The error in words. -/
def ConfigError.message : ConfigError → Text
  | .unreadableFile path reason =>
    ("Cannot read configuration file " : Text) ++ path ++ (": " : Text) ++ reason
  | .invalidDocument reason => ("Invalid configuration document: " : Text) ++ reason
  | .notMapping => "Validator configuration must be a mapping"
  | .unknownKeys keys =>
    ("Unknown configuration key(s): " : Text) ++ Text.joinWith ", " keys
      ++ (". Expected " : Text) ++ ConfigSection.append.key.quoted ++ (" or " : Text)
      ++ ConfigSection.replace.key.quoted ++ ("." : Text)
  | .sectionNotMapping part =>
    part.key.quoted ++ (" must be a mapping of term to suggestions" : Text)
  | .termNotText part term =>
    part.key.quoted ++ (": term " : Text) ++ term.shown ++ (" must be a string" : Text)
  | .badSuggestions part term =>
    part.key.quoted ++ (": suggestions for " : Text) ++ term.quoted
      ++ (" must be a list of strings" : Text)
  | .table error => error.message

/-- Why reading a configuration ends without one. -/
inductive ConfigFailure where
  /-- The configuration is wrong. -/
  | config (error : ConfigError)
  /-- The document has a fault that is no matter of configurations. -/
  | fault (fault : Yaml.Fault)
  /-- A message would have to show an integer that is too long to be written. -/
  | overlongInteger
  /-- The path of the document can name no file. -/
  | impossiblePath

/-- A configuration of terms. It can have both sections, which exclude each other only when a table is to
be made of them. -/
structure TermsConfig where
  append : TermMap
  replace : TermMap
deriving DecidableEq

namespace TermsConfig

/-- The configuration without terms. -/
def empty : TermsConfig := ⟨∅, ∅⟩

/-- The suggestions for a term: texts in a list or a tuple, or none. -/
def suggestions? : Value → Option (List Text)
  | .scalar .null => some []
  | .list items => items.mapM Value.text?
  | .tuple items => items.mapM Value.text?
  | _ => none

/-- Puts one term of a section into a map. A key that is no text and suggestions that are no texts are
refused, and each refusal shows the key. -/
def putTerm (part : ConfigSection) (m : TermMap) (entry : Scalar × Value) :
    Except ConfigFailure TermMap :=
  match entry with
  | (.text term, value) =>
    match suggestions? value with
    | some suggestions => pure (m.put term suggestions)
    | none => throw (.config (.badSuggestions part term))
  | (term, _) =>
    if term.isOverlong then throw .overlongInteger
    else throw (.config (.termNotText part term))

/-- The terms of a section. A section without a value has none. -/
def sectionTerms (part : ConfigSection) : Option Value → Except ConfigFailure TermMap
  | none => pure ∅
  | some (.scalar .null) => pure ∅
  | some (.mapping entries) => entries.foldlM (putTerm part) ∅
  | some _ => throw (.config (.sectionNotMapping part))

/-- Whether the scalar is the key of a section. -/
def isSectionKey (k : Scalar) : Bool :=
  k == .text ConfigSection.append.key || k == .text ConfigSection.replace.key

/-- The value of a section in the entries of a mapping. -/
def sectionValue? (part : ConfigSection) (entries : List (Scalar × Value)) : Option Value :=
  (entries.find? fun (k, _) => k == .text part.key).map Prod.snd

/-- The configuration in plain data: nothing, or a mapping with the keys of the sections. -/
def ofValue : Value → Except ConfigFailure TermsConfig
  | .scalar .null => pure empty
  | .mapping entries => do
    let unknown := (entries.map Prod.fst).filter fun k => !isSectionKey k
    if unknown.any Scalar.isOverlong then throw .overlongInteger
    if !unknown.isEmpty then
      throw (.config (.unknownKeys (Text.sorted (unknown.map Scalar.plainText))))
    let append ← sectionTerms .append (sectionValue? .append entries)
    let replace ← sectionTerms .replace (sectionValue? .replace entries)
    return ⟨append, replace⟩
  | _ => throw (.config .notMapping)

/-- How many levels of a document a configuration has: the sections, their terms, the suggestions
of a term, and the suggestions themselves. -/
def depth : Nat := 4

/-- The configuration in a text. An empty document is the empty configuration, and a fault of the document
is a configuration error only if it is one that every malformed document has. -/
def ofText (text : Text) : Except ConfigFailure TermsConfig :=
  let value : Except Yaml.Fault Value := do
    match ← Yaml.Document.ofText text with
    | none => return .scalar .null
    | some d => Yaml.Outline.ofDocument depth d
  match value with
  | .ok value => ofValue value
  | .error (.malformed report) => throw (.config (.invalidDocument (report.shown text)))
  | .error fault => throw (.fault fault)

/-- The configuration `other` layered over `base`: its terms keep their places in `base` and have the
suggestions of `other`. The sections are layered each by itself. -/
def merged (base other : TermsConfig) : TermsConfig :=
  ⟨base.append.union other.append, base.replace.union other.replace⟩

/-- A map of terms as plain data. -/
def mapValue (m : TermMap) : Value :=
  .mapping (m.entries.map fun (term, suggestions) =>
    (.text term, .list (suggestions.map fun s => .scalar (.text s))))

/-- The configuration as plain data. -/
def toValue (c : TermsConfig) : Value :=
  .mapping
    [(.text ConfigSection.append.key, mapValue c.append),
     (.text ConfigSection.replace.key, mapValue c.replace)]

/-- The table that the configuration makes of the built-in terms. -/
def table (builtIn : TermMap) (c : TermsConfig) : Except TableError TermTable :=
  TermTable.resolve builtIn c.append c.replace

end TermsConfig

end TermAudit
