import TermAudit.Text.Basic

/-!
# `TermAudit.Model.Location`: where something is declared

A `Location` is a place in a named document, with lines and columns counted from one.
`Location.nowhere` stands for findings that no single declaration causes.
-/

set_option autoImplicit false

namespace TermAudit

/-- A place in a document. A line or column of zero is unknown. -/
structure Location where
  file : Text
  line : Int
  column : Int
deriving DecidableEq

namespace Location

/-- The location of what is declared nowhere. Namespaces are reported at it, as they are only a part of
ids. -/
def nowhere : Location := ⟨"N/A", 0, 0⟩

/-- Whether the location is the one of what is declared nowhere. -/
def isNowhere (l : Location) : Bool :=
  l == nowhere

/-- A document of which no place is known. Errors are located there that concern the document as a
whole. -/
def ofFile (file : Text) : Location := ⟨file, 0, 0⟩

/-- The document, and line and column in brackets. -/
def shown (l : Location) : Text :=
  l.file ++ (" [" : Text) ++ Text.ofInt l.line ++ (", " : Text) ++ Text.ofInt l.column
    ++ ("]" : Text)

end Location

end TermAudit
