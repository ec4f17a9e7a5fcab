import TermAudit.Terms.Table
import TermAudit.Text.Folding

/-!
# `TermAudit.Terms.Search`: terms in a text

`findTerm` finds the first place in a text where a term stands, up to case, and gives it as it is
written there. An empty term is found nowhere. `TermMap.scan` looks for all terms of a map, in their
order, and reports each once at most.
-/

set_option autoImplicit false

namespace TermAudit

/-- The first occurrence of a term in a text, up to case. The empty term occurs nowhere. -/
def findTerm (text term : Text) : Option Text :=
  if term.isEmpty then none else Text.findLetters term text

/-- A term that was found, and how it is written where it was found. -/
structure TermMatch where
  term : Text
  matched : Text
deriving DecidableEq

/-- The terms of a map that a text contains, in the order of the map. Each of them is found once at most,
however often it occurs. -/
def TermMap.scan (terms : TermMap) (text : Text) : List TermMatch :=
  terms.keys.filterMap fun term => (findTerm text term).map (⟨term, ·⟩)

end TermAudit
