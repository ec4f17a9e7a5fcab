import TermAudit.OrderedMap
import TermAudit.Text.Case
import TermAudit.Text.Quoted

/-!
# `TermAudit.Terms.Table`: the terms to look for

A `TermMap` gives terms their suggested replacements, in order. A `TermTable` is a map that the
search uses. `TermTable.resolve` makes it from the built-in terms and what a configuration appends
to them or puts in their place: it puts all terms in lowercase and refuses an empty one.
-/

set_option autoImplicit false

namespace TermAudit

/-- Terms with their suggested replacements. -/
abbrev TermMap := OrderedMap Text (List Text)

/-- Why terms cannot be resolved to a table. -/
inductive TableError where
  /-- There are terms to append and terms to put in place of the built-in ones. -/
  | appendAndReplace
  /-- A term is empty. -/
  | emptyTerm
deriving DecidableEq

/-- The error in words. -/
def TableError.message : TableError → Text
  | .appendAndReplace => "Cannot specify both terms to replace built-ins and terms to append."
  | .emptyTerm => "Empty string is not a valid non-inclusive term"

/-- The terms to look for, with their suggested replacements. All terms of a table that is resolved are in
lowercase. -/
structure TermTable where
  terms : TermMap
deriving DecidableEq

namespace TermMap

/-- The terms that are looked for without any configuration. -/
def builtIn : TermMap :=
  .ofList
    [("master", ["primary", "parent", "main"]),
     ("slave", ["secondary", "replica", "clone", "child"]),
     ("blacklist", ["denyList"]),
     ("whitelist", ["allowList"])]

/-- The map with its terms in lowercase. Of terms that become equal, the first place and the last
suggestions count. -/
def lowered (entries : List (Text × List Text)) : TermMap :=
  .ofList (entries.map fun (term, suggestions) => (term.lower, suggestions))

end TermMap

namespace TermTable

/-- The table of the built-in terms with `append` after them, or of `replace` alone if that is not empty.
The terms are put in lowercase last, so that an appended term in other letters takes the place of a
built-in one. -/
def resolve (builtIn append replace : TermMap) : Except TableError TermTable :=
  if !append.isEmpty && !replace.isEmpty then .error .appendAndReplace
  else
    let entries :=
      if replace.isEmpty then builtIn.entries ++ append.entries else replace.entries
    let terms := TermMap.lowered entries
    if terms.contains [] then .error .emptyTerm else .ok ⟨terms⟩

/-- Texts as a tuple. -/
def shownTuple : List Text → Text
  | [t] => ("(" : Text) ++ t.quoted ++ (",)" : Text)
  | ts => ("(" : Text) ++ Text.joinWith ", " (ts.map Text.quoted) ++ (")" : Text)

/-- The table in writing. -/
def shown (t : TermTable) : Text :=
  let entry (e : Text × List Text) : Text := e.1.quoted ++ (": " : Text) ++ shownTuple e.2
  ("TermTable(\x7b" : Text) ++ Text.joinWith ", " (t.terms.entries.map entry)
    ++ ("\x7d)" : Text)

end TermTable

end TermAudit
