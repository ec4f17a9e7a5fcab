import TermAudit.Files
import TermAudit.Model.Reader
import TermAudit.Terms.Config

/-!
# `TermAudit.Loading`: models and configurations out of files

A file is read as UTF-8 with any line breaks. What the system says about a file that it does not
let be read becomes part of the error.
-/

set_option autoImplicit false

namespace TermAudit

/-- The model in a file, given what reading the file gives. Locations show the path without the
components that do not count. -/
def Model.ofContent (path : Text) (content : FileContent) : Except ReadError Model :=
  let file := Path.normalized path
  if Path.isImpossible path then .error .impossiblePath
  else
    match content with
    | .error failure => .error (.model ⟨.unreadableFile (failure.message file), .ofFile file⟩)
    | .ok octets =>
      match Text.ofFile? octets with
      | none => .error (.fault .notUtf8)
      | some text => ofText file text

/-- The configuration in a file, given what reading the file gives. -/
def TermsConfig.ofContent (path : Text) (content : FileContent) :
    Except ConfigFailure TermsConfig :=
  if Path.isImpossible path then .error .impossiblePath
  else
    match content with
    | .error failure =>
      .error (.config (.unreadableFile path (failure.message (Path.normalized path))))
    | .ok octets =>
      match Text.ofFile? octets with
      | none => .error (.fault .notUtf8)
      | some text => ofText text

end TermAudit
