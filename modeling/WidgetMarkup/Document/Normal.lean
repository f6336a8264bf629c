/-
  Documents without insignificant blanks.

  `normalize` trims every text of a document and drops the texts that are empty
  then; elements, attributes and other nodes stay as they are.
-/
import WidgetMarkup.Document.Basic
import WidgetMarkup.Text.Blank

namespace WidgetMarkup

mutual
/-- The node without insignificant blanks, if anything is left of it. -/
def Node.normalize : Node → Option Node
  | .element tag attrs children => some (.element tag attrs (normalizeAll children))
  | .text content =>
    let trimmed := trim content
    if trimmed.isEmpty then none
    -- nothing was trimmed
    else if trimmed.utf8ByteSize == content.utf8ByteSize then some (.text content)
    else some (.text trimmed)
  | .other => some .other

/-- The nodes without insignificant blanks, in the same order. -/
def normalizeAll : List Node → List Node
  | [] => []
  | node :: nodes =>
    match node.normalize with
    | some kept => kept :: normalizeAll nodes
    | none => normalizeAll nodes
end

/-- The document without insignificant blanks. -/
def Document.normalize (document : Document) : Document :=
  normalizeAll document

end WidgetMarkup
