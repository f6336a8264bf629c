/-
  Documents from HTML trees.

  A document is a copy of HTML trees that keeps elements and texts and drops what is
  inside other nodes.  It has at most `maxDepth` levels: what stands inside an element
  of the last level is cut off.  The first time that this happens in a copy there is
  a warning; a flag remembers it until the copy is done.
-/
import WidgetMarkup.Diagnostic
import WidgetMarkup.Html.Parse

namespace WidgetMarkup

open Html (Tree)

/-- A part of a copy.  The flag says whether something was cut off already. -/
abbrev Copying := StateT Bool Reporting

/-- The nodes of trees at a depth, as `copy` gives them.  From `maxDepth` on there are none,
    and if that is the first loss of the copy, it is reported. -/
def upToMaxDepth (depth : Nat) (trees : List Tree) (copy : Copying (List Node)) :
    Copying (List Node) := do
  if maxDepth ≤ depth then
    let truncated ← get
    if !trees.isEmpty && !truncated then
      set true
      warn .tooDeep
    pure []
  else copy

mutual
/-- Copies a tree at a depth. -/
def copyTree (depth : Nat) : Tree → Copying Node
  | .element name attrs children => do
    let nodes ← upToMaxDepth (depth + 1) children (copyTrees (depth + 1) children)
    pure (.element name.tag attrs nodes)
  | .text content => pure (.text content)
  | .comment | .doctype | .fragment _ => pure .other

/-- Copies trees at a depth one after the other. -/
def copyTrees (depth : Nat) : List Tree → Copying (List Node)
  | [] => pure []
  | t :: ts => do
    let node ← copyTree depth t
    let nodes ← copyTrees depth ts
    pure (node :: nodes)
end

/-- The document of HTML trees. -/
def documentOf (trees : List Tree) : Reporting Document :=
  (upToMaxDepth 0 trees (copyTrees 0 trees)).run' false

/-- The document of an HTML text. -/
def parseDocument (html : String) : Reporting Document :=
  documentOf (Html.parse html)

end WidgetMarkup
