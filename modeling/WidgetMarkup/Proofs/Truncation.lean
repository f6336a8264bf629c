/-
  What a document leaves out of its trees, and when it says so.

  * `Document.at?` gives the node at a position of a document.  A document has the nodes of
    the copy of its trees at the same positions, down to the last level, and nothing below
    (`bare_at?_cutAll`).
  * `anyCut_eq_false_iff`: nothing is cut off if and only if the document is the copy.
  * `documentOf_copies` puts both together with the warning.
-/
import WidgetMarkup.Proofs.Accounting
import WidgetMarkup.Proofs.Bodies

namespace WidgetMarkup

open Reporting
open Html (Tree)

/-! ## Positions in a document -/

/-- The node at a position of a document.  The first index counts the nodes at the top, so a
    node at depth `n` has a position of length `n + 1`. -/
def Document.at? (document : Document) : Position → Option Node
  | [] => none
  | i :: pos => document[i]?.bind fun node => node.at? pos

/-- The node itself, without what is inside it. -/
def Node.bare : Node → Node
  | .element tag attrs _ => .element tag attrs []
  | .text content => .text content
  | .other => .other

theorem Node.bare_cut (level : Nat) (node : Node) : (node.cut level).bare = node.bare := by
  cases node <;> rfl

theorem cutAll_eq_map (level : Nat) (nodes : List Node) :
    cutAll level nodes = nodes.map (Node.cut level) := by
  induction nodes with
  | nil => rfl
  | cons node nodes ih => rw [cutAll, ih, List.map_cons]

theorem Node.children_cut (level : Nat) (node : Node) :
    (node.cut level).children =
      if level + 1 = maxDepth then [] else node.children.map (Node.cut (level + 1)) := by
  cases node with
  | element tag attrs children => rw [Node.cut, Node.children, Node.children, cutAll_eq_map]
  | text | other => simp [Node.cut, Node.children]

/-- A cut takes away the nodes below the last level and leaves the others where they are. -/
theorem Node.bare_at?_cut {level : Nat} (h : level < maxDepth) (node : Node) (pos : Position) :
    ((node.cut level).at? pos).map Node.bare =
      if level + pos.length < maxDepth then (node.at? pos).map Node.bare else none := by
  induction pos generalizing level node with
  | nil =>
    rw [if_pos (by simpa using h)]
    exact congrArg some (node.bare_cut level)
  | cons i pos ih =>
    rw [Node.at?, Node.children_cut, List.length_cons]
    by_cases hlast : level + 1 = maxDepth
    · rw [if_pos hlast, if_neg (by omega)]
      rfl
    · rw [if_neg hlast, Node.at?, List.getElem?_map]
      cases node.children[i]? with
      | none => simp
      | some child =>
        have hchild := ih (by omega : level + 1 < maxDepth) child
        rw [Nat.add_assoc, Nat.add_comm 1] at hchild
        exact hchild

theorem Document.bare_at?_cutAll (document : Document) (pos : Position) :
    (Document.at? (cutAll 0 document) pos).map Node.bare =
      if pos.length ≤ maxDepth then (document.at? pos).map Node.bare else none := by
  cases pos with
  | nil => rfl
  | cons i pos =>
    rw [Document.at?, cutAll_eq_map, List.getElem?_map, Document.at?, List.length_cons]
    cases document[i]? with
    | none => simp
    | some node =>
      have hnode := node.bare_at?_cut (by decide : 0 < maxDepth) pos
      rw [Nat.zero_add] at hnode
      exact hnode

/-! ## Nothing to cut off -/

mutual
theorem isCut_eq_false_iff {depth : Nat} (h : depth < maxDepth) :
    (t : Tree) → (isCut depth t = false ↔ nodeOf depth t = t.copy)
  | .text _ | .comment | .doctype | .fragment _ => ⟨fun _ => rfl, fun _ => rfl⟩
  | .element name attrs children => by
    rw [isCut, nodeOf, Tree.copy, anyCut_eq_false_iff h children]
    simp

/-- **Nothing is cut off if and only if the nodes are the copies of the trees.** -/
theorem anyCut_eq_false_iff {depth : Nat} (h : depth ≤ maxDepth) :
    (ts : List Tree) → (anyCut depth ts = false ↔ nodesOf depth ts = copyAll ts)
  | [] => ⟨fun _ => rfl, fun _ => rfl⟩
  | t :: ts => by
    rw [anyCut, nodesOf, copyAll]
    by_cases hdepth : maxDepth ≤ depth
    · simp [hdepth]
    · rw [if_neg hdepth, List.cons.injEq, ← isCut_eq_false_iff (Nat.lt_of_not_le hdepth) t,
        ← anyCut_eq_false_iff h ts]
      simp [hdepth]
end

/-- **A document is the copy of its trees, cut at the last level, and a warning says whether
    that took anything away.**  At each position it has what the copy has there, down to depth
    255, and nothing below; so every node has less than `maxDepth` elements around it.  If the
    document is the copy, nothing is reported; if not, the warning is reported once, whatever
    was cut off and how often. -/
theorem documentOf_copies (trees : List Tree) (sink : Sink) :
    ((documentOf trees).run sink).1 = cutAll 0 (copyAll trees) ∧
    (∀ pos, (Document.at? ((documentOf trees).run sink).1 pos).map Node.bare =
      if pos.length ≤ maxDepth then (Document.at? (copyAll trees) pos).map Node.bare else none) ∧
    (∀ o ∈ occurrencesAll [] ((documentOf trees).run sink).1, o.around.length < maxDepth) ∧
    ((((documentOf trees).run sink).1 = copyAll trees ∧
        ((documentOf trees).run sink).2.toList = sink.toList) ∨
      (((documentOf trees).run sink).1 ≠ copyAll trees ∧
        ((documentOf trees).run sink).2.toList = sink.toList ++ [Notice.tooDeep.diagnostic])) := by
  have hcut : nodesOf 0 trees = cutAll 0 (copyAll trees) := nodesOf_eq_cutAll (by decide) trees
  have hcopy := anyCut_eq_false_iff (Nat.zero_le maxDepth) trees
  rw [yields_documentOf trees sink, Sink.toList_addAll, cutWarning]
  dsimp only
  refine ⟨hcut, fun pos => ?_, fun o ho => ?_, ?_⟩
  · rw [hcut, Document.bare_at?_cutAll]
  · have hlevel := level_lt_nodesOf [] 0 trees o ho
    simpa using hlevel
  · cases h : anyCut 0 trees with
    | false => exact .inl ⟨hcopy.1 h, by simp⟩
    | true => exact .inr ⟨fun heq => by simp [hcopy.2 heq] at h, by simp⟩

end WidgetMarkup
