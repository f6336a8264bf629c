/-
  What a copy of HTML trees gives, and when it warns.

  * `nodesOf` are the nodes of trees at a depth, and `anyCut` says whether something of the
    trees is cut off; neither knows of a flag or a sink.
  * A part of a copy raises the flag if it cuts something off, and warns if that raised the
    flag (`Copying.Gives`); so does one part after the other (`Copying.Gives.bind`).
  * `yields_documentOf`: a document is `nodesOf` of its trees, and there is one warning if
    something of them is cut off.
-/
import WidgetMarkup.Document.OfTree
import WidgetMarkup.Proofs.Reporting

namespace WidgetMarkup

open Html (Tree)

/-! ## Nodes and losses -/

mutual
/-- The node of a tree at a depth. -/
def nodeOf (depth : Nat) : Tree → Node
  | .element name attrs children => .element name.tag attrs (nodesOf (depth + 1) children)
  | .text content => .text content
  | .comment | .doctype | .fragment _ => .other

/-- The nodes of trees at a depth; there are none from `maxDepth` on. -/
def nodesOf (depth : Nat) : List Tree → List Node
  | [] => []
  | t :: ts => if maxDepth ≤ depth then [] else nodeOf depth t :: nodesOf depth ts
end

mutual
/-- Whether something inside a tree at a depth is cut off. -/
def isCut (depth : Nat) : Tree → Bool
  | .element _ _ children => anyCut (depth + 1) children
  | .text _ | .comment | .doctype | .fragment _ => false

/-- Whether one of the trees at a depth is cut off or something inside it is. -/
def anyCut (depth : Nat) : List Tree → Bool
  | [] => false
  | t :: ts => decide (maxDepth ≤ depth) || isCut depth t || anyCut depth ts
end

theorem nodesOf_of_maxDepth_le {depth : Nat} (h : maxDepth ≤ depth) (ts : List Tree) :
    nodesOf depth ts = [] := by
  cases ts with
  | nil => rfl
  | cons t ts => rw [nodesOf, if_pos h]

theorem anyCut_of_maxDepth_le {depth : Nat} (h : maxDepth ≤ depth) (ts : List Tree) :
    anyCut depth ts = !ts.isEmpty := by
  cases ts with
  | nil => rfl
  | cons t ts => simp [anyCut, h]

/-! ## Parts of a copy -/

/-- The warning of a part of a copy that cuts something off, if the flag is not raised yet. -/
def cutWarnings (truncated cut : Bool) : List Diagnostic :=
  if cut && !truncated then [Notice.tooDeep.diagnostic] else []

/-- One warning is enough for two parts. -/
theorem cutWarnings_append (truncated cut cut' : Bool) :
    cutWarnings truncated cut ++ cutWarnings (truncated || cut) cut' =
      cutWarnings truncated (cut || cut') := by
  cases truncated <;> cases cut <;> cases cut' <;> rfl

namespace Copying

variable {α β : Type} {x : Copying α} {f : α → Copying β} {a : α} {b : β} {cut cut' : Bool}

/-- From every flag and sink, a part of a copy gives `a`; if it cuts something off, the flag is
    raised afterwards, and there is a warning if it was not raised before. -/
def Gives (x : Copying α) (a : α) (cut : Bool) : Prop :=
  ∀ truncated, Reporting.Yields (x.run truncated) (a, truncated || cut) (cutWarnings truncated cut)

theorem gives_pure (a : α) : (pure a : Copying α).Gives a false := by
  intro truncated
  rw [Bool.or_false]
  exact Reporting.yields_pure (a, truncated)

/-- **One part after the other** cuts something off if one of them does. -/
theorem Gives.bind (hx : x.Gives a cut) (hf : (f a).Gives b cut') :
    (x >>= f).Gives b (cut || cut') := by
  intro truncated
  rw [StateT.run_bind, ← cutWarnings_append, ← Bool.or_assoc]
  exact (hx truncated).bind (hf (truncated || cut))

theorem Gives.bind_pure (hx : x.Gives a cut) (g : α → β) :
    (x >>= fun a => pure (g a)).Gives (g a) cut := by
  rw [← Bool.or_false cut]
  exact hx.bind (gives_pure (g a))

/-- Trees at `maxDepth` are lost, however they are copied. -/
theorem gives_upToMaxDepth_of_le {depth : Nat} (h : maxDepth ≤ depth) (ts : List Tree)
    (copy : Copying (List Node)) : (upToMaxDepth depth ts copy).Gives [] (!ts.isEmpty) := by
  intro truncated
  rw [upToMaxDepth, if_pos h]
  cases hempty : ts.isEmpty <;> cases truncated <;> exact fun _ => rfl

end Copying

/-! ## Whole copies -/

theorem gives_upToMaxDepth (depth : Nat) (ts : List Tree)
    (h : depth < maxDepth → (copyTrees depth ts).Gives (nodesOf depth ts) (anyCut depth ts)) :
    (upToMaxDepth depth ts (copyTrees depth ts)).Gives (nodesOf depth ts) (anyCut depth ts) := by
  by_cases hdepth : maxDepth ≤ depth
  · rw [nodesOf_of_maxDepth_le hdepth, anyCut_of_maxDepth_le hdepth]
    exact Copying.gives_upToMaxDepth_of_le hdepth ts _
  · rw [upToMaxDepth, if_neg hdepth]
    exact h (Nat.lt_of_not_le hdepth)

mutual
theorem gives_copyTree (depth : Nat) :
    (t : Tree) → (copyTree depth t).Gives (nodeOf depth t) (isCut depth t)
  | .text _ | .comment | .doctype | .fragment _ => Copying.gives_pure _
  | .element name attrs children => by
    have hchildren := gives_upToMaxDepth (depth + 1) children fun h => gives_copyTrees h children
    exact hchildren.bind_pure (Node.element name.tag attrs)

/-- **A copy gives the nodes of its trees**, and it warns if it cuts something off. -/
theorem gives_copyTrees {depth : Nat} (h : depth < maxDepth) :
    (ts : List Tree) → (copyTrees depth ts).Gives (nodesOf depth ts) (anyCut depth ts)
  | [] => Copying.gives_pure []
  | t :: ts => by
    have hdepth : ¬maxDepth ≤ depth := Nat.not_le.2 h
    rw [copyTrees, nodesOf, if_neg hdepth, anyCut, decide_eq_false hdepth, Bool.false_or]
    exact (gives_copyTree depth t).bind
      ((gives_copyTrees h ts).bind_pure (nodeOf depth t :: ·))
end

/-- The warning of a document that was cut off, if it was. -/
def cutWarning (trees : List Tree) : List Diagnostic :=
  if anyCut 0 trees then [Notice.tooDeep.diagnostic] else []

/-- **A document consists of the nodes of its trees**, and there is one warning if something of
    them is cut off, however often the copy comes to such a place. -/
theorem yields_documentOf (trees : List Tree) :
    (documentOf trees).Yields (nodesOf 0 trees) (cutWarning trees) := by
  have hcopy := gives_upToMaxDepth 0 trees fun h => gives_copyTrees h trees
  have hstart := (hcopy false).map Prod.fst
  rw [cutWarnings, Bool.not_false, Bool.and_true] at hstart
  exact hstart

end WidgetMarkup
