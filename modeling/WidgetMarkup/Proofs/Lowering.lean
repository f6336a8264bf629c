/-
  What lowering gives and what it reports.

  Every computation of the lowering is append-only; for each there is an equation for its
  result and one for its diagnostics, by the cases of its definition.
-/
import Mathlib.Tactic.SplitIfs
import WidgetMarkup.Lowering
import WidgetMarkup.Proofs.Reporting

namespace WidgetMarkup

open Yuck Reporting

/-! ## Nodes inside a definition -/

theorem yields_lower_element {depth : Nat} {children : List Node} {items : List Item}
    {ds : List Diagnostic} (h : (lowerAll (depth + 1) children).Yields items ds) (tag : String)
    (attrs : List Attribute) :
    (lower depth (.element tag attrs children)).Yields
      (if maxDepth ≤ depth then [] else if tag.isEmpty then items
        else [.form tag (formProperties attrs) items])
      (if maxDepth ≤ depth then [(Notice.droppedElement tag).diagnostic]
        else if tag.isEmpty then Notice.missingTag.diagnostic :: ds else ds) := by
  rw [lower]
  split_ifs
  · exact (yields_warn _).bind (yields_pure _)
  · exact (yields_warn _).bind h
  · exact h.map _

theorem yields_lowerAll_cons {depth : Nat} {node : Node} {nodes : List Node}
    {items more : List Item} {ds es : List Diagnostic} (h : (lower depth node).Yields items ds)
    (hs : (lowerAll depth nodes).Yields more es) :
    (lowerAll depth (node :: nodes)).Yields (items ++ more) (ds ++ es) := by
  rw [lowerAll]
  exact h.bind (hs.map _)

mutual
theorem appendOnly_lower (depth : Nat) : (node : Node) → (lower depth node).AppendOnly
  | .text _ => (yields_pure _).appendOnly
  | .element tag attrs children =>
    (yields_lower_element (appendOnly_lowerAll (depth + 1) children) tag attrs).appendOnly
  | .other => (yields_pure _).appendOnly

theorem appendOnly_lowerAll (depth : Nat) :
    (nodes : List Node) → (lowerAll depth nodes).AppendOnly
  | [] => (yields_pure _).appendOnly
  | node :: nodes =>
    (yields_lowerAll_cons (appendOnly_lower depth node)
      (appendOnly_lowerAll depth nodes)).appendOnly
end

theorem result_lower_text (depth : Nat) (content : String) :
    (lower depth (.text content)).result = [.value (.infer content)] := rfl

theorem result_lower_element (depth : Nat) (tag : String) (attrs : List Attribute)
    (children : List Node) :
    (lower depth (.element tag attrs children)).result =
      if maxDepth ≤ depth then []
      else if tag.isEmpty then (lowerAll (depth + 1) children).result
      else [.form tag (formProperties attrs) (lowerAll (depth + 1) children).result] :=
  (yields_lower_element (appendOnly_lowerAll (depth + 1) children) tag attrs).result_eq

theorem diagnostics_lower_element (depth : Nat) (tag : String) (attrs : List Attribute)
    (children : List Node) :
    (lower depth (.element tag attrs children)).diagnostics =
      if maxDepth ≤ depth then [(Notice.droppedElement tag).diagnostic]
      else if tag.isEmpty then
        Notice.missingTag.diagnostic :: (lowerAll (depth + 1) children).diagnostics
      else (lowerAll (depth + 1) children).diagnostics :=
  (yields_lower_element (appendOnly_lowerAll (depth + 1) children) tag attrs).diagnostics_eq

theorem result_lowerAll_cons (depth : Nat) (node : Node) (nodes : List Node) :
    (lowerAll depth (node :: nodes)).result =
      (lower depth node).result ++ (lowerAll depth nodes).result :=
  (yields_lowerAll_cons (appendOnly_lower depth node) (appendOnly_lowerAll depth nodes)).result_eq

theorem diagnostics_lowerAll_cons (depth : Nat) (node : Node) (nodes : List Node) :
    (lowerAll depth (node :: nodes)).diagnostics =
      (lower depth node).diagnostics ++ (lowerAll depth nodes).diagnostics :=
  (yields_lowerAll_cons (appendOnly_lower depth node)
    (appendOnly_lowerAll depth nodes)).diagnostics_eq

theorem result_lowerAll_append (depth : Nat) (nodes more : List Node) :
    (lowerAll depth (nodes ++ more)).result =
      (lowerAll depth nodes).result ++ (lowerAll depth more).result := by
  induction nodes with
  | nil => rfl
  | cons node nodes ih =>
    rw [List.cons_append, result_lowerAll_cons, result_lowerAll_cons, ih, List.append_assoc]

theorem diagnostics_lowerAll_append (depth : Nat) (nodes more : List Node) :
    (lowerAll depth (nodes ++ more)).diagnostics =
      (lowerAll depth nodes).diagnostics ++ (lowerAll depth more).diagnostics := by
  induction nodes with
  | nil => rfl
  | cons node nodes ih =>
    rw [List.cons_append, diagnostics_lowerAll_cons, diagnostics_lowerAll_cons, ih,
      List.append_assoc]

/-! ## Windows and widgets -/

/-- Whether a node is an element with the given tag. -/
def Node.isTagged (tag : String) : Node → Bool
  | .element t _ _ => t == tag
  | .text _ | .other => false

theorem isGeometry_eq_isTagged : Node.isGeometry = Node.isTagged "geometry" := by
  funext node
  cases node <;> rfl

theorem yields_when {α : Type} {x : Reporting α} {a : α} {ds : List Diagnostic}
    (h : x.Yields a ds) (b : Bool) (notice : Notice) :
    (do
      if b then warn notice
      x).Yields a ((if b then [notice.diagnostic] else []) ++ ds) := by
  cases b with
  | false => exact (yields_pure PUnit.unit).bind (f := fun _ => x) h
  | true => exact (yields_warn notice).bind (f := fun _ => x) h

theorem yields_windowItems_cons {name : String} {seen : Bool} {node : Node} {nodes : List Node}
    {more : List Item} {es : List Diagnostic}
    (h : (windowItems name (seen || node.isGeometry) nodes).Yields more es) :
    (windowItems name seen (node :: nodes)).Yields
      (if node.isGeometry then more else (lower 0 node).result ++ more)
      ((if node.isGeometry then if seen then [(Notice.extraGeometry name).diagnostic] else []
        else (lower 0 node).diagnostics) ++ es) := by
  rw [windowItems]
  cases hg : node.isGeometry with
  | true =>
    rw [hg, Bool.or_true] at h
    exact yields_when h seen _
  | false =>
    rw [hg, Bool.or_false] at h
    exact (appendOnly_lower 0 node).bind (h.map _)

theorem appendOnly_windowItems (name : String) (seen : Bool) (nodes : List Node) :
    (windowItems name seen nodes).AppendOnly := by
  induction nodes generalizing seen with
  | nil => exact (yields_pure _).appendOnly
  | cons node nodes ih => exact (yields_windowItems_cons (ih _)).appendOnly

/-- The items of a window are those of its children that are no geometry blocks. -/
theorem result_windowItems (name : String) (seen : Bool) (nodes : List Node) :
    (windowItems name seen nodes).result =
      (lowerAll 0 (nodes.filter fun node => !node.isGeometry)).result := by
  induction nodes generalizing seen with
  | nil => rfl
  | cons node nodes ih =>
    rw [(yields_windowItems_cons (appendOnly_windowItems name _ nodes)).result_eq, ih]
    cases h : node.isGeometry with
    | true => simp [h]
    | false => simp [h, result_lowerAll_cons]

theorem diagnostics_windowItems_cons (name : String) (seen : Bool) (node : Node)
    (nodes : List Node) :
    (windowItems name seen (node :: nodes)).diagnostics =
      (if node.isGeometry then if seen then [(Notice.extraGeometry name).diagnostic] else []
        else (lower 0 node).diagnostics) ++
      (windowItems name (seen || node.isGeometry) nodes).diagnostics :=
  (yields_windowItems_cons (appendOnly_windowItems name _ nodes)).diagnostics_eq

/-- The properties of a geometry block: all attributes of its element, as strings. -/
def geometryProperties (g : Element) : List Property :=
  g.attrs.map fun a => .valued a.key (.quoted a.value)

theorem yields_windowOf (e : Element) :
    (windowOf e).Yields
      { name := definitionName e
        props := (ownAttributes e).map windowProperty
        geometry := (e.child? "geometry").map geometryProperties
        children := (lowerAll 0 (e.children.filter fun node => !node.isGeometry)).result }
      ((if (definitionName e).isEmpty then [Notice.unnamedWindow.diagnostic] else []) ++
        (windowItems (definitionName e) false e.children).diagnostics) := by
  have h := appendOnly_windowItems (definitionName e) false e.children
  rw [AppendOnly, result_windowItems] at h
  exact yields_when (h.map _) _ _

theorem yields_widgetOf (e : Element) :
    (widgetOf e).Yields
      { name := definitionName e
        fields := (ownAttributes e).map (·.key)
        body := (lowerAll 0 e.children).result }
      ((if (definitionName e).isEmpty then [Notice.unnamedWidget.diagnostic] else []) ++
        (lowerAll 0 e.children).diagnostics) :=
  yields_when ((appendOnly_lowerAll 0 e.children).map _) _ _

/-! ## Definitions -/

/-- Whether a node is a window or a widget. -/
def Node.isDefinition : Node → Bool
  | .element tag _ _ => tag == "window" || tag == "widget"
  | .text _ | .other => false

/-- What becomes of a node directly inside the body. -/
theorem yields_definitionOf (node : Node) :
    (definitionOf node).Yields
      (match node with
        | .text _ | .other => none
        | .element tag attrs children =>
          if tag == "window" then some (.window (windowOf ⟨tag, attrs, children⟩).result)
          else if tag == "widget" then some (.widget (widgetOf ⟨tag, attrs, children⟩).result)
          else none)
      (match node with
        | .text content => [(Notice.strayText content).diagnostic]
        | .other => [Notice.strayOther.diagnostic]
        | .element tag attrs children =>
          if tag == "window" then (windowOf ⟨tag, attrs, children⟩).diagnostics
          else if tag == "widget" then (widgetOf ⟨tag, attrs, children⟩).diagnostics
          else [(Notice.unhandledTag tag).diagnostic]) := by
  have hskip : ∀ notice, (do warn notice; pure (none : Option Definition)).Yields none
      [notice.diagnostic] :=
    fun notice => (yields_warn notice).bind (f := fun _ => pure none) (yields_pure _)
  cases node with
  | text content => exact hskip _
  | other => exact hskip _
  | element tag attrs children =>
    rw [definitionOf]
    dsimp only
    split_ifs
    · exact (yields_windowOf _).appendOnly.map _
    · exact (yields_widgetOf _).appendOnly.map _
    · exact hskip _

theorem appendOnly_definitionOf (node : Node) : (definitionOf node).AppendOnly :=
  (yields_definitionOf node).appendOnly

theorem yields_definitionsOf_cons {nodes : List Node} {defs : List Definition}
    {es : List Diagnostic} (h : (definitionsOf nodes).Yields defs es) (node : Node) :
    (definitionsOf (node :: nodes)).Yields ((definitionOf node).result.toList ++ defs)
      ((definitionOf node).diagnostics ++ es) :=
  (appendOnly_definitionOf node).bind (h.map _)

theorem appendOnly_definitionsOf (nodes : List Node) : (definitionsOf nodes).AppendOnly := by
  induction nodes with
  | nil => exact (yields_pure _).appendOnly
  | cons node nodes ih => exact (yields_definitionsOf_cons ih node).appendOnly

theorem appendOnly_definitions (body : Element) : (definitions body).AppendOnly :=
  appendOnly_definitionsOf body.children

theorem result_definitionsOf_cons (node : Node) (nodes : List Node) :
    (definitionsOf (node :: nodes)).result =
      (definitionOf node).result.toList ++ (definitionsOf nodes).result :=
  (yields_definitionsOf_cons (appendOnly_definitionsOf nodes) node).result_eq

theorem diagnostics_definitionsOf_cons (node : Node) (nodes : List Node) :
    (definitionsOf (node :: nodes)).diagnostics =
      (definitionOf node).diagnostics ++ (definitionsOf nodes).diagnostics :=
  (yields_definitionsOf_cons (appendOnly_definitionsOf nodes) node).diagnostics_eq

theorem result_definitionsOf_append (nodes more : List Node) :
    (definitionsOf (nodes ++ more)).result =
      (definitionsOf nodes).result ++ (definitionsOf more).result := by
  induction nodes with
  | nil => rfl
  | cons node nodes ih =>
    rw [List.cons_append, result_definitionsOf_cons, result_definitionsOf_cons, ih,
      List.append_assoc]

theorem diagnostics_definitionsOf_append (nodes more : List Node) :
    (definitionsOf (nodes ++ more)).diagnostics =
      (definitionsOf nodes).diagnostics ++ (definitionsOf more).diagnostics := by
  induction nodes with
  | nil => rfl
  | cons node nodes ih =>
    rw [List.cons_append, diagnostics_definitionsOf_cons, diagnostics_definitionsOf_cons, ih,
      List.append_assoc]

end WidgetMarkup
