/-
  What the diagnostics of a body are about.

  * A node has a position, the indices of the children on the way to it; document order is
    the order of positions.  `Node.places` lists a node and what is inside it with their
    positions, in document order.
  * `Element.notice?` says what there is to report about the node at a position inside the
    body, if anything: it looks at the node, at its depth and at the window or widget it is in.
  * The diagnostics of `definitions` are these notices in document order, and their number is
    that of the nodes that are skipped, unnamed, superfluous, without a tag or too deep
    (`definitions_accounted`).
-/
import Mathlib.Data.List.Forall2
import WidgetMarkup.Proofs.Lowering

namespace WidgetMarkup

open Yuck Reporting

/-! ## Positions -/

/-- The indices of the children on the way to a node.  In the order of lists a node comes
    before what is inside it, and that before the next child. -/
abbrev Position := List Nat

def Node.children : Node → List Node
  | .element _ _ children => children
  | .text _ | .other => []

/-- The node at a position below a node. -/
def Node.at? : Node → Position → Option Node
  | node, [] => some node
  | node, i :: pos => node.children[i]?.bind fun child => child.at? pos

mutual
/-- A node and what is inside it, in document order, each with its position. -/
def Node.places : Node → List (Position × Node)
  | .text content => [([], .text content)]
  | .element tag attrs children => ([], .element tag attrs children) :: placesAll 0 children
  | .other => [([], .other)]

/-- The same for the children of a node from number `i` on. -/
def placesAll (i : Nat) : List Node → List (Position × Node)
  | [] => []
  | node :: nodes => node.places.map (fun p => (i :: p.1, p.2)) ++ placesAll (i + 1) nodes
end

theorem Node.places_eq (node : Node) : node.places = ([], node) :: placesAll 0 node.children := by
  cases node <;> rfl

mutual
theorem Node.mem_places_iff {pos : Position} {n : Node} :
    (node : Node) → ((pos, n) ∈ node.places ↔ node.at? pos = some n)
  | .text content | .other => by
    cases pos <;> simp [Node.places, Node.at?, Node.children, eq_comm]
  | .element tag attrs children => by
    have hinside : (pos, n) ∈ placesAll 0 children ↔ _ := mem_placesAll_iff 0 children
    cases pos with
    | nil => simp [Node.places, Node.at?, hinside, eq_comm]
    | cons i pos => simp [Node.places, Node.at?, Node.children, hinside]

theorem mem_placesAll_iff {pos : Position} {n : Node} (k : Nat) : (nodes : List Node) →
    ((pos, n) ∈ placesAll k nodes ↔ ∃ i rest, pos = (k + i) :: rest ∧
      nodes[i]?.bind (fun child => child.at? rest) = some n)
  | [] => by simp [placesAll]
  | node :: nodes => by
    have hnode : ∀ rest, ((rest, n) ∈ node.places ↔ node.at? rest = some n) :=
      fun rest => Node.mem_places_iff node
    rw [placesAll, List.mem_append, mem_placesAll_iff (k + 1) nodes]
    constructor
    · rintro (h | ⟨i, rest, rfl, h⟩)
      · obtain ⟨⟨rest, _⟩, hmem, heq⟩ := List.mem_map.1 h
        obtain ⟨rfl, rfl⟩ := Prod.mk.inj heq
        exact ⟨0, rest, rfl, (hnode rest).1 hmem⟩
      · exact ⟨i + 1, rest, by rw [Nat.add_assoc, Nat.add_comm 1 i], h⟩
    · rintro ⟨i, rest, rfl, h⟩
      cases i with
      | zero => exact .inl (List.mem_map.2 ⟨(rest, n), (hnode rest).2 h, rfl⟩)
      | succ i => exact .inr ⟨i, rest, by rw [Nat.add_assoc, Nat.add_comm 1 i], h⟩
end

mutual
/-- A listing is in document order, without repetitions. -/
theorem Node.pairwise_places : (node : Node) → node.places.Pairwise fun p q => p.1 < q.1
  | .text _ | .other => List.pairwise_singleton _ _
  | .element tag attrs children => by
    rw [Node.places]
    refine .cons (fun p hp => ?_) (pairwise_placesAll 0 children)
    obtain ⟨i, rest, hpos, -⟩ := (mem_placesAll_iff 0 children).1 hp
    rw [hpos]
    exact List.nil_lt_cons _ _

theorem pairwise_placesAll (k : Nat) : (nodes : List Node) →
    (placesAll k nodes).Pairwise fun p q => p.1 < q.1
  | [] => .nil
  | node :: nodes => by
    rw [placesAll, List.pairwise_append, List.pairwise_map]
    refine ⟨node.pairwise_places.imp fun h => List.cons_lt_cons_iff.2 (.inr ⟨rfl, h⟩),
      pairwise_placesAll (k + 1) nodes, ?_⟩
    intro p hp q hq
    obtain ⟨p', -, rfl⟩ := List.mem_map.1 hp
    obtain ⟨i, rest, hpos, -⟩ := (mem_placesAll_iff (k + 1) nodes).1 hq
    rw [hpos]
    exact List.cons_lt_cons_iff.2 (.inl (by omega))
end

/-- What a listing of children is filtered to, child by child. -/
theorem filterMap_placesAll {β : Type} {f : Position → Node → Option β}
    {g : Node → Position → Node → Option β} (k : Nat) (nodes : List Node)
    (h : ∀ i child, nodes[i]? = some child → ∀ pos n, f ((k + i) :: pos) n = g child pos n) :
    (placesAll k nodes).filterMap (fun p => f p.1 p.2) =
      nodes.flatMap fun child => child.places.filterMap fun p => g child p.1 p.2 := by
  induction nodes generalizing k with
  | nil => rfl
  | cons node nodes ih =>
    have hhead : ∀ pos n, f (k :: pos) n = g node pos n := h 0 node rfl
    have htail := ih (k + 1) fun i child hi pos n => by
      rw [Nat.add_assoc, Nat.add_comm 1 i]
      exact h (i + 1) child hi pos n
    simp only [placesAll, List.filterMap_append, List.filterMap_map, Function.comp_def, hhead,
      htail, List.flatMap_cons]

theorem filterMap_places {β : Type} (f : Position → Node → Option β) (node : Node) :
    node.places.filterMap (fun p => f p.1 p.2) =
      (f [] node).toList ++ (placesAll 0 node.children).filterMap fun p => f p.1 p.2 := by
  rw [node.places_eq, List.filterMap_cons]
  cases f [] node <;> rfl

/-! ## Notices -/

/-- What there is to report about a node at a depth inside a window or widget. -/
def Node.depthNotice? (depth : Nat) : Node → Option Notice
  | .element tag _ _ =>
    if depth = maxDepth then some (.droppedElement tag)
    else if depth < maxDepth ∧ tag.isEmpty then some .missingTag
    else none
  | .text _ | .other => none

/-- What there is to report about a node at a position below child number `i` of a window.
    Of a geometry element nothing counts but whether there is one before it. -/
def windowNotice? (name : String) (children : List Node) (i : Nat) (pos : Position)
    (node : Node) : Option Notice :=
  if children[i]?.any (Node.isTagged "geometry") then
    if pos.isEmpty && (children.take i).any (Node.isTagged "geometry") then
      some (.extraGeometry name)
    else none
  else node.depthNotice? pos.length

/-- The value of the first `name` among attributes. -/
def firstName? (attrs : List Attribute) : Option String :=
  (attrs.find? (·.key == "name")).map (·.value)

/-- Whether the first `name` among attributes is missing or empty. -/
def lacksName (attrs : List Attribute) : Bool :=
  (firstName? attrs).all (· == "")

/-- What there is to report about a child of the body itself. -/
def Node.ownNotice? : Node → Option Notice
  | .text content => some (.strayText content)
  | .other => some .strayOther
  | .element tag attrs _ =>
    if tag == "window" then if lacksName attrs then some .unnamedWindow else none
    else if tag == "widget" then if lacksName attrs then some .unnamedWidget else none
    else some (.unhandledTag tag)

/-- What there is to report about the node at a position below a child of the body. -/
def Node.notice? (child : Node) : Position → Node → Option Notice
  | [], _ => child.ownNotice?
  | i :: pos, node =>
    match child with
    | .element tag attrs children =>
      if tag == "window" then
        windowNotice? ((firstName? attrs).getD "") children i pos node
      else if tag == "widget" then node.depthNotice? pos.length
      else none
    | .text _ | .other => none

/-- What there is to report about the node at a position below the body. -/
def Element.notice? (body : Element) : Position → Node → Option Notice
  | [], _ => none
  | i :: pos, node => body.children[i]?.bind fun child => child.notice? pos node

/-! ## Diagnostics are the notices in document order -/

theorem definitionName_eq (e : Element) : definitionName e = (firstName? e.attrs).getD "" := rfl

theorem isEmpty_definitionName (e : Element) : (definitionName e).isEmpty = lacksName e.attrs := by
  rw [definitionName_eq, lacksName]
  cases firstName? e.attrs with
  | none => rfl
  | some name => rw [Option.getD_some, Option.all_some, Bool.eq_iff_iff]; simp

theorem Node.depthNotice?_too_deep {depth : Nat} (h : maxDepth < depth) (node : Node) :
    node.depthNotice? depth = none := by
  cases node with
  | text | other => rfl
  | element tag attrs children =>
    rw [depthNotice?, if_neg (by omega), if_neg (by omega)]

theorem Node.depthNotice?_element {depth : Nat} (h : depth ≤ maxDepth) (tag : String)
    (attrs : List Attribute) (children : List Node) :
    (Node.element tag attrs children).depthNotice? depth =
      if maxDepth ≤ depth then some (.droppedElement tag)
      else if tag.isEmpty then some .missingTag else none := by
  have heq : depth = maxDepth ↔ maxDepth ≤ depth := by omega
  by_cases hdeep : maxDepth ≤ depth
  · simp [depthNotice?, heq, hdeep]
  · simp [depthNotice?, heq, hdeep, Nat.lt_of_not_le hdeep]

mutual
/-- **The diagnostics of a node inside a definition** are what there is to report about it and
    about what is inside it. -/
theorem diagnostics_lower {depth : Nat} (h : depth ≤ maxDepth) : (node : Node) →
    (lower depth node).diagnostics =
      (node.places.filterMap fun p => p.2.depthNotice? (depth + p.1.length)).map
        Notice.diagnostic
  | .text _ | .other => rfl
  | .element tag attrs children => by
    have hown := Node.depthNotice?_element h tag attrs children
    have hinside := filterMap_placesAll (f := fun pos n => n.depthNotice? (depth + pos.length))
      (g := fun _ pos n => n.depthNotice? (depth + 1 + pos.length)) 0 children
      fun i child _ pos n => by rw [List.length_cons, Nat.add_assoc, Nat.add_comm 1]
    rw [← List.filterMap_flatMap] at hinside
    rw [diagnostics_lower_element, Node.places, List.filterMap_cons, hinside]
    dsimp only [List.length_nil, Nat.add_zero]
    rw [hown]
    split_ifs with hdeep htag
    · -- at the greatest depth the element is reported and what is inside it is not
      have hnone : ∀ p : Position × Node, p.2.depthNotice? (depth + 1 + p.1.length) = none :=
        fun p => p.2.depthNotice?_too_deep (by omega)
      simp [hnone]
    · rw [diagnostics_lowerAll (by omega) children, List.map_cons]
    · rw [diagnostics_lowerAll (by omega) children]

theorem diagnostics_lowerAll {depth : Nat} (h : depth ≤ maxDepth) : (nodes : List Node) →
    (lowerAll depth nodes).diagnostics =
      ((nodes.flatMap Node.places).filterMap fun p => p.2.depthNotice? (depth + p.1.length)).map
        Notice.diagnostic
  | [] => rfl
  | node :: nodes => by
    rw [diagnostics_lowerAll_cons, diagnostics_lower h node, diagnostics_lowerAll h nodes,
      List.flatMap_cons, List.filterMap_append, List.map_append]
end

/-- The children of a window from some point on; `before` are those in front of them. -/
theorem diagnostics_windowItems {f : Position → Node → Option Notice} (name : String)
    (before nodes : List Node)
    (hf : ∀ i pos n, f (i :: pos) n = windowNotice? name (before ++ nodes) i pos n) :
    (windowItems name (before.any Node.isGeometry) nodes).diagnostics =
      ((placesAll before.length nodes).filterMap fun p => f p.1 p.2).map Notice.diagnostic := by
  induction nodes generalizing before with
  | nil => rfl
  | cons node nodes ih =>
    have hrest := ih (before ++ [node]) (by simpa using hf)
    rw [List.any_append, List.any_cons, List.any_nil, Bool.or_false, List.length_append,
      List.length_singleton] at hrest
    have hnode : ∀ pos n, f (before.length :: pos) n =
        if node.isGeometry then
          if pos.isEmpty && before.any Node.isGeometry then some (.extraGeometry name) else none
        else n.depthNotice? pos.length := by
      intro pos n
      rw [hf, windowNotice?, List.getElem?_append_right (Nat.le_refl _), Nat.sub_self,
        List.getElem?_cons_zero, Option.any_some, List.take_left, isGeometry_eq_isTagged]
    rw [diagnostics_windowItems_cons, hrest, placesAll, List.filterMap_append, List.map_append,
      List.filterMap_map]
    congr 1
    simp only [Function.comp_def, hnode]
    cases hg : node.isGeometry with
    | false =>
      have hlower := diagnostics_lower (Nat.zero_le maxDepth) node
      simpa using hlower
    | true =>
      -- inside a geometry element there is nothing to report
      have hinside := filterMap_placesAll
        (f := fun pos _ =>
          if pos.isEmpty && before.any Node.isGeometry then some (Notice.extraGeometry name)
          else none)
        (g := fun _ _ _ => none) 0 node.children fun _ _ _ _ _ => rfl
      simp only [if_true, node.places_eq, List.filterMap_cons, hinside, List.isEmpty_nil,
        Bool.true_and, List.filterMap_none]
      cases before.any Node.isGeometry <;> simp

/-- What is reported about the nodes inside a child of the body. -/
theorem diagnostics_inside (tag : String) (attrs : List Attribute) (children : List Node) :
    ((placesAll 0 children).filterMap fun p =>
        (Node.element tag attrs children).notice? p.1 p.2).map Notice.diagnostic =
      if tag == "window" then
        (windowItems (definitionName ⟨tag, attrs, children⟩) false children).diagnostics
      else if tag == "widget" then (lowerAll 0 children).diagnostics
      else [] := by
  have hnotice : ∀ i pos n, (Node.element tag attrs children).notice? (i :: pos) n =
      if tag == "window" then
        windowNotice? (definitionName ⟨tag, attrs, children⟩) children i pos n
      else if tag == "widget" then n.depthNotice? pos.length
      else none := fun _ _ _ => rfl
  split_ifs at hnotice ⊢ with hwindow hwidget
  · exact (diagnostics_windowItems _ [] children hnotice).symm
  · rw [filterMap_placesAll (g := fun _ pos n => n.depthNotice? pos.length) 0 children
      fun i child _ pos n => hnotice _ _ _, ← List.filterMap_flatMap,
      diagnostics_lowerAll (Nat.zero_le maxDepth)]
    simp only [Nat.zero_add]
  · rw [filterMap_placesAll (g := fun _ _ _ => none) 0 children
      fun i child _ pos n => hnotice _ _ _]
    simp

/-- **The diagnostics of a child of the body** are what there is to report about it and about
    what is inside it. -/
theorem diagnostics_definitionOf (child : Node) :
    (definitionOf child).diagnostics =
      (child.places.filterMap fun p => child.notice? p.1 p.2).map Notice.diagnostic := by
  rw [(yields_definitionOf child).diagnostics_eq, filterMap_places, List.map_append]
  cases child with
  | text | other => rfl
  | element tag attrs children =>
    rw [Node.children, diagnostics_inside, Node.notice?, Node.ownNotice?]
    dsimp only
    rw [(yields_windowOf _).diagnostics_eq, (yields_widgetOf _).diagnostics_eq,
      isEmpty_definitionName]
    split_ifs <;> rfl

theorem diagnostics_definitionsOf (nodes : List Node) :
    (definitionsOf nodes).diagnostics =
      (nodes.flatMap fun child => child.places.filterMap fun p => child.notice? p.1 p.2).map
        Notice.diagnostic := by
  induction nodes with
  | nil => rfl
  | cons node nodes ih =>
    rw [diagnostics_definitionsOf_cons, diagnostics_definitionOf, ih, List.flatMap_cons,
      List.map_append]

/-- What there is to report about the nodes of a body, in document order. -/
def Element.marks (body : Element) : List (Position × Notice) :=
  body.toNode.places.filterMap fun p => (body.notice? p.1 p.2).map fun notice => (p.1, notice)

theorem Element.mem_marks_iff {body : Element} {pos : Position} {notice : Notice} :
    (pos, notice) ∈ body.marks ↔
      ∃ node, body.toNode.at? pos = some node ∧ body.notice? pos node = some notice := by
  simp only [marks, List.mem_filterMap, Option.map_eq_some_iff, Prod.exists, Prod.mk.injEq]
  constructor
  · rintro ⟨pos, node, hmem, notice, hnotice, rfl, rfl⟩
    exact ⟨node, (Node.mem_places_iff _).1 hmem, hnotice⟩
  · rintro ⟨node, hat, hnotice⟩
    exact ⟨pos, node, (Node.mem_places_iff _).2 hat, notice, hnotice, rfl, rfl⟩

theorem Element.pairwise_marks (body : Element) :
    body.marks.Pairwise fun m m' => m.1 < m'.1 := by
  rw [marks, List.pairwise_filterMap]
  refine body.toNode.pairwise_places.imp fun {p q} hlt m hm m' hm' => ?_
  obtain ⟨_, -, rfl⟩ := Option.map_eq_some_iff.1 hm
  obtain ⟨_, -, rfl⟩ := Option.map_eq_some_iff.1 hm'
  exact hlt

theorem diagnostics_definitions (body : Element) :
    (definitions body).diagnostics = body.marks.map fun m => m.2.diagnostic := by
  have hchildren := filterMap_placesAll (f := body.notice?) (g := Node.notice?) 0 body.children
    fun i child hi pos n => by rw [Nat.zero_add, Element.notice?, hi, Option.bind_some]
  rw [definitions, diagnostics_definitionsOf, ← hchildren, Element.marks, Node.places_eq,
    List.filterMap_cons]
  simp only [Element.notice?, Option.map_none, List.map_filterMap, Option.map_map]
  rfl

/-! ## Counting -/

/-- Whether a node is a window or a widget without a name. -/
def Node.isUnnamed (node : Node) : Bool :=
  node.isDefinition && (node.element?.all fun e => lacksName e.attrs)

/-- The geometry elements of a window beyond the first. -/
def Node.extraGeometries : Node → List Node
  | .element tag _ children =>
    if tag == "window" then (children.filter (Node.isTagged "geometry")).drop 1 else []
  | .text _ | .other => []

/-- The nodes that make up the items of a window or widget: its children, for a window without
    the geometry elements. -/
def Node.content : Node → List Node
  | .element tag _ children =>
    if tag == "window" then children.filter fun node => !node.isTagged "geometry"
    else if tag == "widget" then children
    else []
  | .text _ | .other => []

/-- Whether a node is an element without a tag at a depth that is not too great. -/
def Node.isTagless (depth : Nat) : Node → Bool
  | .element tag _ _ => decide (depth < maxDepth) && tag.isEmpty
  | .text _ | .other => false

/-- Whether a node is an element at the depth where elements are dropped. -/
def Node.isDropped (depth : Nat) : Node → Bool
  | .element _ _ _ => depth == maxDepth
  | .text _ | .other => false

/-- Something is reported about a node for one of two reasons, never for both. -/
theorem Node.isSome_depthNotice? (depth : Nat) (node : Node) :
    (node.depthNotice? depth).isSome = (node.isTagless depth || node.isDropped depth) ∧
      (node.isTagless depth && node.isDropped depth) = false := by
  cases node with
  | text | other => exact ⟨rfl, rfl⟩
  | element tag attrs children =>
    by_cases heq : depth = maxDepth
    · simp [depthNotice?, isTagless, isDropped, heq]
    · cases htag : tag.isEmpty <;> by_cases hlt : depth < maxDepth <;>
        simp [depthNotice?, isTagless, isDropped, heq, hlt, htag]

theorem length_filterMap_depthNotice? (places : List (Position × Node)) :
    (places.filterMap fun p => p.2.depthNotice? p.1.length).length =
      places.countP (fun p => p.2.isTagless p.1.length) +
        places.countP fun p => p.2.isDropped p.1.length := by
  rw [List.length_filterMap_eq_countP]
  induction places with
  | nil => rfl
  | cons p places ih =>
    obtain ⟨hsome, hdisjoint⟩ := p.2.isSome_depthNotice? p.1.length
    rw [List.countP_cons, List.countP_cons, List.countP_cons, ih, hsome]
    cases htagless : p.2.isTagless p.1.length <;> cases hdropped : p.2.isDropped p.1.length <;>
      simp_all <;> omega

theorem length_diagnostics_lowerAll (nodes : List Node) :
    (lowerAll 0 nodes).diagnostics.length =
      (nodes.flatMap Node.places).countP (fun p => p.2.isTagless p.1.length) +
        (nodes.flatMap Node.places).countP fun p => p.2.isDropped p.1.length := by
  rw [diagnostics_lowerAll (Nat.zero_le maxDepth), List.length_map]
  simp only [Nat.zero_add]
  exact length_filterMap_depthNotice? _

theorem length_diagnostics_windowItems (name : String) (seen : Bool) (nodes : List Node) :
    (windowItems name seen nodes).diagnostics.length =
      ((nodes.filter Node.isGeometry).drop (if seen then 0 else 1)).length +
        (lowerAll 0 (nodes.filter fun node => !node.isGeometry)).diagnostics.length := by
  induction nodes generalizing seen with
  | nil => cases seen <;> rfl
  | cons node nodes ih =>
    rw [diagnostics_windowItems_cons, List.length_append, ih]
    cases hg : node.isGeometry with
    | true =>
      cases seen with
      | true => simp [hg]; omega
      | false => simp [hg]
    | false =>
      simp [hg, diagnostics_lowerAll_cons]
      omega

theorem length_diagnostics_definitionOf (child : Node) :
    (definitionOf child).diagnostics.length =
      (if child.isDefinition then 0 else 1) + (if child.isUnnamed then 1 else 0) +
        child.extraGeometries.length + (lowerAll 0 child.content).diagnostics.length := by
  rw [(yields_definitionOf child).diagnostics_eq]
  cases child with
  | text | other => rfl
  | element tag attrs children =>
    have hname : ∀ (b : Bool) (d : Diagnostic),
        (if b then [d] else []).length = if b then 1 else 0 := fun b d => by cases b <;> rfl
    by_cases hwindow : tag = "window"
    · subst hwindow
      have hitems := length_diagnostics_windowItems (definitionName ⟨"window", attrs, children⟩)
        false children
      show (windowOf ⟨"window", attrs, children⟩).diagnostics.length =
        0 + (if lacksName attrs then 1 else 0) +
          ((children.filter (Node.isTagged "geometry")).drop 1).length +
          (lowerAll 0 (children.filter fun node => !node.isTagged "geometry")).diagnostics.length
      rw [(yields_windowOf _).diagnostics_eq, List.length_append, hname, hitems, Nat.zero_add,
        Nat.add_assoc, isEmpty_definitionName, isGeometry_eq_isTagged]
      rfl
    by_cases hwidget : tag = "widget"
    · subst hwidget
      show (widgetOf ⟨"widget", attrs, children⟩).diagnostics.length =
        0 + (if lacksName attrs then 1 else 0) + 0 + (lowerAll 0 children).diagnostics.length
      rw [(yields_widgetOf _).diagnostics_eq, List.length_append, hname, Nat.zero_add,
        Nat.add_zero, isEmpty_definitionName]
    · simp [Node.isUnnamed, Node.isDefinition, Node.extraGeometries, Node.content, hwindow,
        hwidget]
      rfl

theorem length_diagnostics_definitionsOf (nodes : List Node) :
    (definitionsOf nodes).diagnostics.length =
      nodes.countP (fun child => !child.isDefinition) + nodes.countP Node.isUnnamed +
        (nodes.flatMap Node.extraGeometries).length +
        (lowerAll 0 (nodes.flatMap Node.content)).diagnostics.length := by
  induction nodes with
  | nil => rfl
  | cons node nodes ih =>
    rw [diagnostics_definitionsOf_cons, List.length_append, length_diagnostics_definitionOf, ih,
      List.flatMap_cons, List.flatMap_cons, List.countP_cons, List.countP_cons,
      diagnostics_lowerAll_append, List.length_append, List.length_append]
    cases node.isDefinition <;> simp <;> omega

/-- A window or widget and its definition. -/
inductive Defines : Node → Definition → Prop where
  | window (attrs : List Attribute) (children : List Node) :
      Defines (.element "window" attrs children)
        (.window (windowOf ⟨"window", attrs, children⟩).result)
  | widget (attrs : List Attribute) (children : List Node) :
      Defines (.element "widget" attrs children)
        (.widget (widgetOf ⟨"widget", attrs, children⟩).result)

theorem forall₂_defines_definitionsOf (nodes : List Node) :
    List.Forall₂ Defines (nodes.filter Node.isDefinition) (definitionsOf nodes).result := by
  induction nodes with
  | nil => exact .nil
  | cons node nodes ih =>
    rw [result_definitionsOf_cons, (yields_definitionOf node).result_eq]
    cases node with
    | text | other => exact ih
    | element tag attrs children =>
      dsimp only
      split_ifs with hwindow hwidget
      · obtain rfl : tag = "window" := beq_iff_eq.1 hwindow
        exact .cons (.window attrs children) ih
      · obtain rfl : tag = "widget" := beq_iff_eq.1 hwidget
        exact .cons (.widget attrs children) ih
      · rw [List.filter_cons_of_neg (by simp [Node.isDefinition, hwindow, hwidget])]
        exact ih

/-- The nodes inside the windows and widgets of a body that are of any consequence for their
    items, each with its position below a child of its window or widget: the length of the
    position is the depth of the node. -/
def Element.inside (body : Element) : List (Position × Node) :=
  (body.children.flatMap Node.content).flatMap Node.places

/-- **The diagnostics of a body account for what is skipped.**  Every child that is a window or
    widget has its definition, in order, and the others have none.  There are as many
    diagnostics as there are skipped children of the body, windows and widgets without a name,
    geometry elements beyond the first of their window, elements without a tag and elements at
    the depth where they are dropped.  Each is about one node, and they come in document order;
    so the definitions and diagnostics of further children follow those of the children in
    front of them. -/
theorem definitions_accounted (body : Element) (sink : Sink) :
    ((definitions body).run sink).1.length +
        body.children.countP (fun child => !child.isDefinition) = body.children.length ∧
    List.Forall₂ Defines (body.children.filter Node.isDefinition)
      ((definitions body).run sink).1 ∧
    ((definitions body).run sink).2.toList.length = sink.toList.length +
      (body.children.countP (fun child => !child.isDefinition) +
        body.children.countP Node.isUnnamed +
        (body.children.flatMap Node.extraGeometries).length +
        body.inside.countP (fun p => p.2.isTagless p.1.length) +
        body.inside.countP (fun p => p.2.isDropped p.1.length)) ∧
    (∃ marks : List (Position × Notice),
      ((definitions body).run sink).2.toList =
        sink.toList ++ marks.map (fun m => m.2.diagnostic) ∧
      marks.Pairwise (fun m m' => m.1 < m'.1) ∧
      ∀ pos notice, (pos, notice) ∈ marks ↔
        ∃ node, body.toNode.at? pos = some node ∧ body.notice? pos node = some notice) ∧
    ∀ more : List Node,
      ((definitions { body with children := body.children ++ more }).run sink).1 =
        ((definitions body).run sink).1 ++
          ((definitions { body with children := more }).run sink).1 ∧
      ((definitions { body with children := body.children ++ more }).run sink).2.toList =
        ((definitions body).run sink).2.toList ++
          ((definitions { body with children := more }).run {}).2.toList := by
  have hdefs := forall₂_defines_definitionsOf body.children
  have hlength := length_diagnostics_definitionsOf body.children
  rw [length_diagnostics_lowerAll, ← Nat.add_assoc] at hlength
  simp only [(appendOnly_definitions _).run_fst, (appendOnly_definitions _).toList_run]
  refine ⟨?_, hdefs, ?_, ⟨body.marks, ?_, body.pairwise_marks, fun _ _ => body.mem_marks_iff⟩,
    fun more => ⟨?_, ?_⟩⟩
  · rw [definitions, ← hdefs.length_eq, ← List.countP_eq_length_filter]
    have hcount := List.length_eq_countP_add_countP Node.isDefinition (l := body.children)
    simpa using hcount.symm
  · rw [List.length_append, definitions, hlength, Element.inside]
  · rw [diagnostics_definitions]
  · exact result_definitionsOf_append body.children more
  · rw [Sink.toList_empty, List.nil_append, List.append_assoc]
    exact congrArg _ (diagnostics_definitionsOf_append body.children more)

end WidgetMarkup
