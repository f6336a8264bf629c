/-
  Documents: trees of elements, texts and other nodes.

  A `Node` is an element with its tag, its attributes in source order and its
  children, a text, or some other node (a comment, a doctype) of which nothing is
  kept.  `Element` is the view of a node that is known to be an element.
-/
namespace WidgetMarkup

/-- An attribute of an element. -/
structure Attribute where
  key : String
  value : String
deriving DecidableEq

/-- A node of a document. -/
inductive Node where
  | element (tag : String) (attrs : List Attribute) (children : List Node)
  | text (content : String)
  | other

mutual
/-- Whether two nodes are equal. -/
def Node.decEq : (node node' : Node) → Decidable (node = node')
  | .element tag attrs children, .element tag' attrs' children' =>
    match decEqAll children children' with
    | .isTrue h => decidable_of_iff (tag = tag' ∧ attrs = attrs') (by simp [h])
    | .isFalse h => .isFalse (by simp [h])
  | .text content, .text content' => decidable_of_iff (content = content') (by simp)
  | .other, .other => .isTrue rfl
  | .element _ _ _, .text _ | .element _ _ _, .other | .text _, .element _ _ _
  | .text _, .other | .other, .element _ _ _ | .other, .text _ => .isFalse nofun

/-- Whether two lists of nodes are equal. -/
def decEqAll : (nodes nodes' : List Node) → Decidable (nodes = nodes')
  | [], [] => .isTrue rfl
  | [], _ :: _ | _ :: _, [] => .isFalse nofun
  | node :: nodes, node' :: nodes' =>
    match node.decEq node', decEqAll nodes nodes' with
    | .isTrue h, .isTrue hs => .isTrue (by rw [h, hs])
    | .isFalse h, _ => .isFalse (by simp [h])
    | _, .isFalse hs => .isFalse (by simp [hs])
end

instance : DecidableEq Node :=
  Node.decEq

/-- The nodes at the top of a document. -/
abbrev Document := List Node

/-- An element: its tag, attributes and children. -/
structure Element where
  tag : String
  attrs : List Attribute := []
  children : List Node := []

/-- The node of an element. -/
def Element.toNode (e : Element) : Node :=
  .element e.tag e.attrs e.children

/-- The element that a node is, if it is one. -/
def Node.element? : Node → Option Element
  | .element tag attrs children => some ⟨tag, attrs, children⟩
  | .text _ | .other => none

/-- The value of the first attribute with the given key. -/
def Element.attr? (e : Element) (key : String) : Option String :=
  (e.attrs.find? (·.key == key)).map (·.value)

/-- The first of the nodes that is an element with the given tag. -/
def firstTagged? (tag : String) (nodes : List Node) : Option Element :=
  (nodes.filterMap Node.element?).find? (·.tag == tag)

/-- The first direct child that is an element with the given tag. -/
def Element.child? (e : Element) (tag : String) : Option Element :=
  firstTagged? tag e.children

/-- Child number `i`, counted from 0, if it is an element. -/
def Element.childAt? (e : Element) (i : Nat) : Option Element :=
  e.children[i]?.bind Node.element?

/-- Adds an attribute after the others. -/
def Element.withAttr (e : Element) (key value : String) : Element :=
  { e with attrs := e.attrs ++ [⟨key, value⟩] }

/-- Adds a child after the others. -/
def Element.withChild (e : Element) (child : Node) : Element :=
  { e with children := e.children ++ [child] }

end WidgetMarkup
