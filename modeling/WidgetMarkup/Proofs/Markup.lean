/-
  Definitions written as documents.

  Every definition that the language of documents has room for (`Definition.IsWritable`) can
  be written as an element (`Definition.toNode`): forms become elements, values become texts,
  and the geometry block of a window becomes a child of it.  Where that child and the `name`
  attribute stand among the others (`Slots`) is up to the writer.  What comes back from the
  body with these elements are the same definitions, without a diagnostic
  (`definitions_toNode`).
-/
import WidgetMarkup.Proofs.Accounting
import WidgetMarkup.Proofs.Bodies
import WidgetMarkup.Proofs.Literals

namespace WidgetMarkup

open Yuck Reporting

/-! ## Elements of definitions -/

/-- The raw text that a literal is written as. -/
def Yuck.Literal.raw : Literal → String
  | .int numeral => numeral
  | .expr source => source
  | .call source => source
  | .list inside => "[" ++ inside ++ "]"
  | .bool b => truthWord b
  | .str content => content

/-- The attribute that a property is written as.  A flag has no value. -/
def Yuck.Property.toAttribute (p : Property) : Attribute :=
  ⟨p.key, (p.value.map Literal.raw).getD ""⟩

mutual
/-- The node that an item is written as. -/
def Yuck.Item.toNode : Item → Node
  | .form tag props children => .element tag (props.map Property.toAttribute) (toNodes children)
  | .value literal => .text literal.raw

def toNodes : List Item → List Node
  | [] => []
  | i :: is => i.toNode :: toNodes is
end

/-- Puts something into a list, behind at most `n` others. -/
def putAt {α : Type} (n : Nat) (a : α) (l : List α) : List α :=
  l.take n ++ a :: l.drop n

/-- Where the writer of an element puts what has no place of its own. -/
structure Slots where
  /-- How many attributes stand before the name. -/
  name : Nat
  /-- How many children of a window stand before its geometry block. -/
  geometry : Nat

/-- The attributes of a definition with its name among them. -/
def Slots.attributes (slots : Slots) (name : String) (attrs : List Attribute) : List Attribute :=
  putAt slots.name ⟨"name", name⟩ attrs

/-- The nodes of a window's children with its geometry block, if it has one, among them. -/
def Slots.children (slots : Slots) (geometry : Option (List Property)) (nodes : List Node) :
    List Node :=
  match geometry with
  | none => nodes
  | some props =>
    putAt slots.geometry (.element "geometry" (props.map Property.toAttribute) []) nodes

/-- The element that a definition is written as. -/
def Yuck.Definition.toNode (slots : Slots) : Definition → Node
  | .window w =>
    .element "window" (slots.attributes w.name (w.props.map Property.toAttribute))
      (slots.children w.geometry (toNodes w.children))
  | .widget w =>
    .element "widget" (slots.attributes w.name (w.fields.map fun field => ⟨field, ""⟩))
      (toNodes w.body)

/-! ## Definitions that can be written -/

/-- A property of a form: its value is not empty and is read back. -/
def Yuck.Property.IsWritable (p : Property) : Prop :=
  ∃ l : Literal, p.value = some l ∧ l.raw ≠ "" ∧ Literal.infer l.raw = l

mutual
/-- Forms have tags and properties with values, and all literals are read back. -/
def Yuck.Item.IsWritable : Item → Prop
  | .form tag props children =>
    tag ≠ "" ∧ (∀ p ∈ props, p.IsWritable) ∧ AllWritable children
  | .value literal => Literal.infer literal.raw = literal

def AllWritable : List Item → Prop
  | [] => True
  | i :: is => i.IsWritable ∧ AllWritable is
end

/-- A window that can be written. -/
structure Yuck.Window.IsWritable (w : Window) : Prop where
  name : w.name ≠ ""
  /-- Properties are flags or strings that are not empty, and none is the name. -/
  props : ∀ p ∈ w.props, p.key ≠ "name" ∧
    (p.value = none ∨ ∃ content, content ≠ "" ∧ p.value = some (.str content))
  geometry : ∀ props, w.geometry = some props → ∀ p ∈ props,
    ∃ content, p.value = some (.str content)
  /-- No form directly inside is taken for a geometry block. -/
  forms : ∀ props children, .form "geometry" props children ∉ w.children
  children : AllWritable w.children
  nesting : nestingAll w.children ≤ maxDepth

/-- A widget that can be written. -/
structure Yuck.Widget.IsWritable (w : Widget) : Prop where
  name : w.name ≠ ""
  fields : "name" ∉ w.fields
  body : AllWritable w.body
  nesting : nestingAll w.body ≤ maxDepth

def Yuck.Definition.IsWritable : Definition → Prop
  | .window w => w.IsWritable
  | .widget w => w.IsWritable

/-! ## Items -/

theorem formProperties_toAttribute {props : List Property} (h : ∀ p ∈ props, p.IsWritable) :
    formProperties (props.map Property.toAttribute) = props := by
  induction props with
  | nil => rfl
  | cons p props ih =>
    obtain ⟨⟨l, hvalue, hraw, hinfer⟩, hprops⟩ := List.forall_mem_cons.1 h
    have hattr : p.toAttribute = ⟨p.key, l.raw⟩ := by simp [Property.toAttribute, hvalue]
    have hback : Property.valued p.key (.infer l.raw) = p := by
      rw [hinfer, Property.valued, ← hvalue]
    have ih := ih hprops
    rw [formProperties] at ih ⊢
    rw [List.map_cons, hattr, List.filter_cons_of_pos (by simpa using hraw), List.map_cons, ih,
      hback]

mutual
/-- **An item that is written as a node comes back**, if there is room for its forms. -/
theorem Yuck.Item.yields_lower_toNode {depth : Nat} : (i : Item) → i.IsWritable →
    depth + i.nesting ≤ maxDepth → (lower depth i.toNode).Yields [i] []
  | .value literal, h, _ => by
    have hinfer : Literal.infer literal.raw = literal := h
    rw [Item.toNode, lower, hinfer]
    exact yields_pure _
  | .form tag props children, h, hdepth => by
    obtain ⟨htag, hprops, hchildren⟩ := h
    rw [Item.nesting] at hdepth
    have hlower := yields_lower_element
      (yields_lowerAll_toNodes children hchildren (by omega : depth + 1 + _ ≤ _)) tag
      (props.map Property.toAttribute)
    rw [formProperties_toAttribute hprops, if_neg (by omega), if_neg (by simpa using htag),
      if_neg (by omega), if_neg (by simpa using htag)] at hlower
    exact hlower

theorem yields_lowerAll_toNodes {depth : Nat} : (is : List Item) → AllWritable is →
    depth + nestingAll is ≤ maxDepth → (lowerAll depth (toNodes is)).Yields is []
  | [], _, _ => yields_pure _
  | i :: is, h, hdepth => by
    rw [nestingAll] at hdepth
    exact yields_lowerAll_cons (i.yields_lower_toNode h.1 (by omega))
      (yields_lowerAll_toNodes is h.2 (by omega))
end

/-! ## Attributes and children in their slots -/

section
variable {α : Type} {p : α → Bool} {a : α} {l : List α}

theorem filter_putAt_of_neg (n : Nat) (ha : p a = false) (hl : ∀ b ∈ l, p b) :
    (putAt n a l).filter p = l := by
  rw [putAt, List.filter_append, List.filter_cons_of_neg (by simp [ha]), ← List.filter_append,
    List.take_append_drop, List.filter_eq_self.2 hl]

theorem filter_putAt_of_pos (n : Nat) (ha : p a) (hl : ∀ b ∈ l, p b = false) :
    (putAt n a l).filter p = [a] := by
  have hnone : ∀ l' : List α, l' ⊆ l → l'.filter p = [] := fun l' hsub =>
    List.filter_eq_nil_iff.2 fun b hb => by simp [hl b (hsub hb)]
  rw [putAt, List.filter_append, List.filter_cons_of_pos ha, hnone _ (List.take_subset n l),
    hnone _ (List.drop_subset n l), List.nil_append]

end

section
variable {name : String} {attrs : List Attribute}

theorem ownAttributes_attributes (slots : Slots) (tag : String) (children : List Node)
    (h : ∀ a ∈ attrs, a.key ≠ "name") :
    ownAttributes ⟨tag, slots.attributes name attrs, children⟩ = attrs :=
  filter_putAt_of_neg _ rfl fun a ha => by simpa using h a ha

theorem definitionName_attributes (slots : Slots) (tag : String) (children : List Node)
    (h : ∀ a ∈ attrs, a.key ≠ "name") :
    definitionName ⟨tag, slots.attributes name attrs, children⟩ = name := by
  have hfilter : (slots.attributes name attrs).filter (·.key == "name") = [⟨"name", name⟩] :=
    filter_putAt_of_pos _ rfl fun a ha => by simpa using h a ha
  rw [definitionName, Element.attr?, ← List.head?_filter, hfilter]
  rfl

end

theorem toNodes_eq_map (is : List Item) : toNodes is = is.map Item.toNode := by
  induction is with
  | nil => rfl
  | cons i is ih => rw [toNodes, ih, List.map_cons]

theorem isGeometry_toNodes {is : List Item}
    (h : ∀ props children, .form "geometry" props children ∉ is) :
    ∀ node ∈ toNodes is, node.isGeometry = false := by
  intro node hnode
  rw [toNodes_eq_map] at hnode
  obtain ⟨i, hi, rfl⟩ := List.mem_map.1 hnode
  cases i with
  | value literal => rfl
  | form tag props children =>
    refine beq_eq_false_iff_ne.2 ?_
    rintro rfl
    exact h props children hi

section
variable {nodes : List Node} (slots : Slots) (geometry : Option (List Property))

theorem filter_children (h : ∀ node ∈ nodes, node.isGeometry = false) :
    (slots.children geometry nodes).filter (fun node => !node.isGeometry) = nodes := by
  cases geometry with
  | none => exact List.filter_eq_self.2 fun node hnode => by simp [h node hnode]
  | some props => exact filter_putAt_of_neg _ rfl fun node hnode => by simp [h node hnode]

theorem filter_isGeometry_children (h : ∀ node ∈ nodes, node.isGeometry = false) :
    (slots.children geometry nodes).filter Node.isGeometry =
      (geometry.map fun props =>
        Node.element "geometry" (props.map Property.toAttribute) []).toList := by
  cases geometry with
  | none => exact List.filter_eq_nil_iff.2 fun node hnode => by simp [h node hnode]
  | some props => exact filter_putAt_of_pos _ rfl h

theorem firstTagged?_filter (tag : String) (nodes : List Node) :
    firstTagged? tag (nodes.filter (Node.isTagged tag)) = firstTagged? tag nodes := by
  induction nodes with
  | nil => rfl
  | cons node nodes ih =>
    rw [List.filter_cons, firstTagged?_cons]
    split_ifs with h
    · rw [firstTagged?_cons, if_pos h]
    · exact ih

/-- The geometry block is found wherever it stands. -/
theorem geometry_children (h : ∀ node ∈ nodes, node.isGeometry = false)
    (hprops : ∀ props, geometry = some props → ∀ p ∈ props,
      ∃ content, p.value = some (.str content)) :
    (firstTagged? "geometry" (slots.children geometry nodes)).map geometryProperties =
      geometry := by
  have hfilter := filter_isGeometry_children slots geometry h
  have hfirst := firstTagged?_filter "geometry" (slots.children geometry nodes)
  rw [← isGeometry_eq_isTagged, hfilter] at hfirst
  rw [← hfirst]
  cases geometry with
  | none => rfl
  | some props =>
    refine congrArg some ((List.map_map ..).trans ?_)
    refine (List.map_congr_left fun p hp => ?_).trans (List.map_id props)
    obtain ⟨content, hvalue⟩ := hprops props rfl p hp
    obtain ⟨key, value⟩ := p
    obtain rfl : value = some (.str content) := hvalue
    rfl

end

/-! ## Definitions -/

theorem windowProperty_toAttribute {props : List Property}
    (h : ∀ p ∈ props, p.value = none ∨ ∃ content, content ≠ "" ∧ p.value = some (.str content)) :
    (props.map Property.toAttribute).map windowProperty = props := by
  refine (List.map_map ..).trans ((List.map_congr_left fun p hp => ?_).trans (List.map_id props))
  obtain ⟨key, value⟩ := p
  rcases h _ hp with rfl | ⟨content, hne, rfl⟩
  · rfl
  · exact if_neg (by simpa [Property.toAttribute, Literal.raw] using hne)

/-- **A window that is written as an element comes back.** -/
theorem Yuck.Window.yields_toNode {w : Window} (h : w.IsWritable) (slots : Slots) :
    (definitionOf ((Definition.window w).toNode slots)).Yields (some (.window w)) [] := by
  have hkeys : ∀ a ∈ w.props.map Property.toAttribute, a.key ≠ "name" := by
    intro a ha
    obtain ⟨p, hp, rfl⟩ := List.mem_map.1 ha
    exact (h.props p hp).1
  have hnodes := isGeometry_toNodes h.forms
  have hitems := yields_lowerAll_toNodes w.children h.children
    (by simpa using h.nesting : 0 + nestingAll w.children ≤ maxDepth)
  have hdiagnostics : (windowItems w.name false
      (slots.children w.geometry (toNodes w.children))).diagnostics = [] := by
    -- there is at most one geometry block
    rw [← List.length_eq_zero_iff, length_diagnostics_windowItems,
      filter_isGeometry_children slots w.geometry hnodes, filter_children slots w.geometry hnodes,
      hitems.diagnostics_eq]
    cases w.geometry <;> rfl
  have hwindow := yields_windowOf ⟨"window",
    slots.attributes w.name (w.props.map Property.toAttribute),
    slots.children w.geometry (toNodes w.children)⟩
  rw [definitionName_attributes slots _ _ hkeys, ownAttributes_attributes slots _ _ hkeys,
    windowProperty_toAttribute fun p hp => (h.props p hp).2, Element.child?,
    geometry_children slots w.geometry hnodes h.geometry, filter_children slots w.geometry hnodes,
    hitems.result_eq, hdiagnostics, if_neg (by simpa using h.name)] at hwindow
  exact hwindow.map _

/-- **A widget that is written as an element comes back.** -/
theorem Yuck.Widget.yields_toNode {w : Widget} (h : w.IsWritable) (slots : Slots) :
    (definitionOf ((Definition.widget w).toNode slots)).Yields (some (.widget w)) [] := by
  have hkeys : ∀ a ∈ w.fields.map (fun field => Attribute.mk field ""), a.key ≠ "name" := by
    intro a ha
    obtain ⟨field, hfield, rfl⟩ := List.mem_map.1 ha
    rintro rfl
    exact h.fields hfield
  have hfields : (w.fields.map fun field => Attribute.mk field "").map (·.key) = w.fields :=
    (List.map_map ..).trans (List.map_id _)
  have hitems := yields_lowerAll_toNodes w.body h.body
    (by simpa using h.nesting : 0 + nestingAll w.body ≤ maxDepth)
  have hwidget := yields_widgetOf ⟨"widget",
    slots.attributes w.name (w.fields.map fun field => ⟨field, ""⟩), toNodes w.body⟩
  rw [definitionName_attributes slots _ _ hkeys, ownAttributes_attributes slots _ _ hkeys, hfields,
    hitems.result_eq, hitems.diagnostics_eq, if_neg (by simpa using h.name)] at hwidget
  exact hwidget.map _

theorem yields_definitionsOf_toNode {written : List (Slots × Definition)}
    (h : ∀ x ∈ written, x.2.IsWritable) :
    (definitionsOf (written.map fun x => x.2.toNode x.1)).Yields (written.map Prod.snd) [] := by
  induction written with
  | nil => exact yields_pure _
  | cons x written ih =>
    obtain ⟨slots, d⟩ := x
    obtain ⟨hd, hwritten⟩ := List.forall_mem_cons.1 h
    have hnode : (definitionOf (d.toNode slots)).Yields (some d) [] := by
      cases d with
      | window w => exact Window.yields_toNode hd slots
      | widget w => exact Widget.yields_toNode hd slots
    have hcons := yields_definitionsOf_cons (ih hwritten) (d.toNode slots)
    rw [hnode.result_eq, hnode.diagnostics_eq] at hcons
    exact hcons

/-- **Definitions written as the children of a body come back unchanged**, and nothing is
    reported, wherever the writer puts their names and geometry blocks. -/
theorem definitions_toNode {written : List (Slots × Definition)}
    (h : ∀ x ∈ written, x.2.IsWritable) (tag : String) (attrs : List Attribute) (sink : Sink) :
    (definitions ⟨tag, attrs, written.map fun x => x.2.toNode x.1⟩).run sink =
      (written.map Prod.snd, sink) :=
  yields_definitionsOf_toNode h sink

/-- A window and a widget to write: literals of all kinds, a flag, an empty geometry property
    and a form named like a geometry block inside another form. -/
def panel : List (Slots × Definition) :=
  [(⟨1, 1⟩, .window ⟨"w", [.flag "exclusive", .valued "monitor" (.str "0")],
      some [.valued "x" (.str "")],
      [.value (.str "t"), .form "box" [.valued "items" (.list "a b"), .valued "on" (.bool true)]
        [.value (.int "-7"), .form "geometry" [] [.value (.expr "\x7bx\x7d")]]]⟩),
    (⟨5, 0⟩, .widget ⟨"v", ["a", "b"], [.value (.call "(f)"), .form "label" [] []]⟩)]

theorem isWritable_panel : ∀ x ∈ panel, x.2.IsWritable := by
  have hvalued : ∀ {key : String} {l : Literal}, l.raw ≠ "" → Literal.infer l.raw = l →
      (Property.valued key l).IsWritable := fun hne hinfer => ⟨_, rfl, hne, hinfer⟩
  have hvalue : ∀ {l : Literal}, Literal.infer l.raw = l → (Item.value l).IsWritable := id
  refine List.forall_mem_cons.2 ⟨⟨by decide, ?_, ?_, ?_, ?_, by decide⟩,
    List.forall_mem_cons.2 ⟨⟨by decide, by decide, ?_, by decide⟩, nofun⟩⟩
  · simp [Property.flag, Property.valued]
  · simp [Property.valued]
  · simp
  · refine ⟨hvalue (by decide), ⟨by decide, ?_, hvalue (by decide),
      ⟨by decide, nofun, hvalue (by decide), trivial⟩, trivial⟩, trivial⟩
    exact List.forall_mem_cons.2 ⟨hvalued (by decide) (by decide),
      List.forall_mem_cons.2 ⟨hvalued (by decide) (by decide), nofun⟩⟩
  · exact ⟨hvalue (by decide), ⟨by decide, nofun, trivial⟩, trivial⟩

/-- The window and the widget come back. -/
theorem definitions_toNode_panel :
    (∀ x ∈ panel, x.2.IsWritable) ∧
    ∀ sink, (definitions ⟨"body", [], [
      .element "window" [⟨"exclusive", ""⟩, ⟨"name", "w"⟩, ⟨"monitor", "0"⟩]
        [.text "t", .element "geometry" [⟨"x", ""⟩] [],
          .element "box" [⟨"items", "[a b]"⟩, ⟨"on", "true"⟩]
            [.text "-7", .element "geometry" [] [.text "\x7bx\x7d"]]],
      .element "widget" [⟨"a", ""⟩, ⟨"b", ""⟩, ⟨"name", "v"⟩]
        [.text "(f)", .element "label" [] []]]⟩).run sink = (panel.map Prod.snd, sink) :=
  ⟨isWritable_panel, definitions_toNode isWritable_panel "body" []⟩

end WidgetMarkup
