/-
  A value shows at its own spot of the output and nowhere else.

  * A `Spot` is the place of one value inside a node, the content of a text or the value of an
    attribute, with all that stands around it; a `Place` is a spot inside a window or widget of
    the body of a document.  `fill` puts a value there.
  * `Frames` says that a text depends on a value by what is shown of it only: there is a text
    before it and a text behind it, whatever the value is.  Every stage of a conversion puts
    more text around (`Frames.wrap`).
  * `convertDocument_document`: the text of a document is framed, and its diagnostics do not
    depend on the value at all.
-/
import WidgetMarkup.Proofs.Blanks
import WidgetMarkup.Proofs.Bodies
import WidgetMarkup.Proofs.Layout

namespace WidgetMarkup

open Yuck Reporting

/-! ## Spots -/

/-- The place of one value inside a node. -/
inductive Spot where
  /-- The content of a text. -/
  | text
  /-- The value of an attribute, between other attributes of its element. -/
  | attr (tag : String) (before : List Attribute) (key : String) (after : List Attribute)
      (children : List Node)
  /-- A place inside a child of an element, between other children. -/
  | inside (tag : String) (attrs : List Attribute) (before : List Node) (spot : Spot)
      (after : List Node)

namespace Spot

/-- The node with a value at the spot. -/
def fill (value : String) : Spot → Node
  | .text => .text value
  | .attr tag before key after children => .element tag (before ++ ⟨key, value⟩ :: after) children
  | .inside tag attrs before spot after => .element tag attrs (before ++ spot.fill value :: after)

/-- Whether the spot is the content of a text. -/
def isText : Spot → Bool
  | .text => true
  | .attr _ _ _ _ _ => false
  | .inside _ _ _ spot _ => spot.isText

/-- Whether the spot is in an attribute of an element without a tag. -/
def isTagless : Spot → Bool
  | .text => false
  | .attr tag _ _ _ _ => tag.isEmpty
  | .inside _ _ _ spot _ => spot.isTagless

/-- Whether the node is a `geometry` element. -/
def isGeometry : Spot → Bool
  | .text => false
  | .attr tag _ _ _ _ | .inside tag _ _ _ _ => tag == "geometry"

/-- How many elements the spot is in; an attribute is in its own element. -/
def nesting : Spot → Nat
  | .text => 0
  | .attr _ _ _ _ _ => 1
  | .inside _ _ _ spot _ => spot.nesting + 1

/-- Whether a value may stand at the spot: a text is not blank, and an attribute not empty. -/
def admits (spot : Spot) (value : String) : Bool :=
  if spot.isText then value.toList.any (!isBlank ·) else !value.isEmpty

/-- What is left of a value without insignificant blanks. -/
def significant (spot : Spot) (value : String) : String :=
  if spot.isText then trim value else value

/-- Whether what stands at the spot is lost if the node is at a depth: an element that it is in
    is too deep, or its own element has no tag. -/
def isLost (spot : Spot) (depth : Nat) : Bool :=
  decide (maxDepth < depth + spot.nesting) || spot.isTagless

/-- What is shown of a significant value if the node is at a depth. -/
def shown (spot : Spot) (depth : Nat) (value : String) : String :=
  if spot.isLost depth then "" else (Literal.infer value).text

theorem isGeometry_fill (spot : Spot) (value : String) :
    (spot.fill value).isGeometry = spot.isGeometry := by
  cases spot <;> rfl

/-! ## Without insignificant blanks -/

/-- The spot without insignificant blanks around it. -/
def normalize : Spot → Spot
  | .text => .text
  | .attr tag before key after children => .attr tag before key after (normalizeAll children)
  | .inside tag attrs before spot after =>
    .inside tag attrs (normalizeAll before) spot.normalize (normalizeAll after)

theorem isTagless_normalize (spot : Spot) : spot.normalize.isTagless = spot.isTagless := by
  induction spot with
  | text => rfl
  | attr => rfl
  | inside tag attrs before spot after ih => exact ih

theorem nesting_normalize (spot : Spot) : spot.normalize.nesting = spot.nesting := by
  induction spot with
  | text => rfl
  | attr => rfl
  | inside tag attrs before spot after ih => exact congrArg (· + 1) ih

theorem isGeometry_normalize (spot : Spot) : spot.normalize.isGeometry = spot.isGeometry := by
  cases spot <;> rfl

theorem shown_normalize (spot : Spot) : spot.normalize.shown = spot.shown := by
  funext depth value
  rw [shown, shown, isLost, isLost, nesting_normalize, isTagless_normalize]

end Spot

theorem trim_ne_empty {s : String} (h : s.toList.any (!isBlank ·)) : trim s ≠ "" := by
  intro hempty
  obtain ⟨c, hc, hblank⟩ := List.any_eq_true.1 h
  simp [trim_eq_empty_iff.1 hempty c hc] at hblank

theorem normalizeAll_append (nodes more : List Node) :
    normalizeAll (nodes ++ more) = normalizeAll nodes ++ normalizeAll more := by
  induction nodes with
  | nil => rfl
  | cons node nodes ih =>
    rw [List.cons_append, normalizeAll_cons, normalizeAll_cons, ih, List.append_assoc]

/-- A value that is admitted stays, trimmed if it is that of a text. -/
theorem Spot.normalize_fill (spot : Spot) {value : String} (h : spot.admits value) :
    (spot.fill value).normalize = some (spot.normalize.fill (spot.significant value)) := by
  induction spot with
  | text =>
    have hne : (trim value).isEmpty = false := by simpa using trim_ne_empty h
    simp [fill, normalize_text, normalize, significant, isText, hne]
  | attr tag before key after children => rfl
  | inside tag attrs before spot after ih =>
    rw [fill, Node.normalize, normalizeAll_append, normalizeAll_cons, ih h]
    rfl

theorem Spot.significant_ne_empty {spot : Spot} {value : String} (h : spot.admits value) :
    spot.significant value ≠ "" := by
  rw [admits] at h
  rw [significant]
  split_ifs at h ⊢
  · exact trim_ne_empty h
  · simpa using h

/-! ## Framed texts -/

/-- A text that depends on a value shows what is shown of the value, between two texts that do
    not depend on it. -/
def Frames (shown text : String → String) : Prop :=
  ∃ before after, ∀ value, value ≠ "" → text value = before ++ shown value ++ after

/-- More text around a framed text. -/
theorem Frames.wrap {shown text text' : String → String} (h : Frames shown text)
    (before after : String)
    (heq : ∀ value, value ≠ "" → text' value = before ++ text value ++ after) :
    Frames shown text' := by
  obtain ⟨b, a, htext⟩ := h
  refine ⟨before ++ b, a ++ after, fun value hne => ?_⟩
  rw [heq value hne, htext value hne]
  simp only [String.append_assoc]

/-- One of several texts, with separators between them. -/
theorem exists_intercalate_eq (separator : String) (before after : List String) :
    ∃ s t, ∀ x, separator.intercalate (before ++ x :: after) = s ++ x ++ t := by
  have hfirst : ∃ t, ∀ x, separator.intercalate (x :: after) = x ++ t := by
    cases after with
    | nil => exact ⟨"", by simp⟩
    | cons a after =>
      exact ⟨separator ++ separator.intercalate (a :: after), fun x => by
        rw [String.intercalate_cons_cons, String.append_assoc]⟩
  obtain ⟨t, ht⟩ := hfirst
  cases before with
  | nil => exact ⟨"", t, fun x => by rw [List.nil_append, ht, String.empty_append]⟩
  | cons b before =>
    refine ⟨separator.intercalate (b :: before) ++ separator, t, fun x => ?_⟩
    rw [String.intercalate_append_of_ne_nil (by simp) (by simp), ht]
    simp only [String.append_assoc]

/-! ## Items -/

theorem itemsLayout_append (level : Nat) (is js : List Item) :
    itemsLayout level (is ++ js) = itemsLayout level is ++ itemsLayout level js := by
  induction is with
  | nil => simp [itemsLayout]
  | cons i is ih => rw [List.cons_append, itemsLayout, itemsLayout, ih, String.append_assoc]

/-- A framed node among others. -/
theorem Frames.lowerAll {shown : String → String} {node : String → Node} {level depth : Nat}
    (h : Frames shown fun value => itemsLayout level (lower depth (node value)).result)
    (before after : List Node) :
    Frames shown fun value =>
      itemsLayout level (lowerAll depth (before ++ node value :: after)).result := by
  refine h.wrap (itemsLayout level (WidgetMarkup.lowerAll depth before).result)
    (itemsLayout level (WidgetMarkup.lowerAll depth after).result) fun value _ => ?_
  rw [result_lowerAll_append, result_lowerAll_cons, itemsLayout_append, itemsLayout_append,
    String.append_assoc]

/-- The text of properties, one of which depends on a value. -/
theorem frames_formProperties (before : List Attribute) (key : String) (after : List Attribute)
    (level : Nat) :
    Frames (fun value => (Literal.infer value).text) fun value =>
      String.join ((formProperties (before ++ ⟨key, value⟩ :: after)).map
        fun p => lineStart level ++ p.layout) := by
  refine ⟨String.join ((formProperties before).map fun p => lineStart level ++ p.layout) ++
      (lineStart level ++ (":" ++ key ++ " ")),
    String.join ((formProperties after).map fun p => lineStart level ++ p.layout),
    fun value hne => ?_⟩
  have hprops : formProperties (before ++ ⟨key, value⟩ :: after) =
      formProperties before ++ .valued key (.infer value) :: formProperties after := by
    simp [formProperties, hne]
  beta_reduce
  rw [hprops, List.map_append, List.map_cons, String.join_append, String.join_cons]
  simp only [Property.layout, Property.valued, String.append_assoc]

/-- **The items of a node show a value at its spot only.** -/
theorem Spot.frames_lower (spot : Spot) {depth : Nat} (hdepth : depth ≤ maxDepth) (level : Nat) :
    Frames (spot.shown depth) fun value =>
      itemsLayout level (lower depth (spot.fill value)).result := by
  -- the depth never exceeds `maxDepth`, so that a text that is reached is shown
  induction spot generalizing depth level with
  | text =>
    have hshown : ∀ value, Spot.text.shown depth value = (Literal.infer value).text := by
      intro value
      simp [shown, isLost, nesting, isTagless, Nat.not_lt.2 hdepth]
    refine ⟨" ", "", fun value _ => ?_⟩
    beta_reduce
    rw [hshown, fill, result_lower_text]
    simp [itemsLayout, Item.layout]
  | attr tag before key after children =>
    by_cases hlost : (Spot.attr tag before key after children).isLost depth
    · -- the element is dropped, or only its children stay
      refine ⟨itemsLayout level (lower depth (.element tag [] children)).result, "",
        fun value _ => ?_⟩
      have hsame : (lower depth (fill value (.attr tag before key after children))).result =
          (lower depth (.element tag [] children)).result := by
        rw [fill, result_lower_element, result_lower_element]
        have hor : maxDepth ≤ depth ∨ tag.isEmpty := by
          simpa [isLost, nesting, isTagless, Nat.lt_succ_iff] using hlost
        rcases hor with hdeep | htag
        · rw [if_pos hdeep, if_pos hdeep]
        · rw [if_pos htag, if_pos htag]
      beta_reduce
      rw [hsame, shown, if_pos hlost, String.append_empty, String.append_empty]
    · have hkept : ¬ maxDepth ≤ depth ∧ ¬ tag.isEmpty := by
        simpa [isLost, nesting, isTagless, Nat.lt_succ_iff] using hlost
      have hshown : (Spot.attr tag before key after children).shown depth =
          fun value => (Literal.infer value).text := by
        funext value
        rw [shown, if_neg hlost]
      rw [hshown]
      refine (frames_formProperties before key after (level + 1)).wrap
        (lineStart level ++ "(" ++ tag)
        (itemsLayout (level + 1) (WidgetMarkup.lowerAll (depth + 1) children).result ++ ")")
        fun value _ => ?_
      rw [fill, result_lower_element, if_neg hkept.1, if_neg hkept.2]
      simp only [itemsLayout, Item.layout, String.append_empty, String.append_assoc]
  | inside tag attrs before spot after ih =>
    by_cases hdeep : maxDepth ≤ depth
    · have hlost : (Spot.inside tag attrs before spot after).isLost depth := by
        have hlt : maxDepth < depth + (spot.nesting + 1) := by omega
        rw [isLost, nesting, decide_eq_true hlt, Bool.true_or]
      refine ⟨"", "", fun value _ => ?_⟩
      beta_reduce
      rw [fill, result_lower_element, if_pos hdeep, shown, if_pos hlost]
      rfl
    · have hshown : (Spot.inside tag attrs before spot after).shown depth =
          spot.shown (depth + 1) := by
        funext value
        rw [shown, shown, isLost, isLost, nesting, isTagless, Nat.add_right_comm, Nat.add_assoc]
      rw [hshown]
      have hitems : ∀ level, Frames (spot.shown (depth + 1)) fun value =>
          itemsLayout level
            (WidgetMarkup.lowerAll (depth + 1) (before ++ spot.fill value :: after)).result :=
        fun level => (ih (by omega) level).lowerAll before after
      by_cases htag : tag.isEmpty
      · -- without a tag the children come at the level of the element
        refine (hitems level).wrap "" "" fun value _ => ?_
        rw [fill, result_lower_element, if_neg hdeep, if_pos htag]
        simp
      · refine (hitems (level + 1)).wrap
          (lineStart level ++ "(" ++ tag ++
            String.join ((formProperties attrs).map fun p => lineStart (level + 1) ++ p.layout))
          ")" fun value _ => ?_
        rw [fill, result_lower_element, if_neg hdeep, if_neg htag]
        simp only [itemsLayout, Item.layout, String.append_empty, String.append_assoc]

/-- The diagnostics of a node do not depend on a value in it. -/
theorem Spot.diagnostics_lower (spot : Spot) (depth : Nat) (value other : String) :
    (lower depth (spot.fill value)).diagnostics = (lower depth (spot.fill other)).diagnostics := by
  induction spot generalizing depth with
  | text => rfl
  | attr tag before key after children =>
    rw [fill, fill, diagnostics_lower_element, diagnostics_lower_element]
  | inside tag attrs before spot after ih =>
    have hchildren : (lowerAll (depth + 1) (before ++ spot.fill value :: after)).diagnostics =
        (lowerAll (depth + 1) (before ++ spot.fill other :: after)).diagnostics := by
      rw [diagnostics_lowerAll_append, diagnostics_lowerAll_append, diagnostics_lowerAll_cons,
        diagnostics_lowerAll_cons, ih]
    rw [fill, fill, diagnostics_lower_element, diagnostics_lower_element, hchildren]

/-! ## Windows and widgets -/

theorem firstTagged?_append_cons {tag : String} {node : Node} (h : node.isTagged tag = false)
    (before after : List Node) :
    firstTagged? tag (before ++ node :: after) = firstTagged? tag (before ++ after) := by
  induction before with
  | nil => rw [List.nil_append, firstTagged?_cons, h, if_neg (by simp), List.nil_append]
  | cons first before ih =>
    rw [List.cons_append, List.cons_append, firstTagged?_cons, firstTagged?_cons, ih]

/-- The diagnostics of a window's children depend on one that is no geometry block by what it
    reports itself only. -/
theorem diagnostics_windowItems_congr {node node' : Node} (hnode : node.isGeometry = false)
    (hnode' : node'.isGeometry = false)
    (h : (lower 0 node).diagnostics = (lower 0 node').diagnostics) (name : String) (seen : Bool)
    (before after : List Node) :
    (windowItems name seen (before ++ node :: after)).diagnostics =
      (windowItems name seen (before ++ node' :: after)).diagnostics := by
  induction before generalizing seen with
  | nil =>
    rw [List.nil_append, List.nil_append, diagnostics_windowItems_cons,
      diagnostics_windowItems_cons, hnode, hnode', h]
  | cons first before ih =>
    rw [List.cons_append, List.cons_append, diagnostics_windowItems_cons,
      diagnostics_windowItems_cons, ih]

section Definitions

variable {tag : String} {spot : Spot}

/-- **A window or widget shows a value at its spot only.** -/
theorem Spot.frames_definitionOf (htag : tag = "window" ∨ tag = "widget")
    (hgeometry : tag = "window" → spot.isGeometry = false) (attrs : List Attribute)
    (before after : List Node) :
    ∃ d : String → Definition,
      (∀ value,
        (definitionOf (.element tag attrs (before ++ spot.fill value :: after))).result =
          some (d value)) ∧
      Frames (spot.shown 0) fun value => (d value).layout := by
  rcases htag with rfl | rfl
  · -- no geometry block is found at the spot, and no item there is left out
    have hnot : ∀ value, (spot.fill value).isGeometry = false := fun value => by
      rw [isGeometry_fill, hgeometry rfl]
    refine ⟨fun value =>
        .window (windowOf ⟨"window", attrs, before ++ spot.fill value :: after⟩).result,
      fun value => (yields_definitionOf _).result_eq, ?_⟩
    have hitems := (spot.frames_lower (Nat.zero_le maxDepth) windowLevel).lowerAll
      (before.filter fun node => !node.isGeometry) (after.filter fun node => !node.isGeometry)
    refine hitems.wrap
      ("(defwindow" ++ (nameLayout (definitionName ⟨"window", attrs, []⟩) ++
        String.join (((ownAttributes ⟨"window", attrs, []⟩).map windowProperty).map
          fun p => lineStart windowLevel ++ p.layout) ++
        (((firstTagged? "geometry" (before ++ after)).map geometryProperties).map
          fun g => lineStart windowLevel ++ geometryLayout g).getD ""))
      ")" fun value _ => ?_
    have hfilter : (before ++ spot.fill value :: after).filter (fun node => !node.isGeometry) =
        (before.filter fun node => !node.isGeometry) ++
          spot.fill value :: after.filter fun node => !node.isGeometry := by
      rw [List.filter_append, List.filter_cons_of_pos (by simp [hnot value])]
    have hfirst : firstTagged? "geometry" (before ++ spot.fill value :: after) =
        firstTagged? "geometry" (before ++ after) :=
      firstTagged?_append_cons (by rw [← isGeometry_eq_isTagged, hnot value]) before after
    rw [Definition.layout, (yields_windowOf _).result_eq, Window.layout_eq, Element.child?, hfilter,
      hfirst]
    simp only [String.append_assoc]
    rfl
  · refine ⟨fun value =>
        .widget (widgetOf ⟨"widget", attrs, before ++ spot.fill value :: after⟩).result,
      fun value => (yields_definitionOf _).result_eq, ?_⟩
    have hitems := (spot.frames_lower (Nat.zero_le maxDepth) widgetLevel).lowerAll before after
    refine hitems.wrap
      ("(defwidget" ++ nameLayout (definitionName ⟨"widget", attrs, []⟩) ++ " [" ++
        " ".intercalate ((ownAttributes ⟨"widget", attrs, []⟩).map (·.key)) ++ "]")
      ")" fun value _ => ?_
    rw [Definition.layout, (yields_widgetOf _).result_eq, Widget.layout_eq]
    rfl

/-- The diagnostics of a window or widget do not depend on a value in it. -/
theorem Spot.diagnostics_definitionOf (htag : tag = "window" ∨ tag = "widget")
    (hgeometry : tag = "window" → spot.isGeometry = false) (attrs : List Attribute)
    (before after : List Node) (value other : String) :
    (definitionOf (.element tag attrs (before ++ spot.fill value :: after))).diagnostics =
      (definitionOf (.element tag attrs (before ++ spot.fill other :: after))).diagnostics := by
  have hlower := spot.diagnostics_lower 0 value other
  rw [(yields_definitionOf _).diagnostics_eq, (yields_definitionOf _).diagnostics_eq]
  rcases htag with rfl | rfl
  · have hnot : ∀ value, (spot.fill value).isGeometry = false := fun value => by
      rw [isGeometry_fill, hgeometry rfl]
    show (windowOf _).diagnostics = (windowOf _).diagnostics
    rw [(yields_windowOf _).diagnostics_eq, (yields_windowOf _).diagnostics_eq,
      diagnostics_windowItems_congr (hnot value) (hnot other) hlower]
    rfl
  · show (widgetOf _).diagnostics = (widgetOf _).diagnostics
    rw [(yields_widgetOf _).diagnostics_eq, (yields_widgetOf _).diagnostics_eq,
      diagnostics_lowerAll_append, diagnostics_lowerAll_append, diagnostics_lowerAll_cons,
      diagnostics_lowerAll_cons, hlower]
    rfl

end Definitions

/-- A framed definition among others. -/
theorem Frames.yuck {shown : String → String} {d : String → Definition}
    (h : Frames shown fun value => (d value).layout) (earlier later : List Definition) :
    Frames shown fun value => Yuck.yuck (earlier ++ d value :: later) := by
  obtain ⟨s, t, hst⟩ := exists_intercalate_eq "\n"
    (earlier.map fun d => d.layout ++ "\n") (later.map fun d => d.layout ++ "\n")
  refine h.wrap (header ++ "\n\n" ++ s) ("\n" ++ t) fun value _ => ?_
  rw [yuck_eq, List.map_append, List.map_cons, hst]
  simp only [String.append_assoc]

/-! ## Places of a document -/

/-- A spot inside a window or widget of the body of a document, but not in a geometry block of
    a window. -/
structure Place where
  /-- The tag of the window or widget. -/
  tag : String
  attrs : List Attribute
  before : List Node
  spot : Spot
  after : List Node
  /-- The attributes of the body. -/
  bodyAttrs : List Attribute
  earlier : List Node
  later : List Node
  /-- The attributes of the `html` element. -/
  htmlAttrs : List Attribute
  head : List Node
  tail : List Node
  top : List Node
  bottom : List Node
  isDefinition : tag = "window" ∨ tag = "widget"
  not_geometry : tag = "window" → spot.isGeometry = false
  isBody : ∀ node ∈ head, node.isTagged "body" = false
  isRoot : ∀ node ∈ top, node.isTagged "html" = false

namespace Place

/-- The spot in the window or widget. -/
def definition (place : Place) : Spot :=
  .inside place.tag place.attrs place.before place.spot place.after

/-- The body with a value at the place. -/
def body (place : Place) (value : String) : Element :=
  ⟨"body", place.bodyAttrs, place.earlier ++ place.definition.fill value :: place.later⟩

/-- The document with a value at the place. -/
def document (place : Place) (value : String) : Document :=
  place.top ++
    .element "html" place.htmlAttrs (place.head ++ (place.body value).toNode :: place.tail) ::
      place.bottom

theorem findBody_document (place : Place) (value : String) :
    findBody (place.document value) = .ok (place.body value) := by
  have hroot : firstTagged? "html" (place.document value) =
      some ⟨"html", place.htmlAttrs, place.head ++ (place.body value).toNode :: place.tail⟩ :=
    firstTagged?_eq_some_iff.2 ⟨place.top, place.bottom, rfl, rfl, place.isRoot⟩
  have hbody : firstTagged? "body" (place.head ++ (place.body value).toNode :: place.tail) =
      some (place.body value) :=
    firstTagged?_eq_some_iff.2 ⟨place.head, place.tail, rfl, rfl, place.isBody⟩
  rw [findBody, hroot]
  simp only [Element.child?, hbody]

/-- The definitions of the body without blanks: those before, that of the place, and those
    behind. -/
theorem normalize_children_body (place : Place) {value : String} (h : place.spot.admits value) :
    (place.body value).normalize.children =
      normalizeAll place.earlier ++
        .element place.tag place.attrs (normalizeAll place.before ++
          place.spot.normalize.fill (place.spot.significant value) :: normalizeAll place.after) ::
        normalizeAll place.later := by
  have hkept := place.definition.normalize_fill h
  rw [body, Element.normalize, normalizeAll_append, normalizeAll_cons, hkept]
  rfl

/-- The text of a document is framed, and its diagnostics do not depend on the value. -/
theorem exists_yields_document (place : Place) :
    ∃ before after ds, ∀ value, place.spot.admits value →
      (convertDocument (place.document value)).Yields
        (.ok (before ++ place.spot.shown 0 (place.spot.significant value) ++ after)) ds := by
  have hgeometry : place.tag = "window" → place.spot.normalize.isGeometry = false := by
    rw [Spot.isGeometry_normalize]
    exact place.not_geometry
  obtain ⟨d, hd, hframes⟩ := Spot.frames_definitionOf place.isDefinition hgeometry place.attrs
    (normalizeAll place.before) (normalizeAll place.after)
  obtain ⟨before, after, htext⟩ := hframes.yuck
    (definitionsOf (normalizeAll place.earlier)).result
    (definitionsOf (normalizeAll place.later)).result
  beta_reduce at htext
  -- some value stands for all of them in the diagnostics
  refine ⟨before, after, (definitionsOf (normalizeAll place.earlier ++
    .element place.tag place.attrs (normalizeAll place.before ++
      place.spot.normalize.fill "" :: normalizeAll place.after) ::
    normalizeAll place.later)).diagnostics, fun value hadmits => ?_⟩
  have hyields := yields_convertDocument (place.document value)
  rw [findBody_normalize, findBody_document] at hyields
  simp only [Except.map, definitions, normalize_children_body place hadmits] at hyields
  rw [diagnostics_definitionsOf_append, diagnostics_definitionsOf_cons,
    Spot.diagnostics_definitionOf place.isDefinition hgeometry _ _ _ _ "",
    ← diagnostics_definitionsOf_cons, ← diagnostics_definitionsOf_append,
    result_definitionsOf_append, result_definitionsOf_cons, hd, Option.toList_some,
    List.singleton_append, htext _ (Spot.significant_ne_empty hadmits), Spot.shown_normalize]
    at hyields
  exact hyields

/-- **A value influences its own spot of the output only.**  The diagnostics are the same for
    all values that may stand at a place.  If the place is lost, the whole output is the same
    too; if not, the output is the rendered value between two texts that the rest of the
    document determines. -/
theorem convertDocument_document (place : Place) :
    ∃ ds,
      if place.spot.isLost 0 then
        ∃ text, ∀ value, place.spot.admits value →
          (convertDocument (place.document value)).Yields (.ok text) ds
      else
        ∃ before after, ∀ value, place.spot.admits value →
          (convertDocument (place.document value)).Yields
            (.ok (before ++ (Literal.infer (place.spot.significant value)).text ++ after)) ds := by
  obtain ⟨before, after, ds, hyields⟩ := place.exists_yields_document
  refine ⟨ds, ?_⟩
  split_ifs with hlost
  · refine ⟨before ++ "" ++ after, fun value hadmits => ?_⟩
    simpa only [Spot.shown, if_pos hlost] using hyields value hadmits
  · refine ⟨before, after, fun value hadmits => ?_⟩
    simpa only [Spot.shown, if_neg hlost] using hyields value hadmits

end Place

end WidgetMarkup
