/-
  What a writer writes.

  Every `Writer` function adds the layout of its argument to the end of the text and
  leaves the level as it was (`Writer.item_eq`); definitions are written from level 0
  and end there (`Writer.definition_eq`).  Hence the text of a file is the header, an
  empty line and the layouts of the definitions, one empty line between two of them
  (`yuck_eq`), and definitions are written independently of each other (`yuck_append`).
  `writer_layout` says all of this in terms of layouts and texts alone.
-/
import WidgetMarkup.Yuck.Layout

namespace WidgetMarkup.Yuck

/-- The text of a geometry block. -/
def geometryLayout (props : List Property) : String :=
  ":geometry (geometry " ++ "\n  ".intercalate (props.map Property.layout) ++ ")"

theorem geometryLayout_def (props : List Property) :
    geometryLayout props =
      ":geometry (geometry " ++ "\n  ".intercalate (props.map Property.layout) ++ ")" := rfl

/-- The parts of a window: its name, its properties, its geometry block and its items. -/
theorem Window.layout_eq (d : Window) :
    d.layout = "(defwindow" ++ (nameLayout d.name ++
      String.join (d.props.map fun p => lineStart windowLevel ++ p.layout) ++
      (d.geometry.map fun g => lineStart windowLevel ++ geometryLayout g).getD "" ++
      itemsLayout windowLevel d.children) ++ ")" := by
  obtain ⟨name, props, geometry, children⟩ := d
  delta layout
  cases geometry with
  | none => simp only [Option.map_none, Option.getD_none, String.append_assoc]
  | some g =>
    simp only [Option.map_some, Option.getD_some, geometryLayout_def, String.append_assoc]

/-- The parts of a widget: its name, its fields and its items. -/
theorem Widget.layout_eq (d : Widget) :
    d.layout = "(defwidget" ++ nameLayout d.name ++ " [" ++ " ".intercalate d.fields ++ "]" ++
      itemsLayout widgetLevel d.body ++ ")" := rfl

namespace Writer

@[simp]
theorem put_text (w : Writer) (s : String) : (w.put s).text = w.text ++ s := rfl

@[simp]
theorem put_level (w : Writer) (s : String) : (w.put s).level = w.level := rfl

theorem put_put (w : Writer) (s t : String) : (w.put s).put t = w.put (s ++ t) := by
  simp [put, String.append_assoc]

theorem put_empty (w : Writer) : w.put "" = w := by
  simp [put]

theorem ofList_spaces_succ (n : Nat) :
    String.ofList (List.replicate (2 * (n + 1)) ' ') =
      "  " ++ String.ofList (List.replicate (2 * n) ' ') := by
  apply String.toList_inj.1
  simp [Nat.mul_add, List.replicate_succ]

theorem putSpaces_eq (w : Writer) (n : Nat) :
    w.putSpaces n = w.put (String.ofList (List.replicate (2 * n) ' ')) := by
  induction n generalizing w with
  | zero => simp [putSpaces, put]
  | succ n ih => rw [putSpaces, ih, put_put, ofList_spaces_succ]

theorem newLine_eq (w : Writer) : w.newLine = w.put (lineStart w.level) := by
  rw [newLine, putSpaces_eq, put_put, lineStart]

theorem value_eq (w : Writer) (l : Literal) : w.value l = w.put (" " ++ l.text) := by
  rw [value, put_put]

theorem property_eq (w : Writer) (p : Property) : w.property p = w.put p.layout := by
  obtain ⟨key, value⟩ := p
  cases value with
  | none => simp [property, Property.layout, put_put]
  | some l => simp [property, Property.layout, value_eq, put_put, String.append_assoc]

theorem properties_eq (w : Writer) (props : List Property) :
    w.properties props =
      w.put (String.join (props.map fun p => lineStart w.level ++ p.layout)) := by
  induction props generalizing w with
  | nil => simp [properties, put_empty]
  | cons p ps ih =>
    have hp : w.newLine.property p = w.put (lineStart w.level ++ p.layout) := by
      rw [property_eq, newLine_eq, put_put]
    have hps := ih (w.newLine.property p)
    rw [properties] at hps ⊢
    rw [List.foldl_cons, hps, hp, put_level, put_put, List.map_cons, String.join_cons]

/-! ## Forms and values -/

mutual
/-- **An item is written as its layout at the current level**, and the level stays. -/
theorem item_eq (w : Writer) : (i : Item) → w.item i = w.put (i.layout w.level)
  | .form tag props children => by
    -- the children are written one level deeper; the level comes back afterwards
    have hc := fun v : Writer => items_eq v children
    rw [item, newLine_eq]
    simp only [properties_eq, hc, put, Item.layout, String.append_assoc, Nat.add_sub_cancel]
  | .value l => by rw [item, value_eq, Item.layout]

theorem items_eq (w : Writer) : (is : List Item) → w.items is = w.put (itemsLayout w.level is)
  | [] => by rw [items, itemsLayout, put_empty]
  | i :: is => by
    rw [items, item_eq w i, items_eq _ is, put_level, put_put, itemsLayout]
end

/-- The state behind the properties and children of a form, before the level comes down. -/
def raised (w : Writer) (tag : String) (props : List Property) (children : List Item) : Writer :=
  let w := (w.newLine.put "(").put tag
  ({ w with level := w.level + 1 }.properties props).items children

theorem item_form (w : Writer) (tag : String) (props : List Property) (children : List Item) :
    w.item (.form tag props children) =
      { w.raised tag props children with level := (w.raised tag props children).level - 1 }.put
        ")" := by
  rw [item, raised]

/-- When the level comes down, it is one above the level of the form. -/
theorem level_raised (w : Writer) (tag : String) (props : List Property) (children : List Item) :
    (w.raised tag props children).level = w.level + 1 := by
  rw [raised, items_eq, properties_eq, newLine_eq]
  rfl

/-! ## Definitions -/

theorem name_eq (w : Writer) (s : String) : w.name s = w.put (nameLayout s) := by
  unfold name nameLayout
  split
  · rw [put_empty]
  · rw [put_put]

/-- Separated texts are written one after the other. -/
theorem foldl_put_separated (w : Writer) (separator s : String) (ss : List String) :
    ss.foldl (fun w t => (w.put separator).put t) (w.put s) =
      w.put (separator.intercalate (s :: ss)) := by
  induction ss generalizing s with
  | nil => simp
  | cons t ts ih =>
    rw [List.foldl_cons, put_put, put_put, ih, String.intercalate_cons_cons,
      String.intercalate_cons_append, String.intercalate_cons_append, String.append_assoc]

theorem geometry_eq (w : Writer) (props : List Property) :
    w.geometry props = w.put (geometryLayout props) := by
  cases props with
  | nil => simp [geometry, geometryLayout_def, put_put]
  | cons p ps =>
    have h := foldl_put_separated (w.put ":geometry (geometry ") "\n  " p.layout
      (ps.map Property.layout)
    rw [List.foldl_map] at h
    simp only [geometry, property_eq]
    rw [h, put_put, put_put, geometryLayout_def, List.map_cons, String.append_assoc]

theorem fields_eq (w : Writer) (names : List String) :
    w.fields names = w.put (" [" ++ " ".intercalate names ++ "]") := by
  cases names with
  | nil => simp [fields, put_put]
  | cons f fs =>
    simp only [fields]
    rw [foldl_put_separated, put_put, put_put, String.append_assoc]

/-- A window is written as its layout; the level is 0 afterwards. -/
theorem window_eq (w : Writer) (d : Window) :
    w.window d = { w.put d.layout with level := 0 } := by
  obtain ⟨name, props, geometry, children⟩ := d
  rw [window, name_eq, properties_eq, Window.layout_eq]
  cases geometry with
  | none =>
    simp only [items_eq, put, Option.map_none, Option.getD_none, String.append_assoc,
      String.empty_append]
  | some g =>
    simp only [newLine_eq, geometry_eq, items_eq, put, Option.map_some, Option.getD_some,
      String.append_assoc]

/-- A widget is written as its layout; the level is 0 afterwards. -/
theorem widget_eq (w : Writer) (d : Widget) :
    w.widget d = { w.put d.layout with level := 0 } := by
  rw [widget, name_eq, fields_eq, items_eq]
  simp only [put, Widget.layout_eq, String.append_assoc]

theorem definition_eq (w : Writer) (d : Definition) :
    w.definition d = { w.put d.layout with level := 0 } := by
  cases d with
  | window d => exact window_eq w d
  | widget d => exact widget_eq w d

theorem definition_eq_put {w : Writer} (hw : w.level = 0) (d : Definition) :
    w.definition d = w.put d.layout := by
  rw [definition_eq, put, hw]

theorem definitions_eq {w : Writer} (hw : w.level = 0) (ds : List Definition) :
    w.definitions ds = w.put ("\n".intercalate (ds.map fun d => d.layout ++ "\n")) := by
  -- from level 0 each definition is one `put`, so the fold is one over texts
  have hfold : ∀ (ds : List Definition) (w : Writer), w.level = 0 →
      ds.foldl (fun w d => ((w.put "\n").definition d).put "\n") w =
        (ds.map fun d => d.layout ++ "\n").foldl (fun w t => (w.put "\n").put t) w := by
    intro ds
    induction ds with
    | nil => intros; rfl
    | cons d ds ih =>
      intro w hw
      have hd : ((w.put "\n").definition d).put "\n" = (w.put "\n").put (d.layout ++ "\n") := by
        rw [definition_eq_put (w := w.put "\n") hw, put_put]
      rw [List.foldl_cons, hd, ih ((w.put "\n").put (d.layout ++ "\n")) hw, List.map_cons,
        List.foldl_cons]
  cases ds with
  | nil => simp [definitions, put_empty]
  | cons d ds =>
    rw [definitions, definition_eq_put hw, put_put, hfold ds (w.put (d.layout ++ "\n")) hw,
      foldl_put_separated, List.map_cons]

end Writer

/-- **The text of a file**: the header, an empty line and the definitions, each with the
    end of its line and an empty line between two of them. -/
theorem yuck_eq (ds : List Definition) :
    yuck ds = header ++ "\n\n" ++ "\n".intercalate (ds.map fun d => d.layout ++ "\n") := by
  have h := Writer.definitions_eq (w := ({} : Writer).put header |>.put "\n\n") rfl ds
  simp [yuck, h]

/-- Definitions behind others are written as they are on their own, behind an empty line. -/
theorem yuck_append {a b : List Definition} (ha : a ≠ []) (hb : b ≠ []) :
    yuck (a ++ b) = yuck a ++ "\n" ++ "\n".intercalate (b.map fun d => d.layout ++ "\n") := by
  rw [yuck_eq, yuck_eq, List.map_append,
    String.intercalate_append_of_ne_nil (by simpa using ha) (by simpa using hb)]
  simp only [String.append_assoc]

theorem Window.exists_layout_eq (d : Window) :
    ∃ head, ∀ children, { d with children }.layout = head ++ itemsLayout 1 children ++ ")" := by
  refine ⟨"(defwindow" ++ nameLayout d.name ++
    String.join (d.props.map fun p => lineStart windowLevel ++ p.layout) ++
    (d.geometry.map fun g => lineStart windowLevel ++ geometryLayout g).getD "",
    fun children => ?_⟩
  simp only [Window.layout_eq, String.append_assoc, windowLevel]

theorem Widget.exists_layout_eq (d : Widget) :
    ∃ head, ∀ body, { d with body }.layout = head ++ itemsLayout 2 body ++ ")" := by
  refine ⟨"(defwidget" ++ nameLayout d.name ++ " [" ++ " ".intercalate d.fields ++ "]",
    fun body => ?_⟩
  rw [Widget.layout_eq, widgetLevel]

/-- **A writer writes layouts and does not leak its level.**  From every state an item is
    written as its layout at the current level, which stays; where a form lets the level down
    it is above 0.  A window has its children at level 1 and a widget at level 2, and both leave
    level 0.  So a file is the header and the layouts of its definitions, each with the end of
    its line and an empty line between two of them, and the text of a definition does not depend
    on those around it. -/
theorem writer_layout :
    (∀ (w : Writer) (i : Item), w.item i = ⟨w.text ++ i.layout w.level, w.level⟩) ∧
    (∀ (w : Writer) (tag : String) (props : List Property) (children : List Item),
      w.item (.form tag props children) =
        { w.raised tag props children with level := (w.raised tag props children).level - 1 }.put
          ")" ∧
      (w.raised tag props children).level = w.level + 1) ∧
    (∀ (w : Writer) (d : Window), w.window d = ⟨w.text ++ d.layout, 0⟩ ∧
      ∃ head, ∀ children, { d with children }.layout = head ++ itemsLayout 1 children ++ ")") ∧
    (∀ (w : Writer) (d : Widget), w.widget d = ⟨w.text ++ d.layout, 0⟩ ∧
      ∃ head, ∀ body, { d with body }.layout = head ++ itemsLayout 2 body ++ ")") ∧
    (∀ ds, yuck ds = header ++ "\n\n" ++ "\n".intercalate (ds.map fun d => d.layout ++ "\n")) ∧
    ∀ a b, a ≠ [] → b ≠ [] →
      ∃ rest, yuck b = header ++ "\n\n" ++ rest ∧ yuck (a ++ b) = yuck a ++ "\n" ++ rest := by
  refine ⟨fun w i => Writer.item_eq w i,
    fun w tag props children => ⟨w.item_form tag props children, w.level_raised tag props children⟩,
    fun w d => ⟨Writer.window_eq w d, d.exists_layout_eq⟩,
    fun w d => ⟨Writer.widget_eq w d, d.exists_layout_eq⟩, yuck_eq, fun a b ha hb => ?_⟩
  exact ⟨_, yuck_eq b, yuck_append ha hb⟩

/-- A window with a form inside a form, and a widget behind it. -/
theorem writer_layout_window_and_widget :
    ∃ rest, yuck [.widget ⟨"v", ["f"], [.value (.int "1")]⟩] = header ++ "\n\n" ++ rest ∧
      yuck [.window ⟨"w", [.flag "a"], none, [.form "box" [] [.form "label" [] []]]⟩,
          .widget ⟨"v", ["f"], [.value (.int "1")]⟩] =
        yuck [.window ⟨"w", [.flag "a"], none, [.form "box" [] [.form "label" [] []]]⟩] ++
          "\n" ++ rest := by
  obtain ⟨-, -, -, -, -, happend⟩ := writer_layout
  exact happend [.window ⟨"w", [.flag "a"], none, [.form "box" [] [.form "label" [] []]]⟩]
    [.widget ⟨"v", ["f"], [.value (.int "1")]⟩] (List.cons_ne_nil _ _) (List.cons_ne_nil _ _)

end WidgetMarkup.Yuck
