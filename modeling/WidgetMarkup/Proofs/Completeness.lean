/-
  What no diagnostic means.

  If a body is translated without a diagnostic, each of its children has become one
  definition, and every element and text inside it is found there once: as a form, as a
  value or, for a geometry element directly inside a window, as the geometry block
  (`forall₂_represents_definitions`).  Of a geometry element only the attributes count; what
  is inside it has no place in a window and is not reported (`exists_silent_loss`).
-/
import Mathlib.Data.List.Forall2
import WidgetMarkup.Proofs.Preservation

namespace WidgetMarkup

open Yuck Reporting

/-! ## Representation -/

/-- The entry of an element or text, with the number of elements around it. -/
def Occurrence.fullEntry? (o : Occurrence) : Option (Nat × Label) :=
  match o.node with
  | .text content => some (o.around.length, .value (.infer content))
  | .element tag attrs _ => some (o.around.length, .ofElement tag attrs)
  | .other => none

/-- The entries of all elements and texts. -/
def fullEntries (nodes : List Node) : List (Nat × Label) :=
  (occurrencesAll [] nodes).filterMap Occurrence.fullEntry?

/-- The geometry elements among nodes. -/
def geometryElements (nodes : List Node) : List Element :=
  (nodes.filterMap Node.element?).filter (·.tag == "geometry")

/-- The entries of all items of a definition. -/
def Yuck.Definition.entries : Definition → List (Nat × Label)
  | .window d => entriesAll 0 d.children
  | .widget d => entriesAll 0 d.body

/-- A node directly inside the body and its definition.  The items of a window are the
    elements and texts of its children other than geometry elements; these are its geometry
    block, so there is at most one of them.  The items of a widget are the elements and texts
    of all its children. -/
inductive Represents : Node → Definition → Prop where
  | window {attrs : List Attribute} {children : List Node} {d : Window}
      (items : (Definition.window d).entries =
        fullEntries (children.filter fun node => !node.isGeometry))
      (geometry : d.geometry.toList = (geometryElements children).map geometryProperties) :
      Represents (.element "window" attrs children) (.window d)
  | widget {attrs : List Attribute} {children : List Node} {d : Widget}
      (items : (Definition.widget d).entries = fullEntries children) :
      Represents (.element "widget" attrs children) (.widget d)

/-! ## Nodes lowered without a diagnostic -/

mutual
/-- **A node lowered without a diagnostic is there as a whole.** -/
theorem entries_of_silent (around : List String) : (node : Node) →
    (lower around.length node).diagnostics = [] →
    entriesAll around.length (lower around.length node).result =
      (node.occurrences around).filterMap Occurrence.fullEntry?
  | .text _, _ => rfl
  | .other, _ => rfl
  | .element tag attrs children, h => by
    have hlength : (around ++ [tag]).length = around.length + 1 := by simp
    rw [diagnostics_lower_element] at h
    rw [result_lower_element, Node.occurrences]
    split_ifs at h ⊢
    have hchildren := entriesAll_of_silent (around ++ [tag]) children (by rwa [hlength])
    rw [hlength] at hchildren
    simp [entriesAll, Item.entries, Occurrence.fullEntry?, hchildren]

theorem entriesAll_of_silent (around : List String) : (nodes : List Node) →
    (lowerAll around.length nodes).diagnostics = [] →
    entriesAll around.length (lowerAll around.length nodes).result =
      (occurrencesAll around nodes).filterMap Occurrence.fullEntry?
  | [], _ => rfl
  | node :: nodes, h => by
    rw [diagnostics_lowerAll_cons, List.append_eq_nil_iff] at h
    rw [result_lowerAll_cons, entriesAll_append, entries_of_silent around node h.1,
      entriesAll_of_silent around nodes h.2, occurrencesAll, List.filterMap_append]
end

theorem length_geometryElements_cons (node : Node) (nodes : List Node) :
    (geometryElements (node :: nodes)).length =
      (geometryElements nodes).length + if node.isGeometry then 1 else 0 := by
  cases node with
  | text | other => rfl
  | element tag attrs children =>
    by_cases h : tag = "geometry" <;> simp [geometryElements, Node.element?, Node.isGeometry, h]

/-- A window without a diagnostic has at most one geometry element; after the first one
    (`seen`) there is none. -/
theorem windowItems_of_silent {name : String} {seen : Bool} {nodes : List Node}
    (h : (windowItems name seen nodes).diagnostics = []) :
    (lowerAll 0 (nodes.filter fun node => !node.isGeometry)).diagnostics = [] ∧
      (geometryElements nodes).length ≤ if seen then 0 else 1 := by
  induction nodes generalizing seen with
  | nil => exact ⟨rfl, Nat.zero_le _⟩
  | cons node nodes ih =>
    rw [diagnostics_windowItems_cons, List.append_eq_nil_iff] at h
    obtain ⟨hnode, hnodes⟩ := h
    obtain ⟨hitems, hgeo⟩ := ih hnodes
    rw [length_geometryElements_cons]
    cases hg : node.isGeometry with
    | true =>
      cases seen with
      | true => simp [hg] at hnode
      | false =>
        rw [hg] at hgeo
        exact ⟨by simpa [hg] using hitems, by simpa using hgeo⟩
    | false =>
      rw [hg] at hnode hgeo
      rw [Bool.or_false] at hgeo
      refine ⟨?_, by simpa using hgeo⟩
      rw [List.filter_cons_of_pos (by simp [hg]), diagnostics_lowerAll_cons, hitems,
        List.append_nil]
      exact hnode

theorem geometry_of_length_le_one {children : List Node}
    (h : (geometryElements children).length ≤ 1) :
    ((firstTagged? "geometry" children).map geometryProperties).toList =
      (geometryElements children).map geometryProperties := by
  have hfirst : firstTagged? "geometry" children = (geometryElements children).head? :=
    List.head?_filter.symm
  rw [hfirst]
  match hg : geometryElements children with
  | [] => rfl
  | [g] => rfl
  | g :: g' :: gs => simp [hg] at h

/-! ## Definitions -/

/-- **A child of the body that is translated without a diagnostic has a definition** that
    represents it. -/
theorem represents_of_silent {node : Node} (h : (definitionOf node).diagnostics = []) :
    ∃ d, (definitionOf node).result = some d ∧ Represents node d := by
  rw [(yields_definitionOf node).diagnostics_eq] at h
  rw [(yields_definitionOf node).result_eq]
  cases node with
  | text | other => cases h
  | element tag attrs children =>
    dsimp only at h ⊢
    split_ifs at h ⊢ with hwindow hwidget
    · obtain rfl : tag = "window" := beq_iff_eq.1 hwindow
      rw [(yields_windowOf _).diagnostics_eq, List.append_eq_nil_iff] at h
      obtain ⟨hitems, hgeo⟩ := windowItems_of_silent h.2
      refine ⟨_, rfl, ?_⟩
      rw [(yields_windowOf _).result_eq]
      exact .window (entriesAll_of_silent [] _ hitems) (geometry_of_length_le_one hgeo)
    · obtain rfl : tag = "widget" := beq_iff_eq.1 hwidget
      rw [(yields_widgetOf _).diagnostics_eq, List.append_eq_nil_iff] at h
      refine ⟨_, rfl, ?_⟩
      rw [(yields_widgetOf _).result_eq]
      exact .widget (entriesAll_of_silent [] _ h.2)

theorem represents_definitionsOf {nodes : List Node} (h : (definitionsOf nodes).diagnostics = []) :
    List.Forall₂ Represents nodes (definitionsOf nodes).result := by
  induction nodes with
  | nil => exact .nil
  | cons node nodes ih =>
    rw [diagnostics_definitionsOf_cons, List.append_eq_nil_iff] at h
    obtain ⟨d, hd, hrep⟩ := represents_of_silent h.1
    rw [result_definitionsOf_cons, hd]
    exact .cons hrep (ih h.2)

/-- **No content is lost without a diagnostic**, apart from what stands inside a geometry
    element: the children of the body have become definitions one by one, and each definition
    represents its child. -/
theorem forall₂_represents_definitions (body : Element) (sink : Sink)
    (h : ((definitions body).run sink).2.toList = sink.toList) :
    List.Forall₂ Represents body.children ((definitions body).run sink).1 := by
  have hb := appendOnly_definitions body
  rw [hb.toList_run sink, List.append_right_eq_self] at h
  rw [hb.run_fst sink]
  exact represents_definitionsOf h

/-- A window with a geometry element between two other children, and a widget. -/
theorem forall₂_represents_definitions_window_and_widget :
    List.Forall₂ Represents
      [.element "window" [⟨"name", "w"⟩] [.element "box" [] [.text "1"],
        .element "geometry" [⟨"x", "0"⟩] [], .text "t"],
       .element "widget" [⟨"name", "v"⟩] [.other, .element "label" [⟨"text", "hi"⟩] []]]
      [.window ⟨"w", [], some [.valued "x" (.str "0")],
        [.form "box" [] [.value (.int "1")], .value (.str "t")]⟩,
       .widget ⟨"v", [], [.form "label" [.valued "text" (.str "hi")] []]⟩] :=
  forall₂_represents_definitions
    ⟨"body", [], [.element "window" [⟨"name", "w"⟩] [.element "box" [] [.text "1"],
        .element "geometry" [⟨"x", "0"⟩] [], .text "t"],
       .element "widget" [⟨"name", "v"⟩] [.other, .element "label" [⟨"text", "hi"⟩] []]]⟩ {}
    (by rfl)

/-- A text inside a geometry element is lost without a diagnostic. -/
theorem exists_silent_loss :
    ¬ ∀ (body : Element) (sink : Sink), ((definitions body).run sink).2.toList = sink.toList →
      ∀ tag attrs children, .element tag attrs children ∈ body.children →
        ∀ around content, ⟨around, .text content⟩ ∈ occurrencesAll [] children →
          ∃ d ∈ ((definitions body).run sink).1, ∃ level,
            (level, .value (.infer content)) ∈ d.entries := by
  intro h
  obtain ⟨d, hd, level, hmem⟩ := h
    ⟨"body", [], [.element "window" [⟨"name", "w"⟩] [.element "geometry" [] [.text "lost"]]]⟩ {}
    (by rfl) "window" [⟨"name", "w"⟩] [.element "geometry" [] [.text "lost"]] (by simp)
    ["geometry"] "lost" (by simp [occurrencesAll, Node.occurrences])
  have hds : ((definitions ⟨"body", [], [.element "window" [⟨"name", "w"⟩]
      [.element "geometry" [] [.text "lost"]]]⟩).run {}).1 = [.window ⟨"w", [], some [], []⟩] := rfl
  rw [hds, List.mem_singleton] at hd
  subst hd
  cases hmem

end WidgetMarkup
