/-
  Lowering keeps the tree.

  The nodes inside a window or widget are listed in document order, each with the tags of
  the elements around it; items are listed in order, each with the number of forms around
  it.  The listing of the items is the listing of the kept nodes, each with the number of
  kept elements around it (`entries_eq_keptEntries`): nothing else is lost, nothing comes
  twice, and order and nesting stay.  Hence forms nest at most `maxDepth` deep.
-/
import WidgetMarkup.Proofs.Lowering

namespace WidgetMarkup

open Yuck Reporting

/-! ## Listings -/

/-- A node inside a window or widget, with the tags of the elements around it, the
    outermost first. -/
structure Occurrence where
  around : List String
  node : Node

mutual
/-- A node and what is inside it, in document order. -/
def Node.occurrences (around : List String) : Node → List Occurrence
  | .text content => [⟨around, .text content⟩]
  | .element tag attrs children =>
    ⟨around, .element tag attrs children⟩ :: occurrencesAll (around ++ [tag]) children
  | .other => [⟨around, .other⟩]

def occurrencesAll (around : List String) : List Node → List Occurrence
  | [] => []
  | node :: nodes => node.occurrences around ++ occurrencesAll around nodes
end

/-- What an item shows apart from its children. -/
inductive Label where
  | form (tag : String) (props : List Property)
  | value (literal : Literal)

/-- What an element shows apart from its children: its tag and, in source order, its attributes
    that have a value. -/
def Label.ofElement (tag : String) (attrs : List Attribute) : Label :=
  .form tag ((attrs.filter fun a => a.value ≠ "").map fun a => .valued a.key (.infer a.value))

@[simp]
theorem Label.form_formProperties (tag : String) (attrs : List Attribute) :
    Label.form tag (formProperties attrs) = .ofElement tag attrs := by
  have hvalue : ∀ a : Attribute, (!a.value.isEmpty) = decide (a.value ≠ "") := by
    intro a
    rw [Bool.eq_iff_iff]
    simp
  simp only [ofElement, formProperties, hvalue]

mutual
/-- The labels of an item and of what is inside it, in order, each with the number of forms
    around it. -/
def Yuck.Item.entries (level : Nat) : Item → List (Nat × Label)
  | .form tag props children => (level, .form tag props) :: entriesAll (level + 1) children
  | .value literal => [(level, .value literal)]

def entriesAll (level : Nat) : List Item → List (Nat × Label)
  | [] => []
  | i :: is => i.entries level ++ entriesAll level is
end

mutual
/-- How many forms are nested in each other. -/
def Yuck.Item.nesting : Item → Nat
  | .form _ _ children => nestingAll children + 1
  | .value _ => 0

def nestingAll : List Item → Nat
  | [] => 0
  | i :: is => max i.nesting (nestingAll is)
end

/-! ## Kept nodes -/

/-- Whether an element at a depth becomes a form. -/
def isKept (depth : Nat) (tag : String) : Bool :=
  !tag.isEmpty && decide (depth < maxDepth)

/-- How many of the elements around a node become forms; the element at index `i` has
    depth `i`. -/
def keptAround (around : List String) : Nat :=
  around.zipIdx.countP fun (tag, depth) => isKept depth tag

/-- The entry of a node that is kept.  A text is kept if no element around it is too deep. -/
def Occurrence.entry? (o : Occurrence) : Option (Nat × Label) :=
  match o.node with
  | .text content =>
    if o.around.zipIdx.all fun (_, depth) => depth < maxDepth then
      some (keptAround o.around, .value (.infer content))
    else none
  | .element tag attrs _ =>
    if isKept o.around.length tag then
      some (keptAround o.around, .ofElement tag attrs)
    else none
  | .other => none

/-- The entries of the nodes that are kept. -/
def keptEntries (nodes : List Node) : List (Nat × Label) :=
  (occurrencesAll [] nodes).filterMap Occurrence.entry?

theorem all_depth_lt_iff (around : List String) :
    (around.zipIdx.all fun (_, depth) => depth < maxDepth) ↔ around.length ≤ maxDepth := by
  rw [List.all_eq_true]
  constructor
  · intro h
    refine Nat.not_lt.1 fun hlt => ?_
    have hmem : (around[maxDepth], maxDepth) ∈ around.zipIdx := by
      simp [List.mem_zipIdx_iff_getElem?]
    have hmax := h _ hmem
    simp at hmax
  · rintro h ⟨tag, depth⟩ hmem
    have hlt : depth < around.length := by simpa using List.snd_lt_of_mem_zipIdx hmem
    exact decide_eq_true (Nat.lt_of_lt_of_le hlt h)

theorem keptAround_concat (around : List String) (tag : String) :
    keptAround (around ++ [tag]) =
      keptAround around + if isKept around.length tag then 1 else 0 := by
  simp [keptAround, List.zipIdx_append, List.countP_append, List.countP_cons]

theorem keptAround_le (around : List String) : keptAround around ≤ around.length := by
  have h := List.countP_le_length (p := fun x : String × Nat => isKept x.2 x.1)
    (l := around.zipIdx)
  rwa [List.length_zipIdx] at h

/-! ## Items and kept nodes -/

theorem entriesAll_append (level : Nat) (is js : List Item) :
    entriesAll level (is ++ js) = entriesAll level is ++ entriesAll level js := by
  induction is with
  | nil => simp [entriesAll]
  | cons i is ih => simp [entriesAll, ih]

mutual
/-- Nothing is kept inside an element that is too deep. -/
theorem occurrences_too_deep (around : List String) (h : maxDepth < around.length) :
    (node : Node) → (node.occurrences around).filterMap Occurrence.entry? = []
  | .text content => by
    have hdeep : (around.zipIdx.all fun (_, depth) => depth < maxDepth) = false :=
      Bool.eq_false_iff.2 fun hall => absurd ((all_depth_lt_iff around).1 hall) (Nat.not_le.2 h)
    simp [Node.occurrences, Occurrence.entry?, hdeep]
  | .other => rfl
  | .element tag attrs children => by
    have hkept : isKept around.length tag = false := by simp [isKept, Nat.le_of_lt h]
    have hchildren := occurrencesAll_too_deep (around ++ [tag]) (by simp; omega) children
    simp [Node.occurrences, Occurrence.entry?, hkept, hchildren]

theorem occurrencesAll_too_deep (around : List String) (h : maxDepth < around.length) :
    (nodes : List Node) → (occurrencesAll around nodes).filterMap Occurrence.entry? = []
  | [] => rfl
  | node :: nodes => by
    rw [occurrencesAll, List.filterMap_append, occurrences_too_deep around h node,
      occurrencesAll_too_deep around h nodes, List.append_nil]
end

mutual
/-- **The items of a node list its kept nodes**, at every place that lowering reaches. -/
theorem entries_lower (around : List String) (h : around.length ≤ maxDepth) : (node : Node) →
    entriesAll (keptAround around) (lower around.length node).result =
      (node.occurrences around).filterMap Occurrence.entry?
  | .text content => by
    have hall := (all_depth_lt_iff around).2 h
    simp [result_lower_text, entriesAll, Item.entries, Node.occurrences, Occurrence.entry?, hall]
  | .other => rfl
  | .element tag attrs children => by
    have hlength : (around ++ [tag]).length = around.length + 1 := by simp
    rw [result_lower_element, Node.occurrences]
    split_ifs with hdeep htag
    · -- too deep: the element goes with everything inside it
      have hkept : isKept around.length tag = false := by simp [isKept, hdeep]
      have hchildren := occurrencesAll_too_deep (around ++ [tag]) (by omega) children
      simp [entriesAll, Occurrence.entry?, hkept, hchildren]
    · -- no tag: the children come at the level of the element
      have hkept : isKept around.length tag = false := by simp [isKept, htag]
      have hchildren := entries_lowerAll (around ++ [tag]) (by omega) children
      rw [hlength, keptAround_concat, hkept] at hchildren
      simpa [Occurrence.entry?, hkept] using hchildren
    · have hkept : isKept around.length tag = true := by
        simp only [isKept, Bool.and_eq_true, decide_eq_true_eq]
        exact ⟨by simpa using htag, by omega⟩
      have hchildren := entries_lowerAll (around ++ [tag]) (by omega) children
      rw [hlength, keptAround_concat, hkept] at hchildren
      simpa [entriesAll, Item.entries, Occurrence.entry?, hkept] using hchildren

theorem entries_lowerAll (around : List String) (h : around.length ≤ maxDepth) :
    (nodes : List Node) →
    entriesAll (keptAround around) (lowerAll around.length nodes).result =
      (occurrencesAll around nodes).filterMap Occurrence.entry?
  | [] => rfl
  | node :: nodes => by
    rw [result_lowerAll_cons, entriesAll_append, entries_lower around h node,
      entries_lowerAll around h nodes, occurrencesAll, List.filterMap_append]
end

/-! ## Nesting -/

mutual
/-- Forms nest at most `n` deep if each of them has less than `n` forms around it. -/
theorem nesting_le {n : Nat} (level : Nat) (hlevel : level ≤ n) : (i : Item) →
    (∀ l tag props, (l, .form tag props) ∈ i.entries level → l < n) → level + i.nesting ≤ n
  | .value _, _ => hlevel
  | .form tag props children, h => by
    have hlt : level < n := h level tag props (by simp [Item.entries])
    have hchildren := nestingAll_le (level + 1) hlt children fun l tag props hmem =>
      h l tag props (by simp [Item.entries, hmem])
    rw [Item.nesting]
    omega

theorem nestingAll_le {n : Nat} (level : Nat) (hlevel : level ≤ n) : (is : List Item) →
    (∀ l tag props, (l, .form tag props) ∈ entriesAll level is → l < n) →
    level + nestingAll is ≤ n
  | [], _ => hlevel
  | i :: is, h => by
    have hi := nesting_le level hlevel i fun l tag props hmem =>
      h l tag props (by simp [entriesAll, hmem])
    have his := nestingAll_le level hlevel is fun l tag props hmem =>
      h l tag props (by simp [entriesAll, hmem])
    rw [nestingAll]
    omega
end

/-- A kept element has less than `maxDepth` kept elements around it. -/
theorem lt_of_form_mem_keptEntries {nodes : List Node} {level : Nat} {tag : String}
    {props : List Property} (h : (level, .form tag props) ∈ keptEntries nodes) :
    level < maxDepth := by
  obtain ⟨⟨around, node⟩, -, hentry⟩ := List.mem_filterMap.1 h
  cases node with
  | text content => simp [Occurrence.entry?] at hentry
  | other => cases hentry
  | element tag attrs children =>
    simp only [Occurrence.entry?, Option.ite_none_right_eq_some, Option.some.injEq,
      Prod.mk.injEq] at hentry
    obtain ⟨hkept, rfl, -⟩ := hentry
    have hdepth : around.length < maxDepth := by
      simpa using (Bool.and_eq_true_iff.1 hkept).2
    exact Nat.lt_of_le_of_lt (keptAround_le around) hdepth

/-- **Lowering keeps the tree.**  The items of a window are those of its children other than
    geometry blocks, the items of a widget those of all its children: in order, each kept node
    once, under as many forms as there are kept elements around it.  However deep a document
    is, forms nest at most `maxDepth` deep. -/
theorem entries_eq_keptEntries (e : Element) (sink : Sink) :
    (entriesAll 0 ((windowOf e).run sink).1.children =
        keptEntries (e.children.filter fun node => !node.isTagged "geometry") ∧
      nestingAll ((windowOf e).run sink).1.children ≤ maxDepth) ∧
    (entriesAll 0 ((widgetOf e).run sink).1.body = keptEntries e.children ∧
      nestingAll ((widgetOf e).run sink).1.body ≤ maxDepth) := by
  have hlist : ∀ nodes : List Node,
      entriesAll 0 (lowerAll 0 nodes).result = keptEntries nodes ∧
        nestingAll (lowerAll 0 nodes).result ≤ maxDepth := by
    intro nodes
    have hentries : entriesAll 0 (lowerAll 0 nodes).result = keptEntries nodes :=
      entries_lowerAll [] (Nat.zero_le _) nodes
    have hnest := nestingAll_le 0 (Nat.zero_le maxDepth) (lowerAll 0 nodes).result
      fun l tag props hmem => lt_of_form_mem_keptEntries (hentries ▸ hmem)
    exact ⟨hentries, by rwa [Nat.zero_add] at hnest⟩
  rw [(yields_windowOf e) sink, (yields_widgetOf e) sink, isGeometry_eq_isTagged]
  exact ⟨hlist _, hlist _⟩

end WidgetMarkup
