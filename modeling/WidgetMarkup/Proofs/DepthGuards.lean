/-
  The two limits of depth agree.

  A tree is cut at `maxDepth` levels when it becomes a document, and lowering drops elements
  `maxDepth` levels deep inside a window or widget.  Windows and widgets stand at level 2 of
  a document, so after the first cut nothing is left for the second one: no element is
  reported as dropped, and all that is left of the tree inside a window or widget is found
  in its definition (`convertDocument_documentOf`).
-/
import Mathlib.Data.List.Forall2
import WidgetMarkup.Proofs.Completeness
import WidgetMarkup.Proofs.Conversion
import WidgetMarkup.Proofs.Trimming

namespace WidgetMarkup

open Yuck Reporting
open Html (Tree)

/-! ## Normalized documents -/

/-- The element without insignificant blanks inside. -/
def Element.normalize (e : Element) : Element :=
  { e with children := normalizeAll e.children }

theorem normalizeAll_cons (node : Node) (nodes : List Node) :
    normalizeAll (node :: nodes) = node.normalize.toList ++ normalizeAll nodes := by
  rw [normalizeAll]
  cases node.normalize <;> rfl

theorem element?_normalize (node : Node) :
    node.normalize.bind Node.element? = node.element?.map Element.normalize := by
  cases node with
  | element tag attrs children => simp [Node.normalize, Node.element?, Element.normalize]
  | other => rfl
  | text content =>
    rw [normalize_text]
    split_ifs <;> rfl

theorem filterMap_element?_normalizeAll (nodes : List Node) :
    (normalizeAll nodes).filterMap Node.element? =
      (nodes.filterMap Node.element?).map Element.normalize := by
  induction nodes with
  | nil => rfl
  | cons node nodes ih =>
    have h := element?_normalize node
    rw [normalizeAll_cons, List.filterMap_append, ih, List.filterMap_cons]
    cases hn : node.normalize <;> cases he : node.element? <;> simp_all

theorem firstTagged?_normalizeAll (tag : String) (nodes : List Node) :
    firstTagged? tag (normalizeAll nodes) = (firstTagged? tag nodes).map Element.normalize := by
  rw [firstTagged?, filterMap_element?_normalizeAll, List.find?_map]
  rfl

/-- The body stays the same, up to a change of elements, if the `html` element does and its
    body does. -/
theorem findBody_eq_map {document document' : Document} {f g : Element → Element}
    (hroot : firstTagged? "html" document' = (firstTagged? "html" document).map f)
    (hbody : ∀ html, (f html).child? "body" = (html.child? "body").map g) :
    findBody document' = (findBody document).map g := by
  rw [findBody, findBody, hroot]
  cases firstTagged? "html" document with
  | none => rfl
  | some html =>
    simp only [Option.map_some, hbody]
    cases html.child? "body" <;> rfl

/-- The body of a normalized document is the normalized body. -/
theorem findBody_normalize (document : Document) :
    findBody document.normalize = (findBody document).map Element.normalize := by
  refine findBody_eq_map (firstTagged?_normalizeAll "html" document) fun html => ?_
  exact firstTagged?_normalizeAll "body" html.children

theorem isGeometry_of_normalize {node kept : Node} (h : node.normalize = some kept) :
    kept.isGeometry = node.isGeometry := by
  cases node with
  | element tag attrs children =>
    rw [Node.normalize, Option.some.injEq] at h
    rw [← h]
    rfl
  | other =>
    rw [Node.normalize, Option.some.injEq] at h
    rw [← h]
  | text content =>
    rw [normalize_text] at h
    split_ifs at h
    rw [← Option.some.inj h]
    rfl

theorem filter_normalizeAll (nodes : List Node) :
    (normalizeAll nodes).filter (fun node => !node.isGeometry) =
      normalizeAll (nodes.filter fun node => !node.isGeometry) := by
  induction nodes with
  | nil => rfl
  | cons node nodes ih =>
    rw [normalizeAll_cons, List.filter_append, ih, List.filter_cons]
    cases hn : node.normalize with
    | none => split_ifs <;> simp [normalizeAll_cons, hn]
    | some kept =>
      have hg := isGeometry_of_normalize hn
      cases hgeo : node.isGeometry <;> simp [normalizeAll_cons, hn, hg, hgeo]

/-! ## Occurrences in normalized nodes -/

/-- The occurrence without insignificant blanks, if anything is left of its node. -/
def Occurrence.normalize (o : Occurrence) : Option Occurrence :=
  o.node.normalize.map (⟨o.around, ·⟩)

mutual
theorem occurrences_normalize (around : List String) : (node : Node) →
    occurrencesAll around node.normalize.toList =
      (node.occurrences around).filterMap Occurrence.normalize
  | .text content => by
    rw [normalize_text, Node.occurrences]
    split_ifs with h <;>
      simp [occurrencesAll, Node.occurrences, Occurrence.normalize, normalize_text, h]
  | .other => rfl
  | .element tag attrs children => by
    have hchildren := occurrencesAll_normalize (around ++ [tag]) children
    simp [Node.normalize, Node.occurrences, occurrencesAll, Occurrence.normalize, hchildren]

theorem occurrencesAll_normalize (around : List String) : (nodes : List Node) →
    occurrencesAll around (normalizeAll nodes) =
      (occurrencesAll around nodes).filterMap Occurrence.normalize
  | [] => rfl
  | node :: nodes => by
    rw [normalizeAll_cons, occurrencesAll, List.filterMap_append,
      ← occurrences_normalize around node, ← occurrencesAll_normalize around nodes]
    cases node.normalize <;> simp [occurrencesAll]
end

/-! ## Levels of a cut tree -/

mutual
/-- Nothing in the document of a tree stands at level `maxDepth` or deeper; `depth` is the
    level of the tree itself. -/
theorem level_lt_nodeOf (around : List String) (depth : Nat) (hdepth : depth < maxDepth) :
    (t : Tree) → ∀ o ∈ (nodeOf depth t).occurrences around,
      o.around.length + depth < around.length + maxDepth
  | .text _, o, ho | .comment, o, ho | .doctype, o, ho | .fragment _, o, ho => by
    rw [nodeOf, Node.occurrences, List.mem_singleton] at ho
    subst ho
    exact Nat.add_lt_add_left hdepth _
  | .element name attrs children, o, ho => by
    rw [nodeOf, Node.occurrences, List.mem_cons] at ho
    rcases ho with rfl | ho
    · exact Nat.add_lt_add_left hdepth _
    · have h := level_lt_nodesOf (around ++ [name.tag]) (depth + 1) children o ho
      rw [List.length_append, List.length_singleton] at h
      omega

theorem level_lt_nodesOf (around : List String) (depth : Nat) :
    (ts : List Tree) → ∀ o ∈ occurrencesAll around (nodesOf depth ts),
      o.around.length + depth < around.length + maxDepth
  | [], o, ho => nomatch ho
  | t :: ts, o, ho => by
    rw [nodesOf] at ho
    split_ifs at ho with hdepth
    · nomatch ho
    · rw [occurrencesAll, List.mem_append] at ho
      rcases ho with ho | ho
      · exact level_lt_nodeOf around depth (Nat.lt_of_not_le hdepth) t o ho
      · exact level_lt_nodesOf around depth ts o ho
end

theorem exists_nodesOf_of_mem {depth : Nat} {ts : List Tree} {e : Element}
    (h : e.toNode ∈ nodesOf depth ts) : ∃ ts', e.children = nodesOf (depth + 1) ts' := by
  induction ts with
  | nil => nomatch h
  | cons t ts ih =>
    rw [nodesOf] at h
    split_ifs at h
    · nomatch h
    · rcases List.mem_cons.1 h with h | h
      · cases t with
        | element name attrs children =>
          rw [nodeOf, Element.toNode, Node.element.injEq] at h
          exact ⟨children, h.2.2⟩
        | text | comment | doctype | fragment => simp [nodeOf, Element.toNode] at h
      · exact ih h

theorem mem_of_firstTagged? {tag : String} {nodes : List Node} {e : Element}
    (h : firstTagged? tag nodes = some e) : e.toNode ∈ nodes := by
  obtain ⟨node, hmem, helement⟩ := List.mem_filterMap.1 (List.mem_of_find?_eq_some h)
  cases node with
  | element tag attrs children =>
    rw [Node.element?, Option.some.injEq] at helement
    rwa [← helement]
  | text | other => cases helement

/-- The children of the body stand at level 2. -/
theorem exists_nodesOf_of_findBody {trees : List Tree} {body : Element}
    (h : findBody (nodesOf 0 trees) = .ok body) : ∃ ts, body.children = nodesOf 2 ts := by
  rw [findBody] at h
  cases hhtml : firstTagged? "html" (nodesOf 0 trees) with
  | none =>
    rw [hhtml] at h
    nomatch h
  | some html =>
    rw [hhtml] at h
    dsimp only at h
    cases hbody : html.child? "body" with
    | none =>
      rw [hbody] at h
      nomatch h
    | some body' =>
      rw [hbody] at h
      obtain rfl : body' = body := Except.ok.inj h
      obtain ⟨ts, hts⟩ := exists_nodesOf_of_mem (mem_of_firstTagged? hhtml)
      have hmem := mem_of_firstTagged? hbody
      rw [hts] at hmem
      exact exists_nodesOf_of_mem hmem

/-! ## What survives -/

/-- The entry of a node that is left after normalization: a text that is not blank, or an
    element with a tag, with the number of tagged elements around it. -/
def Occurrence.survivor? (o : Occurrence) : Option (Nat × Label) :=
  let level := o.around.countP (!·.isEmpty)
  match o.node with
  | .text content =>
    if content.toList.all isBlank then none else some (level, .value (.infer (trim content)))
  | .element tag attrs _ =>
    if tag.isEmpty then none else some (level, .ofElement tag attrs)
  | .other => none

/-- The entries of all texts that are not blank and of all elements with a tag. -/
def survivors (nodes : List Node) : List (Nat × Label) :=
  (occurrencesAll [] nodes).filterMap Occurrence.survivor?

theorem keptAround_eq {around : List String} (h : around.length ≤ maxDepth) :
    keptAround around = around.countP (!·.isEmpty) := by
  have hall : ∀ x ∈ around.zipIdx, isKept x.2 x.1 = !x.1.isEmpty := by
    rintro ⟨tag, depth⟩ hmem
    have hlt : depth < around.length := by simpa using List.snd_lt_of_mem_zipIdx hmem
    simp [isKept, Nat.lt_of_lt_of_le hlt h]
  have hmap : around.countP (!·.isEmpty) = (around.zipIdx.map Prod.fst).countP (!·.isEmpty) := by
    rw [List.zipIdx_map_fst]
  rw [keptAround, hmap, List.countP_map]
  exact List.countP_congr fun x hx => Bool.eq_iff_iff.1 (hall x hx)

theorem entry?_normalize {o : Occurrence} (h : o.around.length < maxDepth) :
    o.normalize.bind Occurrence.entry? = o.survivor? := by
  obtain ⟨around, node⟩ := o
  have hlevel := keptAround_eq (Nat.le_of_lt h)
  cases node with
  | other => rfl
  | element tag attrs children =>
    have hkept : isKept around.length tag = !tag.isEmpty := by
      dsimp only at h
      simp [isKept, h]
    cases htag : tag.isEmpty <;>
      simp [Occurrence.normalize, Node.normalize, Occurrence.entry?, Occurrence.survivor?, hkept,
        htag, hlevel]
  | text content =>
    have hall := (all_depth_lt_iff around).2 (Nat.le_of_lt h)
    dsimp only [Occurrence.survivor?]
    rw [← isEmpty_trim]
    cases hblank : (trim content).isEmpty <;>
      simp [Occurrence.normalize, normalize_text, Occurrence.entry?, hall, hblank, hlevel]

/-- **Without deep nodes, lowering keeps all that normalization leaves.** -/
theorem keptEntries_normalizeAll {nodes : List Node}
    (h : ∀ o ∈ occurrencesAll [] nodes, o.around.length < maxDepth) :
    keptEntries (normalizeAll nodes) = survivors nodes := by
  rw [keptEntries, occurrencesAll_normalize, List.filterMap_filterMap, survivors]
  exact List.filterMap_congr fun o ho => entry?_normalize (h o ho)

/-- A node directly inside the body and a definition that holds all that normalization leaves
    of the node. -/
inductive Survives : Node → Definition → Prop where
  | window {attrs : List Attribute} {children : List Node} {d : Window}
      (items : (Definition.window d).entries =
        survivors (children.filter fun node => !node.isGeometry)) :
      Survives (.element "window" attrs children) (.window d)
  | widget {attrs : List Attribute} {children : List Node} {d : Widget}
      (items : (Definition.widget d).entries = survivors children) :
      Survives (.element "widget" attrs children) (.widget d)

/-- The nodes inside the elements among nodes stand less than `maxDepth` levels deep. -/
def IsShallow (nodes : List Node) : Prop :=
  ∀ tag attrs children, .element tag attrs children ∈ nodes →
    ∀ o ∈ occurrencesAll [] children, o.around.length < maxDepth

theorem isShallow_nodesOf {ts : List Tree} : IsShallow (nodesOf 2 ts) := by
  intro tag attrs children hmem o ho
  obtain ⟨ts', hts⟩ := exists_nodesOf_of_mem (e := ⟨tag, attrs, children⟩) hmem
  rw [show children = nodesOf 3 ts' from hts] at ho
  have h := level_lt_nodesOf [] 3 ts' o ho
  rw [List.length_nil] at h
  omega

theorem IsShallow.normalizeAll {nodes : List Node} (h : IsShallow nodes) :
    IsShallow (normalizeAll nodes) := by
  intro tag attrs children hmem o ho
  have helement : (⟨tag, attrs, children⟩ : Element) ∈
      (WidgetMarkup.normalizeAll nodes).filterMap Node.element? :=
    List.mem_filterMap.2 ⟨_, hmem, rfl⟩
  rw [filterMap_element?_normalizeAll, List.mem_map] at helement
  obtain ⟨e, he, heq⟩ := helement
  obtain ⟨node, hnode, hnodeElement⟩ := List.mem_filterMap.1 he
  cases node with
  | text | other => nomatch hnodeElement
  | element tag' attrs' children' =>
    obtain rfl : (⟨tag', attrs', children'⟩ : Element) = e := Option.some.inj hnodeElement
    have hchildren : WidgetMarkup.normalizeAll children' = children := congrArg Element.children heq
    rw [← hchildren, occurrencesAll_normalize] at ho
    obtain ⟨o', ho', hnormal⟩ := List.mem_filterMap.1 ho
    obtain ⟨kept, -, rfl⟩ := Option.map_eq_some_iff.1 hnormal
    exact h tag' attrs' children' hnode o' ho'

theorem mem_occurrencesAll_of_filter {p : Node → Bool} {around : List String} {nodes : List Node}
    {o : Occurrence} (h : o ∈ occurrencesAll around (nodes.filter p)) :
    o ∈ occurrencesAll around nodes := by
  induction nodes with
  | nil => exact h
  | cons node nodes ih =>
    rw [List.filter_cons] at h
    rw [occurrencesAll, List.mem_append]
    split_ifs at h
    · rw [occurrencesAll, List.mem_append] at h
      exact h.imp id ih
    · exact .inr (ih h)

theorem survives_definitionOf {tag : String} {attrs : List Attribute} {children : List Node}
    (h : ∀ o ∈ occurrencesAll [] children, o.around.length < maxDepth) :
    List.Forall₂ Survives ([Node.element tag attrs children].filter Node.isDefinition)
      (definitionOf (.element tag attrs (normalizeAll children))).result.toList := by
  have hlist : ∀ nodes : List Node,
      entriesAll 0 (lowerAll 0 nodes).result = keptEntries nodes :=
    fun nodes => entries_lowerAll [] (Nat.zero_le _) nodes
  rw [(yields_definitionOf _).result_eq]
  dsimp only
  by_cases hwindow : tag = "window"
  · subst hwindow
    refine .cons (.window ?_) .nil
    -- a window lowers its children other than the geometry elements, and no level changes
    have hsub : ∀ o ∈ occurrencesAll [] (children.filter fun node => !node.isGeometry),
        o.around.length < maxDepth := fun o ho => h o (mem_occurrencesAll_of_filter ho)
    rw [(yields_windowOf _).result_eq, Definition.entries, hlist, filter_normalizeAll,
      keptEntries_normalizeAll hsub]
  · by_cases hwidget : tag = "widget"
    · subst hwidget
      refine .cons (.widget ?_) .nil
      rw [(yields_widgetOf _).result_eq, Definition.entries, hlist, keptEntries_normalizeAll h]
    · simp [Node.isDefinition, hwindow, hwidget]

theorem survives_definitionsOf {nodes : List Node} (h : IsShallow nodes) :
    List.Forall₂ Survives (nodes.filter Node.isDefinition)
      (definitionsOf (normalizeAll nodes)).result := by
  induction nodes with
  | nil => exact .nil
  | cons node nodes ih =>
    have ih := ih fun tag attrs children hmem => h tag attrs children (List.mem_cons_of_mem _ hmem)
    have hcons := List.filter_append (p := Node.isDefinition) [node] nodes
    rw [List.singleton_append] at hcons
    rw [normalizeAll_cons, hcons]
    cases node with
    | element tag attrs children =>
      rw [Node.normalize, Option.toList_some, List.singleton_append, result_definitionsOf_cons]
      exact List.rel_append
        (survives_definitionOf (h tag attrs children List.mem_cons_self)) ih
    | other =>
      rw [Node.normalize, Option.toList_some, List.singleton_append, result_definitionsOf_cons]
      exact ih
    | text content =>
      rw [normalize_text]
      split_ifs
      · exact ih
      · rw [Option.toList_some, List.singleton_append, result_definitionsOf_cons]
        exact ih

/-- **The two limits of depth agree.**  The warning of a tree that is cut comes first and once;
    no other diagnostic is about depth.  Every text that is not blank and every element with a
    tag that the cut leaves inside a window or widget, other than in a geometry element directly
    inside a window, is found in its definition. -/
theorem convertDocument_documentOf (trees : List Tree) (sink : Sink) :
    (∃ ds, ((documentOf trees >>= convertDocument).run sink).2.toList =
        sink.toList ++ ((if anyCut 0 trees then [Notice.tooDeep.diagnostic] else []) ++ ds) ∧
      ∀ d ∈ ds, d.message ≠ Notice.tooDeep.message ∧
        ∀ tag, d.message ≠ (Notice.droppedElement tag).message) ∧
    match findBody (nodesOf 0 trees) with
    | .error e => ((documentOf trees >>= convertDocument).run sink).1 = .error e
    | .ok body =>
      ((documentOf trees >>= convertDocument).run sink).1 =
          .ok (yuck (definitions body.normalize).result) ∧
        List.Forall₂ Survives (body.children.filter Node.isDefinition)
          (definitions body.normalize).result := by
  have hrun := (yields_documentOf trees).bind (appendOnly_convertDocument (nodesOf 0 trees)) sink
  have hdocument := yields_convertDocument (nodesOf 0 trees)
  rw [findBody_normalize] at hdocument
  rw [hrun, hdocument.diagnostics_eq, hdocument.result_eq]
  cases hbody : findBody (nodesOf 0 trees) with
  | error e =>
    refine ⟨⟨[], ?_, nofun⟩, rfl⟩
    rw [Sink.toList_addAll]
    rfl
  | ok body =>
    obtain ⟨ts, hts⟩ := exists_nodesOf_of_findBody hbody
    have hshallow : IsShallow body.children := hts ▸ isShallow_nodesOf
    refine ⟨⟨(definitions body.normalize).diagnostics, ?_, ?_⟩, rfl,
      survives_definitionsOf hshallow⟩
    · rw [Sink.toList_addAll]
      rfl
    · intro d hd
      obtain ⟨notice, hcause⟩ := cause_of_mem_definitionsOf hd
      have hmessage : notice.message = d.message := congrArg Diagnostic.message hcause.diagnostic_eq
      -- a notice on depth needs an element as deep as the cut lets none stand
      have hdepth : notice.isDepth = false := by
        refine Bool.eq_false_iff.2 fun hdepth => ?_
        obtain ⟨tag, attrs, children, hmem, o, ho, hdeep⟩ := hcause.deep_of_isDepth hdepth
        exact absurd (hshallow.normalizeAll tag attrs children hmem o ho) (Nat.not_lt.2 hdeep)
      rw [← hmessage]
      exact ⟨Notice.message_ne_tooDeep hcause.ne_tooDeep,
        Notice.message_ne_droppedElement hdepth⟩

end WidgetMarkup
