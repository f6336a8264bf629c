/-
  Which body of a document is converted, and when there is none.

  Blanks are taken out of a document before its body is looked for, and a tree is cut before
  it becomes a document.  Neither changes what is found: the search looks at the tags of
  elements only, and both keep the elements of the two levels that it looks at.

  * `firstTagged?_eq_none_iff` and `firstTagged?_eq_some_iff` say what the search finds.
  * `copyAll` is the document of trees without a limit of depth, and `cutAll` takes away what
    is inside elements of the last level; `nodesOf_eq_cutAll` says that a document is the
    copy of its trees, cut.
  * `convertDocument_findBody`: a conversion fails if and only if the raw document has no
    body, with the same error, and then reports nothing.
-/
import WidgetMarkup.Proofs.DepthGuards

namespace WidgetMarkup

open Yuck Reporting
open Html (Tree)

/-! ## The first element with a tag -/

theorem firstTagged?_cons (tag : String) (node : Node) (nodes : List Node) :
    firstTagged? tag (node :: nodes) =
      if node.isTagged tag then node.element? else firstTagged? tag nodes := by
  cases node with
  | text content => rfl
  | other => rfl
  | element t attrs children =>
    rw [firstTagged?, List.filterMap_cons, Node.element?, List.find?_cons, Node.isTagged]
    cases t == tag <;> rfl

theorem firstTagged?_eq_none_iff {tag : String} {nodes : List Node} :
    firstTagged? tag nodes = none ↔ ∀ node ∈ nodes, node.isTagged tag = false := by
  induction nodes with
  | nil => simp [firstTagged?]
  | cons node nodes ih =>
    rw [firstTagged?_cons, List.forall_mem_cons, ← ih]
    cases node with
    | text content => simp [Node.isTagged]
    | other => simp [Node.isTagged]
    | element t attrs children => cases h : t == tag <;> simp [Node.isTagged, Node.element?, h]

theorem firstTagged?_append {tag : String} {before : List Node}
    (h : ∀ node ∈ before, node.isTagged tag = false) (nodes : List Node) :
    firstTagged? tag (before ++ nodes) = firstTagged? tag nodes := by
  induction before with
  | nil => rfl
  | cons node before ih =>
    rw [List.forall_mem_cons] at h
    rw [List.cons_append, firstTagged?_cons, if_neg (by simp [h.1]), ih h.2]

/-- The element found is the first one with the tag. -/
theorem firstTagged?_eq_some_iff {tag : String} {nodes : List Node} {e : Element} :
    firstTagged? tag nodes = some e ↔
      ∃ before after, nodes = before ++ e.toNode :: after ∧ e.tag = tag ∧
        ∀ node ∈ before, node.isTagged tag = false := by
  constructor
  · intro h
    induction nodes with
    | nil => nomatch h
    | cons node nodes ih =>
      rw [firstTagged?_cons] at h
      split_ifs at h with htag
      · cases node with
        | text content => nomatch h
        | other => nomatch h
        | element t attrs children =>
          obtain rfl := Option.some.inj h
          exact ⟨[], nodes, rfl, by simpa [Node.isTagged] using htag, nofun⟩
      · obtain ⟨before, after, rfl, he, hbefore⟩ := ih h
        exact ⟨node :: before, after, rfl, he,
          List.forall_mem_cons.2 ⟨Bool.eq_false_iff.2 htag, hbefore⟩⟩
  · rintro ⟨before, after, rfl, rfl, hbefore⟩
    rw [firstTagged?_append hbefore, firstTagged?_cons, Element.toNode,
      if_pos (by simp [Node.isTagged])]
    rfl

theorem findBody_eq_missingRoot_iff {document : Document} :
    findBody document = .error .missingRoot ↔
      ∀ node ∈ document, node.isTagged "html" = false := by
  rw [findBody, ← firstTagged?_eq_none_iff]
  cases firstTagged? "html" document with
  | none => simp
  | some html => cases hbody : html.child? "body" <;> simp [hbody]

theorem findBody_eq_missingBody_iff {document : Document} :
    findBody document = .error .missingBody ↔
      ∃ html, firstTagged? "html" document = some html ∧
        ∀ node ∈ html.children, node.isTagged "body" = false := by
  rw [findBody]
  cases firstTagged? "html" document with
  | none => simp
  | some html =>
    simp only [Option.some.injEq, exists_eq_left', ← firstTagged?_eq_none_iff]
    rw [← Element.child?]
    cases html.child? "body" <;> simp

/-! ## Copies and cuts -/

mutual
/-- The node of a tree, however deep the tree is. -/
def Html.Tree.copy : Tree → Node
  | .element name attrs children => .element name.tag attrs (copyAll children)
  | .text content => .text content
  | .comment | .doctype | .fragment _ => .other

/-- The nodes of trees, however deep they are. -/
def copyAll : List Tree → List Node
  | [] => []
  | t :: ts => t.copy :: copyAll ts
end

mutual
/-- The node, itself at a level, without what is inside elements of the last level. -/
def Node.cut (level : Nat) : Node → Node
  | .element tag attrs children =>
    .element tag attrs (if level + 1 = maxDepth then [] else cutAll (level + 1) children)
  | .text content => .text content
  | .other => .other

/-- The nodes, themselves at a level, without what is inside elements of the last level. -/
def cutAll (level : Nat) : List Node → List Node
  | [] => []
  | node :: nodes => node.cut level :: cutAll level nodes
end

/-- The element, itself at a level, without what is inside elements of the last level. -/
def Element.cut (level : Nat) (e : Element) : Element :=
  { e with children := if level + 1 = maxDepth then [] else cutAll (level + 1) e.children }

mutual
theorem nodeOf_eq_cut {depth : Nat} (h : depth < maxDepth) :
    (t : Tree) → nodeOf depth t = t.copy.cut depth
  | .text _ | .comment | .doctype | .fragment _ => rfl
  | .element name attrs children => by
    rw [nodeOf, Tree.copy, Node.cut]
    split_ifs with hlast
    · rw [nodesOf_of_maxDepth_le (Nat.le_of_eq hlast.symm) children]
    · rw [nodesOf_eq_cutAll (by omega) children]

/-- **A document is the copy of its trees, cut at the last level.** -/
theorem nodesOf_eq_cutAll {depth : Nat} (h : depth < maxDepth) :
    (ts : List Tree) → nodesOf depth ts = cutAll depth (copyAll ts)
  | [] => rfl
  | t :: ts => by
    rw [nodesOf, if_neg (Nat.not_le.2 h), nodeOf_eq_cut h t, nodesOf_eq_cutAll h ts]
    rfl
end

theorem firstTagged?_cutAll (tag : String) (level : Nat) (nodes : List Node) :
    firstTagged? tag (cutAll level nodes) = (firstTagged? tag nodes).map (Element.cut level) := by
  induction nodes with
  | nil => rfl
  | cons node nodes ih =>
    rw [cutAll, firstTagged?_cons, firstTagged?_cons, ih]
    cases node with
    | text content => rfl
    | other => rfl
    | element t attrs children =>
      rw [Node.cut, Node.isTagged, Node.isTagged]
      cases t == tag <;> rfl

/-- The body of a cut document is the body, cut: the search ends at level 1, above the last
    level. -/
theorem findBody_cutAll (document : Document) :
    findBody (cutAll 0 document) = (findBody document).map (Element.cut 1) := by
  refine findBody_eq_map (firstTagged?_cutAll "html" 0 document) fun html => ?_
  exact firstTagged?_cutAll "body" 1 html.children

/-! ## When a conversion fails -/

/-- **A conversion fails if and only if the raw document has no body**, with the same error,
    and then it reports nothing; if there is a body, it is converted without its blanks.  The
    document of trees has the body of their copy, cut, or the same error. -/
theorem convertDocument_findBody :
    (∀ (document : Document) (sink : Sink),
      (∀ e, ((convertDocument document).run sink).1 = .error e ↔ findBody document = .error e) ∧
      (match findBody document with
        | .error e => (convertDocument document).run sink = (.error e, sink)
        | .ok body =>
          findBody document.normalize = .ok body.normalize ∧
          (convertDocument document).run sink =
            (.ok (yuck ((definitions body.normalize).run sink).1),
              ((definitions body.normalize).run sink).2)) ∧
      (findBody document = .error .missingRoot ↔
        ∀ node ∈ document, node.isTagged "html" = false) ∧
      (findBody document = .error .missingBody ↔
        ∃ before attrs children after,
          document = before ++ .element "html" attrs children :: after ∧
          (∀ node ∈ before, node.isTagged "html" = false) ∧
          ∀ node ∈ children, node.isTagged "body" = false)) ∧
    ∀ (trees : List Tree) (sink : Sink),
      findBody ((documentOf trees).run sink).1 =
        (findBody (copyAll trees)).map (Element.cut 1) := by
  constructor
  · intro document sink
    have hrun := yields_convertDocument document sink
    rw [findBody_normalize] at hrun
    refine ⟨fun e => ?_, ?_, findBody_eq_missingRoot_iff, ?_⟩
    · rw [hrun]
      cases findBody document <;> simp [Except.map]
    · rw [findBody_normalize, hrun]
      cases findBody document with
      | error e => rfl
      | ok body =>
        refine ⟨rfl, ?_⟩
        rw [appendOnly_definitions body.normalize sink]
        rfl
    · rw [findBody_eq_missingBody_iff]
      constructor
      · rintro ⟨html, hhtml, hbody⟩
        obtain ⟨before, after, hdocument, htag, hbefore⟩ := firstTagged?_eq_some_iff.1 hhtml
        rw [Element.toNode, htag] at hdocument
        exact ⟨before, html.attrs, html.children, after, hdocument, hbefore, hbody⟩
      · rintro ⟨before, attrs, children, after, hdocument, hbefore, hbody⟩
        exact ⟨⟨"html", attrs, children⟩,
          firstTagged?_eq_some_iff.2 ⟨before, after, hdocument, rfl, hbefore⟩, hbody⟩
  · intro trees sink
    rw [yields_documentOf trees sink, nodesOf_eq_cutAll (by decide) trees, findBody_cutAll]

end WidgetMarkup
