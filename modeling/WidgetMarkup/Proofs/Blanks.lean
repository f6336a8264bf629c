/-
  Insignificant blanks.

  Two documents are alike up to blanks (`BlankAlike`) if blank texts more or less and other
  blanks around texts lead from one to the other, step by step, anywhere in the document.
  `normalize` picks one document of each class: a document is like its normal form, and like
  documents have the same one, so that they are converted alike (`normalize_canonical`).
  Whatever a step does not change is the same in a document and in its normal form.
-/
import Mathlib.Logic.Relation
import WidgetMarkup.Proofs.DepthGuards

namespace WidgetMarkup

/-! ## Documents that differ in blanks -/

/-- One insignificant change of a list of nodes, at its front, inside the element there or
    further on. -/
inductive BlankStep : List Node → List Node → Prop where
  /-- A blank text more. -/
  | insert {s : String} (blank : ∀ c ∈ s.toList, isBlank c) (nodes : List Node) :
      BlankStep nodes (.text s :: nodes)
  /-- Other blanks around a text. -/
  | replace {s t : String} (same : trim s = trim t) (nodes : List Node) :
      BlankStep (.text s :: nodes) (.text t :: nodes)
  | inside {children children' : List Node} (tag : String) (attrs : List Attribute)
      (step : BlankStep children children') (nodes : List Node) :
      BlankStep (.element tag attrs children :: nodes) (.element tag attrs children' :: nodes)
  | behind {nodes nodes' : List Node} (node : Node) (step : BlankStep nodes nodes') :
      BlankStep (node :: nodes) (node :: nodes')

/-- Insignificant changes lead from one document to the other: the least equivalence that
    holds of documents one change apart. -/
def BlankAlike : Document → Document → Prop :=
  Relation.EqvGen BlankStep

namespace BlankAlike

variable {d d' : Document}

/-- **What no change touches is the same in like documents.** -/
theorem congr {α : Sort*} {f : Document → α} (hf : ∀ a b, BlankStep a b → f a = f b)
    (h : BlankAlike d d') : f d = f d' := by
  induction h with
  | rel a b step => exact hf a b step
  | refl => rfl
  | symm a b _ ih => exact ih.symm
  | trans a b c _ _ ih₁ ih₂ => exact ih₁.trans ih₂

/-- Like documents stay alike if every change is still one after a change of all documents. -/
theorem map {f : Document → Document} (hf : ∀ a b, BlankStep a b → BlankStep (f a) (f b))
    (h : BlankAlike d d') : BlankAlike (f d) (f d') := by
  induction h with
  | rel a b step => exact .rel _ _ (hf a b step)
  | refl => exact .refl _
  | symm a b _ ih => exact .symm _ _ ih
  | trans a b c _ _ ih₁ ih₂ => exact .trans _ _ _ ih₁ ih₂

theorem cons (node : Node) (h : BlankAlike d d') : BlankAlike (node :: d) (node :: d') :=
  h.map fun _ _ => .behind node

theorem element (tag : String) (attrs : List Attribute) (nodes : List Node)
    (h : BlankAlike d d') :
    BlankAlike (.element tag attrs d :: nodes) (.element tag attrs d' :: nodes) :=
  h.map fun _ _ step => .inside tag attrs step nodes

end BlankAlike

/-! ## The normal form -/

mutual
/-- A node is normalized by insignificant changes of the list that it is the front of. -/
theorem blankAlike_normalize (nodes : List Node) :
    (node : Node) → BlankAlike (node.normalize.toList ++ nodes) (node :: nodes)
  | .other => .refl _
  | .element tag attrs children => (blankAlike_normalizeAll children).element tag attrs nodes
  | .text content => by
    rw [normalize_text]
    split_ifs with hempty
    · have hblank : trim content = "" := by simpa using hempty
      exact .rel _ _ (.insert (trim_eq_empty_iff.1 hblank) nodes)
    · exact .rel _ _ (.replace (trim_trim content) nodes)

theorem blankAlike_normalizeAll : (nodes : List Node) → BlankAlike (normalizeAll nodes) nodes
  | [] => .refl _
  | node :: nodes => by
    rw [normalizeAll_cons]
    exact .trans _ _ _ (blankAlike_normalize (normalizeAll nodes) node)
      ((blankAlike_normalizeAll nodes).cons node)
end

theorem BlankStep.normalizeAll_eq {a b : List Node} (h : BlankStep a b) :
    normalizeAll a = normalizeAll b := by
  induction h with
  | insert blank nodes =>
    rw [normalizeAll_cons, normalize_text, trim_eq_empty_iff.2 blank]
    rfl
  | replace same nodes =>
    rw [normalizeAll_cons, normalizeAll_cons, normalize_text, normalize_text, same]
  | inside tag attrs step nodes ih =>
    rw [normalizeAll_cons, normalizeAll_cons, Node.normalize, Node.normalize, ih]
  | behind node step ih => rw [normalizeAll_cons, normalizeAll_cons, ih]

/-- **Documents are alike if and only if their normal forms are the same.** -/
theorem blankAlike_iff {d₁ d₂ : Document} : BlankAlike d₁ d₂ ↔ d₁.normalize = d₂.normalize := by
  constructor
  · exact fun h => h.congr fun _ _ => BlankStep.normalizeAll_eq
  · intro h
    have h₂ : BlankAlike d₁.normalize d₂ := h ▸ blankAlike_normalizeAll d₂
    exact .trans _ _ _ (.symm _ _ (blankAlike_normalizeAll d₁)) h₂

theorem normalize_text_eq {node : Node} {t : String} (h : node.normalize = some (.text t)) :
    t ≠ "" ∧ trim t = t := by
  cases node with
  | element | other => simp [Node.normalize] at h
  | text content =>
    rw [normalize_text] at h
    split_ifs at h with hempty
    obtain rfl : trim content = t := by simpa using h
    exact ⟨by simpa using hempty, trim_trim content⟩

/-! ## What is left without texts -/

mutual
/-- The node without the texts in it, if it is none itself. -/
def Node.withoutTexts : Node → Option Node
  | .element tag attrs children => some (.element tag attrs (withoutTextsAll children))
  | .text _ => none
  | .other => some .other

/-- The nodes without the texts among and in them. -/
def withoutTextsAll : List Node → List Node
  | [] => []
  | node :: nodes => node.withoutTexts.toList ++ withoutTextsAll nodes
end

theorem BlankStep.withoutTextsAll_eq {a b : List Node} (h : BlankStep a b) :
    withoutTextsAll a = withoutTextsAll b := by
  induction h with
  | insert blank nodes => rfl
  | replace same nodes => rfl
  | inside tag attrs step nodes ih =>
    rw [withoutTextsAll, withoutTextsAll, Node.withoutTexts, Node.withoutTexts, ih]
  | behind node step ih => rw [withoutTextsAll, withoutTextsAll, ih]

/-- **Normal forms are canonical.**  A document is like its normal form, and documents are
    alike if and only if they have the same one; normalizing twice is normalizing once.  Every
    text of a normal form is trimmed and not empty, and all that is no text is as it was.  Like
    documents are converted alike, with the same diagnostics. -/
theorem normalize_canonical (d d₁ d₂ : Document) :
    BlankAlike d.normalize d ∧
    (BlankAlike d₁ d₂ ↔ d₁.normalize = d₂.normalize) ∧
    d.normalize.normalize = d.normalize ∧
    (∀ around t, ⟨around, .text t⟩ ∈ occurrencesAll [] d.normalize → t ≠ "" ∧ trim t = t) ∧
    withoutTextsAll d.normalize = withoutTextsAll d ∧
    (BlankAlike d₁ d₂ →
      ∀ sink, (convertDocument d₁).run sink = (convertDocument d₂).run sink) := by
  have hd : BlankAlike d.normalize d := blankAlike_normalizeAll d
  refine ⟨hd, blankAlike_iff, blankAlike_iff.1 hd, fun around t ht => ?_,
    hd.congr fun _ _ => BlankStep.withoutTextsAll_eq, fun h sink => ?_⟩
  · rw [Document.normalize, occurrencesAll_normalize] at ht
    obtain ⟨o, -, ho⟩ := List.mem_filterMap.1 ht
    obtain ⟨node, hnode, heq⟩ := Option.map_eq_some_iff.1 ho
    obtain ⟨-, rfl⟩ := Occurrence.mk.inj heq
    exact normalize_text_eq hnode
  · rw [convertDocument, convertDocument, blankAlike_iff.1 h]

/-- A document with blanks between its elements and around a text. -/
def spread : Document :=
  [.element "html" [] [.text "\n", .element "body" []
    [.element "widget" [⟨"name", "v"⟩] [.text " hi "]]]]

/-- The same without them. -/
def compact : Document :=
  [.element "html" [] [.element "body" [] [.element "widget" [⟨"name", "v"⟩] [.text "hi"]]]]

/-- Two changes lead from one of these documents to the other, and its text is trimmed. -/
theorem normalize_canonical_spread :
    BlankAlike spread compact ∧
    (convertDocument spread).run {} = (convertDocument compact).run {} ∧
    ⟨["html", "body", "widget"], .text "hi"⟩ ∈ occurrencesAll [] spread.normalize ∧
    "hi" ≠ "" ∧ trim "hi" = "hi" := by
  obtain ⟨-, -, -, htrimmed, -, hconvert⟩ := normalize_canonical spread spread compact
  have halike : BlankAlike spread compact := by
    refine .trans _ [.element "html" [] [.element "body" []
      [.element "widget" [⟨"name", "v"⟩] [.text " hi "]]]] _
      (.symm _ _ (.rel _ _ ?_)) (.rel _ _ ?_)
    · exact .inside _ _ (.insert (trim_eq_empty_iff.1 (by decide)) _) _
    · exact .inside _ _ (.inside _ _ (.inside _ _ (.replace (by decide) _) _) _) _
  have hmem : ⟨["html", "body", "widget"], .text "hi"⟩ ∈ occurrencesAll [] spread.normalize := by
    rw [show spread.normalize = compact from rfl]
    simp [compact, occurrencesAll, Node.occurrences]
  exact ⟨halike, hconvert halike {}, hmem, htrimmed _ _ hmem⟩

end WidgetMarkup
