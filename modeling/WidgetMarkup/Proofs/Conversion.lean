/-
  What conversions yield and what they report.

  * Reading, converting a document and converting a text are append-only, as lowering is.
  * Each diagnostic of a body is the warning for some cause.  No cause is the truncation of
    the document, and an element is reported as dropped only if one stands `maxDepth` levels
    deep inside a window or widget (`cause_of_mem_definitionsOf`).
-/
import WidgetMarkup.Conversion
import WidgetMarkup.Proofs.Copying
import WidgetMarkup.Proofs.Preservation

namespace WidgetMarkup

open Yuck Reporting

/-! ## Conversions are append-only -/

theorem yields_parseDocument (html : String) :
    (parseDocument html).Yields (nodesOf 0 (Html.parse html)) (cutWarning (Html.parse html)) :=
  yields_documentOf (Html.parse html)

theorem appendOnly_parseDocument (html : String) : (parseDocument html).AppendOnly :=
  (yields_parseDocument html).appendOnly

theorem yields_convertDocument (document : Document) :
    (convertDocument document).Yields
      (match findBody document.normalize with
        | .error e => .error e
        | .ok body => .ok (yuck (definitions body).result))
      (match findBody document.normalize with
        | .error _ => []
        | .ok body => (definitions body).diagnostics) := by
  rw [convertDocument]
  cases findBody document.normalize with
  | error e => exact yields_pure _
  | ok body => exact (appendOnly_definitions body).map _

theorem appendOnly_convertDocument (document : Document) : (convertDocument document).AppendOnly :=
  (yields_convertDocument document).appendOnly

theorem yields_convertText (html : String) :
    (convertText html).Yields (convertDocument (nodesOf 0 (Html.parse html))).result
      (cutWarning (Html.parse html) ++
        (convertDocument (nodesOf 0 (Html.parse html))).diagnostics) :=
  (yields_parseDocument html).bind (appendOnly_convertDocument _)

theorem appendOnly_convertText (html : String) : (convertText html).AppendOnly :=
  (yields_convertText html).appendOnly

/-! ## Causes -/

/-- Whether a warning is about nesting that is too deep. -/
def Notice.isDepth : Notice → Bool
  | .tooDeep | .droppedElement _ => true
  | _ => false

/-- The first letter of a warning. -/
def Notice.initial : Notice → Char
  | .tooDeep | .missingTag => 'e'
  | .strayText _ | .strayOther => 's'
  | .unhandledTag _ => 'u'
  | .unnamedWindow | .unnamedWidget | .extraGeometry _ => 'w'
  | .droppedElement _ => '<'

theorem Notice.head?_message (notice : Notice) :
    notice.message.toList.head? = some notice.initial := by
  have happend : ∀ s t : String, ∀ c, s.toList.head? = some c →
      (s ++ t).toList.head? = some c := by
    intro s t c h
    rw [String.toList_append, List.head?_append, h, Option.some_or]
  cases notice with
  | tooDeep | strayOther | unnamedWindow | unnamedWidget | missingTag => rfl
  | strayText | unhandledTag | extraGeometry => exact happend _ _ _ (happend _ _ _ rfl)
  | droppedElement => exact happend _ _ _ (happend _ _ _ (happend _ _ _ (happend _ _ _ rfl)))

theorem Notice.initial_eq {notice other : Notice} (h : notice.message = other.message) :
    notice.initial = other.initial := by
  have hhead := congrArg (fun s : String => s.toList.head?) h
  rwa [head?_message, head?_message, Option.some.injEq] at hhead

theorem Notice.message_ne_tooDeep {notice : Notice} (h : notice ≠ .tooDeep) :
    notice.message ≠ Notice.tooDeep.message := by
  intro heq
  have hinitial := initial_eq heq
  cases notice with
  | tooDeep => exact h rfl
  | missingTag => exact absurd heq (by decide)
  | _ => simp [initial] at hinitial

theorem Notice.message_ne_droppedElement {notice : Notice} (h : notice.isDepth = false)
    (tag : String) : notice.message ≠ (Notice.droppedElement tag).message := by
  intro heq
  have hinitial := initial_eq heq
  cases notice with
  | droppedElement => cases h
  | _ => simp [initial] at hinitial

/-- Whether an element stands `maxDepth` levels deep among the occurrences. -/
def HasDeepElement (occurrences : List Occurrence) : Prop :=
  ∃ o ∈ occurrences, maxDepth ≤ o.around.length

theorem HasDeepElement.mono {os ps : List Occurrence} (h : HasDeepElement os) (hsub : os ⊆ ps) :
    HasDeepElement ps := by
  obtain ⟨o, ho, hdeep⟩ := h
  exact ⟨o, hsub ho, hdeep⟩

/-- A cause of a diagnostic among those that arise from nodes: truncation is none of them, and
    too deep a nesting is one only if there is some. -/
structure Notice.IsCause (notice : Notice) (deep : Prop) (d : Diagnostic) : Prop where
  diagnostic_eq : notice.diagnostic = d
  ne_tooDeep : notice ≠ .tooDeep
  deep_of_isDepth : notice.isDepth → deep

theorem Notice.IsCause.mono {notice : Notice} {deep deep' : Prop} {d : Diagnostic}
    (h : notice.IsCause deep d) (himp : deep → deep') : notice.IsCause deep' d :=
  ⟨h.diagnostic_eq, h.ne_tooDeep, fun hd => himp (h.deep_of_isDepth hd)⟩

/-- A warning that is not about depth is its own cause. -/
theorem Notice.isCause_self {notice : Notice} (h : notice.isDepth = false) (deep : Prop) :
    notice.IsCause deep notice.diagnostic := by
  refine ⟨rfl, ?_, ?_⟩
  · rintro rfl
    cases h
  · rw [h]
    exact nofun

mutual
theorem cause_of_mem_lower (around : List String) {d : Diagnostic} : (node : Node) →
    d ∈ (lower around.length node).diagnostics →
    ∃ notice : Notice, notice.IsCause (HasDeepElement (node.occurrences around)) d
  | .text _, h => nomatch h
  | .other, h => nomatch h
  | .element tag attrs children, h => by
    have hlength : (around ++ [tag]).length = around.length + 1 := by simp
    have hchildren : d ∈ (lowerAll (around.length + 1) children).diagnostics →
        ∃ notice : Notice, notice.IsCause
          (HasDeepElement ((Node.element tag attrs children).occurrences around)) d := by
      intro hd
      obtain ⟨notice, hcause⟩ := cause_of_mem_lowerAll (around ++ [tag]) children (by rwa [hlength])
      exact ⟨notice, hcause.mono fun hdeep => hdeep.mono (List.subset_cons_self _ _)⟩
    rw [diagnostics_lower_element] at h
    split_ifs at h with hdeep
    · rw [List.mem_singleton] at h
      refine ⟨.droppedElement tag, h.symm, nofun, fun _ => ⟨_, List.mem_cons_self, hdeep⟩⟩
    · rcases List.mem_cons.1 h with rfl | hd
      · exact ⟨.missingTag, Notice.isCause_self rfl _⟩
      · exact hchildren hd
    · exact hchildren h

theorem cause_of_mem_lowerAll (around : List String) {d : Diagnostic} : (nodes : List Node) →
    d ∈ (lowerAll around.length nodes).diagnostics →
    ∃ notice : Notice, notice.IsCause (HasDeepElement (occurrencesAll around nodes)) d
  | [], h => nomatch h
  | node :: nodes, h => by
    rw [diagnostics_lowerAll_cons, List.mem_append] at h
    rw [occurrencesAll]
    rcases h with h | h
    · obtain ⟨notice, hcause⟩ := cause_of_mem_lower around node h
      exact ⟨notice, hcause.mono fun hdeep => hdeep.mono (List.subset_append_left _ _)⟩
    · obtain ⟨notice, hcause⟩ := cause_of_mem_lowerAll around nodes h
      exact ⟨notice, hcause.mono fun hdeep => hdeep.mono (List.subset_append_right _ _)⟩
end

theorem cause_of_mem_windowItems {name : String} {seen : Bool} {nodes : List Node}
    {d : Diagnostic} (h : d ∈ (windowItems name seen nodes).diagnostics) :
    ∃ notice : Notice, notice.IsCause (HasDeepElement (occurrencesAll [] nodes)) d := by
  induction nodes generalizing seen with
  | nil => nomatch h
  | cons node nodes ih =>
    rw [diagnostics_windowItems_cons, List.mem_append] at h
    rw [occurrencesAll]
    rcases h with h | h
    · split_ifs at h
      · rw [List.mem_singleton] at h
        exact ⟨.extraGeometry name, h ▸ Notice.isCause_self rfl _⟩
      · nomatch h
      · obtain ⟨notice, hcause⟩ := cause_of_mem_lower [] node h
        exact ⟨notice, hcause.mono fun hdeep => hdeep.mono (List.subset_append_left _ _)⟩
    · obtain ⟨notice, hcause⟩ := ih h
      exact ⟨notice, hcause.mono fun hdeep => hdeep.mono (List.subset_append_right _ _)⟩

/-- Whether an element stands `maxDepth` levels deep inside a child of one of the nodes. -/
def HasDeepInside (nodes : List Node) : Prop :=
  ∃ tag attrs children, .element tag attrs children ∈ nodes ∧
    HasDeepElement (occurrencesAll [] children)

theorem cause_of_mem_definitionOf {node : Node} {d : Diagnostic}
    (h : d ∈ (definitionOf node).diagnostics) :
    ∃ notice : Notice, notice.IsCause (HasDeepInside [node]) d := by
  have hunnamed : ∀ {b : Bool} {notice : Notice}, notice.isDepth = false →
      d ∈ (if b then [notice.diagnostic] else []) →
      ∃ notice : Notice, notice.IsCause (HasDeepInside [node]) d := by
    intro b notice hdepth hd
    split_ifs at hd
    · rw [List.mem_singleton] at hd
      exact ⟨notice, hd ▸ Notice.isCause_self hdepth _⟩
    · nomatch hd
  have hone : ∀ notice : Notice, notice.isDepth = false → d ∈ [notice.diagnostic] →
      ∃ notice : Notice, notice.IsCause (HasDeepInside [node]) d :=
    fun _ hdepth hd => hunnamed (b := true) hdepth hd
  rw [(yields_definitionOf node).diagnostics_eq] at h
  cases node with
  | text content => exact hone (.strayText content) rfl h
  | other => exact hone .strayOther rfl h
  | element tag attrs children =>
    have hinside : ∀ notice : Notice,
        notice.IsCause (HasDeepElement (occurrencesAll [] children)) d →
        ∃ notice : Notice, notice.IsCause (HasDeepInside [.element tag attrs children]) d :=
      fun notice hcause => ⟨notice, hcause.mono fun hdeep =>
        ⟨tag, attrs, children, List.mem_singleton_self _, hdeep⟩⟩
    dsimp only at h
    split_ifs at h
    · rw [(yields_windowOf _).diagnostics_eq, List.mem_append] at h
      rcases h with h | h
      · exact hunnamed rfl h
      · obtain ⟨notice, hcause⟩ := cause_of_mem_windowItems h
        exact hinside notice hcause
    · rw [(yields_widgetOf _).diagnostics_eq, List.mem_append] at h
      rcases h with h | h
      · exact hunnamed rfl h
      · obtain ⟨notice, hcause⟩ := cause_of_mem_lowerAll [] children h
        exact hinside notice hcause
    · exact hone (.unhandledTag tag) rfl h

/-- **Every diagnostic of a body has a cause** other than the truncation of the document. -/
theorem cause_of_mem_definitionsOf {nodes : List Node} {d : Diagnostic}
    (h : d ∈ (definitionsOf nodes).diagnostics) :
    ∃ notice : Notice, notice.IsCause (HasDeepInside nodes) d := by
  induction nodes with
  | nil => nomatch h
  | cons node nodes ih =>
    rw [diagnostics_definitionsOf_cons, List.mem_append] at h
    rcases h with h | h
    · obtain ⟨notice, hcause⟩ := cause_of_mem_definitionOf h
      refine ⟨notice, hcause.mono ?_⟩
      rintro ⟨tag, attrs, children, hmem, hdeep⟩
      rw [List.mem_singleton] at hmem
      exact ⟨tag, attrs, children, hmem ▸ List.mem_cons_self, hdeep⟩
    · obtain ⟨notice, hcause⟩ := ih h
      refine ⟨notice, hcause.mono ?_⟩
      rintro ⟨tag, attrs, children, hmem, hdeep⟩
      exact ⟨tag, attrs, children, List.mem_cons_of_mem _ hmem, hdeep⟩

end WidgetMarkup
