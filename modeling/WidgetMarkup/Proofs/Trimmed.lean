/-
  Blanks never get into definitions.

  Normalization leaves only texts that are trimmed and not empty (`IsTrimmed`).  All that is
  converted is part of a normal form: the body, the windows and widgets in it, and what is
  left of their children without the geometry elements (`exists_content_eq`).  So values come
  from trimmed texts, and only trimmed texts are quoted in diagnostics; the properties of
  forms come from attributes that are not empty (`convertDocument_trimmed`).
-/
import WidgetMarkup.Proofs.Accounting
import WidgetMarkup.Proofs.Blanks
import WidgetMarkup.Proofs.Literals

namespace WidgetMarkup

open Yuck Reporting

/-! ## Trimmed texts -/

/-- A text that is not empty and has no blank at either end. -/
structure IsTrimmed (t : String) : Prop where
  ne_empty : t ≠ ""
  head : ∀ c ∈ t.toList.head?, isBlank c = false
  last : ∀ c ∈ t.toList.getLast?, isBlank c = false

/-- A text that trimming leaves as it is. -/
theorem isTrimmed_of_trim_eq {t : String} (hne : t ≠ "") (h : trim t = t) : IsTrimmed t := by
  have htrim : trimChars t.toList = t.toList := by
    rw [← String.toList_ofList (l := trimChars t.toList), ← trim, h]
  refine ⟨hne, fun c hc => ?_, fun c hc => ?_⟩
  · have hfirst := List.head?_dropWhile_not isBlank (trimChars t.toList)
    rw [dropWhile_trimChars, htrim, Option.mem_def.1 hc] at hfirst
    exact hfirst
  · rw [trimChars_eq] at htrim
    have hlist : (t.toList.dropWhile isBlank).rdropWhile isBlank ≠ [] := by
      rw [htrim]
      exact fun hnil => hne (String.toList_inj.1 hnil)
    have hlast := List.rdropWhile_last_not isBlank (t.toList.dropWhile isBlank) hlist
    rw [← htrim, List.getLast?_eq_some_getLast hlist, Option.mem_some_iff] at hc
    rw [hc] at hlast
    exact Bool.eq_false_iff.2 hlast

/-- A trimmed text is not blank. -/
theorem IsTrimmed.exists_not_blank {t : String} (h : IsTrimmed t) :
    ∃ c ∈ t.toList, isBlank c = false := by
  cases ht : t.toList with
  | nil => exact absurd (String.toList_inj.1 ht) h.ne_empty
  | cons c cs => exact ⟨c, List.mem_cons_self, h.head c (by rw [ht]; rfl)⟩

/-! ## Normal forms -/

theorem mem_normalizeAll_iff {nodes : List Node} {kept : Node} :
    kept ∈ normalizeAll nodes ↔ ∃ node ∈ nodes, node.normalize = some kept := by
  induction nodes with
  | nil => simp [normalizeAll]
  | cons node nodes ih => simp [normalizeAll_cons, ih]

theorem isTrimmed_of_normalize {node : Node} {t : String} (h : node.normalize = some (.text t)) :
    IsTrimmed t := by
  obtain ⟨hne, htrim⟩ := normalize_text_eq h
  exact isTrimmed_of_trim_eq hne htrim

/-- What is left inside an element is a normal form. -/
theorem exists_children_eq {node : Node} {tag : String} {attrs : List Attribute}
    {children : List Node} (h : node.normalize = some (.element tag attrs children)) :
    ∃ nodes, children = normalizeAll nodes := by
  cases node with
  | other => cases h
  | text content =>
    rw [normalize_text] at h
    split_ifs at h
    cases h
  | element tag' attrs' nodes =>
    rw [Node.normalize, Option.some.injEq, Node.element.injEq] at h
    exact ⟨nodes, h.2.2.symm⟩

theorem isTrimmed_of_mem_normalizeAll {nodes : List Node} {t : String}
    (h : .text t ∈ normalizeAll nodes) : IsTrimmed t := by
  obtain ⟨node, -, hnode⟩ := mem_normalizeAll_iff.1 h
  exact isTrimmed_of_normalize hnode

/-- **Values of a normal form come from trimmed texts**, however deep they stand. -/
theorem value_of_mem_keptEntries {nodes : List Node} {level : Nat} {literal : Literal}
    (h : (level, .value literal) ∈ keptEntries (normalizeAll nodes)) :
    ∃ t, IsTrimmed t ∧ literal = .infer t := by
  rw [keptEntries, occurrencesAll_normalize] at h
  obtain ⟨o, ho, hentry⟩ := List.mem_filterMap.1 h
  obtain ⟨origin, -, horigin⟩ := List.mem_filterMap.1 ho
  obtain ⟨kept, hkept, rfl⟩ := Option.map_eq_some_iff.1 horigin
  cases kept with
  | other => cases hentry
  | element tag attrs children => simp [Occurrence.entry?, Label.ofElement] at hentry
  | text t =>
    simp only [Occurrence.entry?, Option.ite_none_right_eq_some, Option.some.injEq, Prod.mk.injEq,
      Label.value.injEq] at hentry
    exact ⟨t, isTrimmed_of_normalize hkept, hentry.2.2.symm⟩

/-- The properties of a form come from attributes with a value. -/
theorem property_of_mem_keptEntries {nodes : List Node} {level : Nat} {tag : String}
    {props : List Property} (h : (level, .form tag props) ∈ keptEntries nodes) :
    ∀ p ∈ props, ∃ raw, raw ≠ "" ∧ p = .valued p.key (.infer raw) := by
  obtain ⟨⟨around, node⟩, -, hentry⟩ := List.mem_filterMap.1 h
  cases node with
  | other => cases hentry
  | text t => simp [Occurrence.entry?] at hentry
  | element tag attrs children =>
    simp only [Occurrence.entry?, Label.ofElement, Option.ite_none_right_eq_some,
      Option.some.injEq, Prod.mk.injEq, Label.form.injEq] at hentry
    obtain ⟨-, -, -, rfl⟩ := hentry
    intro p hp
    obtain ⟨a, ha, rfl⟩ := List.mem_map.1 hp
    exact ⟨a.value, by simpa using (List.mem_filter.1 ha).2, rfl⟩

/-! ## Definitions -/

/-- The items of a definition are those of its node. -/
theorem Defines.entries_eq {node : Node} {d : Definition} (h : Defines node d) :
    d.entries = keptEntries node.content := by
  cases h with
  | window attrs children =>
    rw [(yields_windowOf _).result_eq]
    exact entries_lowerAll [] (Nat.zero_le _) _
  | widget attrs children =>
    rw [(yields_widgetOf _).result_eq]
    exact entries_lowerAll [] (Nat.zero_le _) _

theorem exists_entries_eq {nodes : List Node} {d : Definition}
    (h : d ∈ (definitionsOf nodes).result) :
    ∃ node ∈ nodes, d.entries = keptEntries node.content := by
  obtain ⟨hlength, hdefines⟩ := List.forall₂_iff_get.1 (forall₂_defines_definitionsOf nodes)
  obtain ⟨i, rfl⟩ := List.get_of_mem h
  have hi := hdefines i (by rw [hlength]; exact i.2) i.2
  exact ⟨_, (List.mem_filter.1 (List.get_mem _ _)).1, hi.entries_eq⟩

/-- What is converted of a child of a normal form is a normal form. -/
theorem exists_content_eq {nodes : List Node} {kept : Node} (h : kept ∈ normalizeAll nodes) :
    ∃ more, kept.content = normalizeAll more := by
  obtain ⟨node, -, hnode⟩ := mem_normalizeAll_iff.1 h
  cases kept with
  | text | other => exact ⟨[], rfl⟩
  | element tag attrs children =>
    obtain ⟨more, rfl⟩ := exists_children_eq hnode
    rw [Node.content]
    split_ifs
    · exact ⟨_, filter_normalizeAll more⟩
    · exact ⟨more, rfl⟩
    · exact ⟨[], rfl⟩

/-- The body of a normal form holds a normal form. -/
theorem exists_children_eq_of_findBody {document : Document} {body : Element}
    (h : findBody document.normalize = .ok body) :
    ∃ nodes, body.children = normalizeAll nodes := by
  rw [findBody_normalize] at h
  cases horigin : findBody document with
  | error e =>
    rw [horigin] at h
    cases h
  | ok origin =>
    rw [horigin] at h
    obtain rfl := Except.ok.inj h
    exact ⟨origin.children, rfl⟩

theorem exists_entries_eq_of_findBody {document : Document} {body : Element}
    (h : findBody document.normalize = .ok body) {d : Definition}
    (hd : d ∈ (definitions body).result) :
    ∃ nodes, d.entries = keptEntries (normalizeAll nodes) := by
  obtain ⟨nodes, hnodes⟩ := exists_children_eq_of_findBody h
  obtain ⟨node, hnode, hentries⟩ := exists_entries_eq hd
  obtain ⟨more, hmore⟩ := exists_content_eq (hnodes ▸ hnode)
  exact ⟨more, hmore ▸ hentries⟩

/-! ## Diagnostics -/

/-- No other warning is worded like the one about a text directly inside the body. -/
theorem eq_strayText_of_message {notice : Notice} {t : String}
    (h : notice.message = (Notice.strayText t).message) : notice = .strayText t := by
  have hinitial := Notice.initial_eq h
  cases notice with
  | strayText s =>
    have hs : "skipping top-level text \"" ++ s ++ "\"" =
        "skipping top-level text \"" ++ t ++ "\"" := h
    rw [String.append_left_inj, String.append_right_inj] at hs
    rw [hs]
  | strayOther =>
    -- the messages differ behind the words that they share
    have hs := congrArg (fun message : String => (message.toList.drop 19).head?) h
    have ht : ((Notice.strayText t).message.toList.drop 19).head? = some 't' := by
      change (("skipping top-level text \"" ++ t ++ "\"").toList.drop 19).head? = some 't'
      rw [String.toList_append, String.toList_append]
      rfl
    rw [ht] at hs
    exact absurd hs (by decide)
  | _ => simp [Notice.initial] at hinitial

/-- Only a text directly inside the body is reported as such. -/
theorem eq_text_of_notice? {child : Node} {pos : Position} {node : Node} {t : String}
    (h : child.notice? pos node = some (.strayText t)) : child = .text t := by
  have hdepth : ∀ depth, node.depthNotice? depth ≠ some (.strayText t) := by
    intro depth hnotice
    cases node with
    | text | other => cases hnotice
    | element tag attrs children =>
      rw [Node.depthNotice?] at hnotice
      split_ifs at hnotice <;> cases hnotice
  cases child with
  | text content =>
    cases pos with
    | nil =>
      obtain rfl : content = t := by simpa [Node.notice?, Node.ownNotice?] using h
      rfl
    | cons i pos => cases h
  | other => cases pos <;> cases h
  | element tag attrs children =>
    cases pos with
    | nil =>
      rw [Node.notice?, Node.ownNotice?] at h
      split_ifs at h <;> cases h
    | cons i pos =>
      rw [Node.notice?] at h
      split_ifs at h
      · rw [windowNotice?] at h
        split_ifs at h
        · cases h
        · exact absurd h (hdepth _)
      · exact absurd h (hdepth _)

/-- A text that is reported stands directly inside the body. -/
theorem mem_of_strayText {nodes : List Node} {d : Diagnostic} {t : String}
    (h : d ∈ (definitionsOf nodes).diagnostics)
    (hmessage : d.message = (Notice.strayText t).message) : .text t ∈ nodes := by
  rw [diagnostics_definitionsOf] at h
  obtain ⟨notice, hnotice, rfl⟩ := List.mem_map.1 h
  obtain ⟨child, hchild, hnotice⟩ := List.mem_flatMap.1 hnotice
  obtain ⟨⟨pos, node⟩, -, hnotice⟩ := List.mem_filterMap.1 hnotice
  obtain rfl := eq_strayText_of_message hmessage
  exact eq_text_of_notice? hnotice ▸ hchild

/-- **Blanks never get into definitions.**  Every value in the definitions of a document, however
    deep it stands, comes from a text that is not empty and has no blank at either end; so a
    value that is a string is such a text itself.  Every property of a form comes from a text
    that is not empty.  No diagnostic quotes a stray text that is empty or has a blank at either
    end. -/
theorem convertDocument_trimmed {document : Document} {sink : Sink} {text : String}
    (h : ((convertDocument document).run sink).1 = .ok text) :
    ∃ body defs ds,
      findBody document.normalize = .ok body ∧
      (definitions body).run sink = (defs, sink.addAll ds) ∧
      (convertDocument document).run sink = (.ok text, sink.addAll ds) ∧ text = yuck defs ∧
      (∀ definition ∈ defs, ∀ level literal, (level, .value literal) ∈ definition.entries →
        (∃ t, IsTrimmed t ∧ literal = .infer t) ∧
        ∀ s, literal = .str s → IsTrimmed s ∧ ∃ c ∈ s.toList, isBlank c = false) ∧
      (∀ definition ∈ defs, ∀ level tag props, (level, .form tag props) ∈ definition.entries →
        ∀ p ∈ props, ∃ raw, raw ≠ "" ∧ p = .valued p.key (.infer raw)) ∧
      ∀ d ∈ ds, ∀ t, d.message = "skipping top-level text \"" ++ t ++ "\"" → IsTrimmed t := by
  have hrun := yields_convertDocument document sink
  cases hbody : findBody document.normalize with
  | error e =>
    rw [hrun, hbody] at h
    cases h
  | ok body =>
    simp only [hbody] at hrun
    rw [hrun] at h
    obtain rfl := Except.ok.inj h
    refine ⟨body, (definitions body).result, (definitions body).diagnostics, rfl,
      appendOnly_definitions body sink, hrun, rfl, ?_, ?_, ?_⟩
    · intro definition hmem level literal hvalue
      obtain ⟨nodes, hentries⟩ := exists_entries_eq_of_findBody hbody hmem
      obtain ⟨t, ht, rfl⟩ := value_of_mem_keptEntries (hentries ▸ hvalue)
      refine ⟨⟨t, ht, rfl⟩, fun s hs => ?_⟩
      have hstands := Literal.standsFor_infer t
      rw [hs] at hstands
      obtain rfl : s = t := hstands.1
      exact ⟨ht, ht.exists_not_blank⟩
    · intro definition hmem level tag props hform
      obtain ⟨nodes, hentries⟩ := exists_entries_eq_of_findBody hbody hmem
      exact property_of_mem_keptEntries (hentries ▸ hform)
    · intro d hd t hmessage
      obtain ⟨nodes, hnodes⟩ := exists_children_eq_of_findBody hbody
      have hmem := mem_of_strayText hd hmessage
      rw [hnodes] at hmem
      exact isTrimmed_of_mem_normalizeAll hmem

/-- A document with blanks around its texts and an attribute without a value. -/
def padded : Document :=
  [.element "html" [] [.element "body" [] [.text " stray\n",
    .element "widget" [⟨"name", "v"⟩] [.text "\n  ",
      .element "box" [⟨"a", ""⟩, ⟨"b", "1"⟩] [.text "\tsome text "]]]]]

/-- Its one value, its one property and its one diagnostic. -/
theorem convertDocument_trimmed_padded :
    ((convertDocument padded).run {}).1 = .ok (header ++
      "\n\n(defwidget v []\n    (box\n      :b 1 \"some text\"))\n") ∧
    IsTrimmed "some text" ∧
    (∃ raw, raw ≠ "" ∧ Property.valued "b" (.int "1") = .valued "b" (.infer raw)) ∧
    IsTrimmed "stray" := by
  have hok : ((convertDocument padded).run {}).1 = .ok (header ++
      "\n\n(defwidget v []\n    (box\n      :b 1 \"some text\"))\n") := by decide +kernel
  obtain ⟨body, defs, ds, hbody, hdefs, -, -, hvalues, hprops, hstray⟩ :=
    convertDocument_trimmed hok
  obtain rfl := Except.ok.inj (hbody.symm.trans (rfl : findBody padded.normalize = .ok _))
  have hds : [(Notice.strayText "stray").diagnostic] = _ :=
    congrArg (fun result => result.2.toList) hdefs
  rw [Sink.toList_addAll, Sink.toList_empty, List.nil_append] at hds
  obtain rfl := congrArg Prod.fst hdefs
  have hmem : Definition.widget ⟨"v", [], [.form "box" [.valued "b" (.int "1")]
    [.value (.str "some text")]]⟩ ∈ _ := List.mem_singleton_self _
  have hvalue := hvalues _ hmem 1 (.str "some text") (.tail _ (.head _))
  have hprop := hprops _ hmem 0 "box" _ (.head _) _ (List.mem_singleton_self _)
  have hnotice : (Notice.strayText "stray").diagnostic ∈ ds := hds ▸ List.mem_singleton_self _
  exact ⟨hok, (hvalue.2 _ rfl).1, hprop, hstray _ hnotice _ rfl⟩

end WidgetMarkup
