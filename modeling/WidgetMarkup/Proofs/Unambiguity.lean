/-
  What a text tells about the definitions it was written from.

  Two lists of definitions with simple names and literals that come from documents and have
  the same text are the same, up to the folding of their windows (`yuck_eq_yuck_iff`).
-/
import WidgetMarkup.Proofs.Folding
import WidgetMarkup.Proofs.Lowering

namespace WidgetMarkup.Yuck

/-! ## Simple definitions -/

/-- A text without blanks, quotes, semicolons, colons and brackets. -/
def isName (s : String) : Bool :=
  isPlain s && !s.toList.contains ':'

/-- A name that is not empty. -/
def isKey (s : String) : Bool :=
  !s.isEmpty && isName s

/-- An integer, a truth value or a string without a quote. -/
def Literal.isSimple : Literal → Bool
  | .int _ | .bool _ => true
  | .str content => !content.toList.contains '"'
  | .expr _ | .call _ | .list _ => false

def Property.isSimple (p : Property) : Bool :=
  isKey p.key && p.value.all Literal.isSimple

/-- Simple literals, and names for fields, tags and keys; the name of a definition may be
    empty. -/
def simple : Vocabulary where
  name := isName
  word := isKey
  windowProperty := Property.isSimple
  property := Property.isSimple
  literal := Literal.isSimple

/-! ## What documents give -/

theorem isIdentifier_of_isKey {s : String} (h : isKey s) : isIdentifier s := by
  obtain ⟨hne, hname⟩ := Bool.and_eq_true_iff.1 h
  exact Bool.and_eq_true_iff.2 ⟨hne, (Bool.and_eq_true_iff.1 hname).1⟩

/-- An inferred integer is a numeral. -/
theorem readInt?_of_infer {raw numeral : String} (h : Literal.infer raw = .int numeral) :
    (Numeral.readInt? numeral.toList).isSome := by
  unfold Literal.infer at h
  dsimp only at h
  split at h
  next hint =>
    obtain rfl : raw = numeral := Literal.int.inj h
    unfold Numeral.isInt64 at hint
    split at hint
    next n hn => rw [hn]; rfl
    · cases hint
  · split_ifs at h
    split at h
    · cases h
    · split at h <;> cases h

theorem isDecodable_infer {raw : String} (h : (Literal.infer raw).isSimple) :
    (Literal.infer raw).isDecodable := by
  cases hl : Literal.infer raw with
  | int numeral => exact readInt?_of_infer hl
  | bool b => rfl
  | str content => rwa [hl] at h
  | expr | call | list => rw [hl] at h; cases h

theorem isDecodable_formProperties {attrs : List Attribute}
    (h : (formProperties attrs).all Property.isSimple) :
    (formProperties attrs).all Property.isDecodable := by
  rw [List.all_eq_true] at h ⊢
  intro p hp
  have hsimple := h p hp
  obtain ⟨a, -, rfl⟩ := List.mem_map.1 hp
  obtain ⟨hkey, hvalue⟩ := Bool.and_eq_true_iff.1 hsimple
  exact Bool.and_eq_true_iff.2 ⟨isIdentifier_of_isKey hkey, isDecodable_infer hvalue⟩

mutual
/-- **Simple items of a document are decodable**: their properties have values and their
    integers are numerals. -/
theorem allOver_lower (depth : Nat) : (node : Node) → allOver simple (lower depth node).result →
    allOver decodable (lower depth node).result
  | .text content, h => by
    rw [result_lower_text] at h ⊢
    exact allOver_cons.2 ⟨isDecodable_infer (allOver_cons.1 h).1, rfl⟩
  | .other, _ => rfl
  | .element tag attrs children, h => by
    rw [result_lower_element] at h ⊢
    split_ifs at h ⊢
    · rfl
    · exact allOver_lowerAll (depth + 1) children h
    · obtain ⟨htag, hprops, hchildren⟩ := isOver_form.1 (allOver_cons.1 h).1
      have hform := isOver_form.2 ⟨isIdentifier_of_isKey htag, isDecodable_formProperties hprops,
        allOver_lowerAll (depth + 1) children hchildren⟩
      exact allOver_cons.2 ⟨hform, rfl⟩

theorem allOver_lowerAll (depth : Nat) : (nodes : List Node) →
    allOver simple (lowerAll depth nodes).result → allOver decodable (lowerAll depth nodes).result
  | [], _ => rfl
  | node :: nodes, h => by
    rw [result_lowerAll_cons] at h ⊢
    obtain ⟨hnode, hnodes⟩ := allOver_append.1 h
    exact allOver_append.2 ⟨allOver_lower depth node hnode, allOver_lowerAll depth nodes hnodes⟩
end

theorem isWindowProperty_windowProperty {a : Attribute} (h : (windowProperty a).isSimple) :
    (windowProperty a).isWindowProperty := by
  unfold windowProperty at h ⊢
  obtain ⟨hkey, hvalue⟩ := Bool.and_eq_true_iff.1 h
  split_ifs at hkey hvalue ⊢ with he
  · exact Bool.and_eq_true_iff.2 ⟨isIdentifier_of_isKey hkey, rfl⟩
  · have hfilled : (Literal.quoted a.value).isFilledString := by
      simpa [Literal.quoted, Literal.isFilledString] using he
    exact Bool.and_eq_true_iff.2 ⟨isIdentifier_of_isKey hkey,
      Bool.and_eq_true_iff.2 ⟨hvalue, hfilled⟩⟩

theorem isDecodable_geometryProperties {g : Element}
    (h : (geometryProperties g).all Property.isSimple) :
    (geometryProperties g).all Property.isDecodable := by
  rw [List.all_eq_true] at h ⊢
  intro p hp
  have hsimple := h p hp
  obtain ⟨a, -, rfl⟩ := List.mem_map.1 hp
  obtain ⟨hkey, hvalue⟩ := Bool.and_eq_true_iff.1 hsimple
  exact Bool.and_eq_true_iff.2 ⟨isIdentifier_of_isKey hkey, hvalue⟩

theorem isOver_windowOf {e : Element} (h : (Definition.window (windowOf e).result).isOver simple) :
    (Definition.window (windowOf e).result).isOver decodable := by
  rw [(yields_windowOf e).result_eq] at h ⊢
  obtain ⟨hname, hprops, hgeo, hchildren⟩ := isOver_window.1 h
  refine isOver_window.2 ⟨(Bool.and_eq_true_iff.1 hname).1, ?_, ?_, allOver_lowerAll 0 _ hchildren⟩
  · rw [List.all_eq_true] at hprops ⊢
    intro p hp
    have hsimple := hprops p hp
    obtain ⟨a, -, rfl⟩ := List.mem_map.1 hp
    exact isWindowProperty_windowProperty hsimple
  · cases hg : e.child? "geometry" with
    | none => rfl
    | some g =>
      rw [hg] at hgeo
      exact isDecodable_geometryProperties hgeo

theorem isOver_widgetOf {e : Element} (h : (Definition.widget (widgetOf e).result).isOver simple) :
    (Definition.widget (widgetOf e).result).isOver decodable := by
  rw [(yields_widgetOf e).result_eq] at h ⊢
  obtain ⟨hname, hfields, hbody⟩ := isOver_widget.1 h
  refine isOver_widget.2 ⟨(Bool.and_eq_true_iff.1 hname).1, ?_, allOver_lowerAll 0 _ hbody⟩
  rw [List.all_eq_true] at hfields ⊢
  exact fun f hf => isIdentifier_of_isKey (hfields f hf)

theorem isOver_definitionsOf {nodes : List Node}
    (h : (definitionsOf nodes).result.all (Definition.isOver simple)) :
    (definitionsOf nodes).result.all (Definition.isOver decodable) := by
  have hone : ∀ node, (definitionOf node).result.toList.all (Definition.isOver simple) →
      (definitionOf node).result.toList.all (Definition.isOver decodable) := by
    intro node hnode
    rw [(yields_definitionOf node).result_eq] at hnode ⊢
    cases node with
    | text | other => rfl
    | element tag attrs children =>
      dsimp only at hnode ⊢
      split_ifs at hnode ⊢
      · simpa using isOver_windowOf (by simpa using hnode)
      · simpa using isOver_widgetOf (by simpa using hnode)
      · rfl
  induction nodes with
  | nil => rfl
  | cons node nodes ih =>
    rw [result_definitionsOf_cons, List.all_append, Bool.and_eq_true] at h ⊢
    exact ⟨hone node h.1, ih h.2⟩

theorem isOver_definitions {body : Element} {sink : Sink}
    (h : ((definitions body).run sink).1.all (Definition.isOver simple)) :
    ((definitions body).run sink).1.all (Definition.isOver decodable) := by
  rw [(appendOnly_definitions body).run_fst] at h ⊢
  exact isOver_definitionsOf h

/-! ## Equal texts -/

/-- **What equal texts tell.**  If the definitions of two documents are simple, their texts
    are equal exactly if the definitions are equal once their loose windows are folded.  Hence
    definitions with no loose window among them have different texts if they are different. -/
theorem yuck_eq_yuck_iff (body body' : Element) (sink sink' : Sink) (ds ds' : List Definition)
    (hds : ((definitions body).run sink).1 = ds) (hds' : ((definitions body').run sink').1 = ds')
    (h : ds.all (Definition.isOver simple)) (h' : ds'.all (Definition.isOver simple)) :
    (yuck ds = yuck ds' ↔ ds.map Definition.folded = ds'.map Definition.folded) ∧
      ((∀ d ∈ ds ++ ds', d.isLoose = false) → yuck ds = yuck ds' → ds = ds') := by
  subst hds hds'
  have hiff := yuck_eq_iff_folded (isOver_definitions h) (isOver_definitions h')
  refine ⟨hiff, fun htight heq => ?_⟩
  have hfolded : ∀ ds : List Definition, (∀ d ∈ ds, d.isLoose = false) →
      ds.map Definition.folded = ds := by
    intro ds hds
    rw [List.map_congr_left fun d hd => folded_of_not_isLoose (hds d hd), List.map_id']
  have hmap := hiff.1 heq
  rwa [hfolded _ fun d hd => htight d (List.mem_append_left _ hd),
    hfolded _ fun d hd => htight d (List.mem_append_right _ hd)] at hmap

/-- A flag with a text behind it looks like a property with a value, unless a geometry block
    stands between them. -/
theorem yuck_eq_yuck_iff_flag_and_text :
    yuck [.window ⟨"n", [.flag "a"], none, [.value (.str "hello")]⟩] =
        yuck [.window ⟨"n", [.valued "a" (.str "hello")], none, []⟩] ∧
      yuck [.window ⟨"n", [.flag "a"], some [], [.value (.str "hello")]⟩] ≠
        yuck [.window ⟨"n", [.valued "a" (.str "hello")], some [], []⟩] := by
  refine ⟨(yuck_eq_yuck_iff
    ⟨"body", [], [.element "window" [⟨"name", "n"⟩, ⟨"a", ""⟩] [.text "hello"]]⟩
    ⟨"body", [], [.element "window" [⟨"name", "n"⟩, ⟨"a", "hello"⟩] []]⟩ {} {} _ _
    (by rfl) (by rfl) (by rfl) (by rfl)).1.2 rfl, fun heq => ?_⟩
  have hds := (yuck_eq_yuck_iff
    ⟨"body", [], [.element "window" [⟨"name", "n"⟩, ⟨"a", ""⟩]
      [.element "geometry" [] [], .text "hello"]]⟩
    ⟨"body", [], [.element "window" [⟨"name", "n"⟩, ⟨"a", "hello"⟩]
      [.element "geometry" [] []]]⟩ {} {} _ _
    (by rfl) (by rfl) (by rfl) (by rfl)).2 (by simp [Definition.isLoose, Window.fold?]) heq
  simp at hds

/-- Different definitions can have the same text. -/
theorem yuck_not_injective :
    ¬ ∀ (body body' : Element) (sink sink' : Sink) (ds ds' : List Definition),
      ((definitions body).run sink).1 = ds → ((definitions body').run sink').1 = ds' →
      ds.all (Definition.isOver simple) → ds'.all (Definition.isOver simple) →
      yuck ds = yuck ds' → ds = ds' := by
  intro h
  have heq := h ⟨"body", [], [.element "window" [⟨"name", "n"⟩, ⟨"a", ""⟩] [.text "hello"]]⟩
    ⟨"body", [], [.element "window" [⟨"name", "n"⟩, ⟨"a", "hello"⟩] []]⟩ {} {}
    [.window ⟨"n", [.flag "a"], none, [.value (.str "hello")]⟩]
    [.window ⟨"n", [.valued "a" (.str "hello")], none, []⟩] (by rfl) (by rfl) (by rfl) (by rfl)
    (by rfl)
  simp at heq

end WidgetMarkup.Yuck
