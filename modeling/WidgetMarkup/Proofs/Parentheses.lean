/-
  The parentheses of a text.

  The text of definitions is made of texts without parentheses, of the strings in the
  definitions as they stand, and of pairs of parentheses around parts of it (`Composed`):
  one pair for each definition, each geometry block and each form.  All that is said about
  parentheses follows from this.

  * `Composed.count_eq`: there are as many parentheses of each kind as there are pairs, and
    those inside the strings.
  * `Composed.isBalanced`: balanced strings give a balanced text.
  * `parentheses_yuck`: what this means for a file and for the definitions in it.
-/
import Mathlib.Algebra.Ring.Nat
import Mathlib.Data.List.Infix
import WidgetMarkup.Proofs.Completeness
import WidgetMarkup.Proofs.Layout

namespace WidgetMarkup

open Yuck

/-! ## Strings and pairs of a definition -/

/-- The strings of a property that stand in its text: the key and the value. -/
def Yuck.Property.strings (p : Property) : List String :=
  p.key :: (p.value.map Literal.text).toList

/-- The strings that an item shows apart from its children. -/
def Label.strings : Label → List String
  | .form tag props => tag :: props.flatMap Property.strings
  | .value literal => [literal.text]

def Label.isForm : Label → Bool
  | .form _ _ => true
  | .value _ => false

/-- The strings that stand in the text of a definition, in order. -/
def Yuck.Definition.strings (d : Definition) : List String :=
  (match d with
    | .window w =>
      w.name :: (w.props.flatMap Property.strings ++ (w.geometry.getD []).flatMap Property.strings)
    | .widget w => w.name :: w.fields) ++
  d.entries.flatMap fun e => e.2.strings

def Yuck.Definition.hasGeometry : Definition → Bool
  | .window w => w.geometry.isSome
  | .widget _ => false

/-! ## Depth -/

/-- The nesting depth behind some characters: their opening parentheses less the closing
    ones. -/
def depthBehind (cs : List Char) : Int :=
  cs.count '(' - cs.count ')'

theorem depthBehind_append (cs ds : List Char) :
    depthBehind (cs ++ ds) = depthBehind cs + depthBehind ds := by
  simp only [depthBehind, List.count_append]
  omega

/-- A balanced text: nothing is closed before it is opened, and at the end all is closed. -/
structure IsBalanced (s : String) : Prop where
  nonneg : ∀ p, p <+: s.toList → 0 ≤ depthBehind p
  closed : depthBehind s.toList = 0

instance (s : String) : Decidable (IsBalanced s) :=
  decidable_of_iff ((∀ p ∈ s.toList.inits, 0 ≤ depthBehind p) ∧ depthBehind s.toList = 0)
    ⟨fun h => ⟨fun p hp => h.1 p ((List.mem_inits p s.toList).2 hp), h.2⟩,
      fun h => ⟨fun p hp => h.nonneg p ((List.mem_inits p s.toList).1 hp), h.closed⟩⟩

theorem IsBalanced.append {s t : String} (hs : IsBalanced s) (ht : IsBalanced t) :
    IsBalanced (s ++ t) where
  nonneg := by
    rintro p ⟨rest, hrest⟩
    rw [String.toList_append] at hrest
    rcases List.append_eq_append_iff.1 hrest with ⟨more, hmore, -⟩ | ⟨q, rfl, hq⟩
    · exact hs.nonneg p ⟨more, hmore.symm⟩
    · rw [depthBehind_append, hs.closed, Int.zero_add]
      exact ht.nonneg q ⟨rest, hq.symm⟩
  closed := by rw [String.toList_append, depthBehind_append, hs.closed, ht.closed, Int.zero_add]

theorem toList_pair (s : String) : ("(" ++ s ++ ")").toList = '(' :: (s.toList ++ [')']) := by
  simp

/-- Between its first and its last character a pair around a balanced text is open. -/
theorem IsBalanced.depthBehind_pos {s : String} (hs : IsBalanced s) {p : List Char}
    (hp : p <+: ("(" ++ s ++ ")").toList) (hne : p ≠ []) (hlast : p ≠ ("(" ++ s ++ ")").toList) :
    0 < depthBehind p := by
  have hopen : depthBehind ['('] = 1 := by decide
  rw [toList_pair] at hp hlast
  rcases List.prefix_cons_iff.1 hp with rfl | ⟨q, rfl, hq⟩
  · exact absurd rfl hne
  · rcases List.prefix_concat_iff.1 hq with rfl | hq
    · exact absurd rfl hlast
    · have hinside := hs.nonneg q hq
      rw [← List.singleton_append, depthBehind_append, hopen]
      omega

theorem IsBalanced.pair {s : String} (hs : IsBalanced s) : IsBalanced ("(" ++ s ++ ")") := by
  have hclosed : depthBehind ("(" ++ s ++ ")").toList = 0 := by
    have hopen : depthBehind ['('] = 1 := by decide
    have hclose : depthBehind [')'] = -1 := by decide
    rw [toList_pair, ← List.singleton_append, depthBehind_append, depthBehind_append, hs.closed,
      hopen, hclose]
    rfl
  refine ⟨fun p hp => ?_, hclosed⟩
  by_cases hne : p = []
  · rw [hne]
    decide
  by_cases hlast : p = ("(" ++ s ++ ")").toList
  · exact Int.le_of_eq (hlast ▸ hclosed.symm)
  · exact Int.le_of_lt (hs.depthBehind_pos hp hne hlast)

/-! ## What a text is made of -/

/-- Whether a text has no parentheses. -/
def isFlat (s : String) : Bool :=
  s.toList.all fun c => c != '(' && c != ')'

/-- A text made of texts without parentheses, of `strings` as they stand, in order, and of
    `pairs` pairs of parentheses around parts of it. -/
inductive Composed : (pairs : Nat) → (strings : List String) → (text : String) → Prop where
  | flat {s : String} (h : isFlat s) : Composed 0 [] s
  | string (s : String) : Composed 0 [s] s
  | append {m n : Nat} {us vs : List String} {s t : String} (hs : Composed m us s)
      (ht : Composed n vs t) : Composed (m + n) (us ++ vs) (s ++ t)
  | pair {n : Nat} {us : List String} {s : String} (h : Composed n us s) :
      Composed (n + 1) us ("(" ++ s ++ ")")

namespace Composed

variable {n : Nat} {us : List String} {s : String}

theorem count_flat (h : isFlat s) {c : Char} (hc : c = '(' ∨ c = ')') : s.toList.count c = 0 := by
  refine List.count_eq_zero.2 fun hmem => ?_
  have hflat := List.all_eq_true.1 h c hmem
  rcases hc with rfl | rfl <;> cases hflat

/-- **The parentheses of a text are its pairs and those of its strings.** -/
theorem count_eq (h : Composed n us s) {c : Char} (hc : c = '(' ∨ c = ')') :
    s.toList.count c = n + (us.map fun u => u.toList.count c).sum := by
  induction h with
  | flat hflat => simpa using count_flat hflat hc
  | string s => simp
  | append _ _ ihs iht =>
    rw [String.toList_append, List.count_append, ihs, iht, List.map_append, List.sum_append]
    omega
  | pair _ ih =>
    -- one of the two characters is the one that is counted
    have hone : ['('].count c + [')'].count c = 1 := by rcases hc with rfl | rfl <;> rfl
    rw [toList_pair, ← List.singleton_append, List.count_append, List.count_append, ih]
    omega

/-- **A text with balanced strings is balanced.** -/
theorem isBalanced (h : Composed n us s) (hus : ∀ u ∈ us, IsBalanced u) : IsBalanced s := by
  induction h with
  | @flat s hflat =>
    have hdepth : ∀ p, p <+: s.toList → depthBehind p = 0 := by
      intro p hp
      have hzero : ∀ c, c = '(' ∨ c = ')' → p.count c = 0 := fun c hc =>
        Nat.le_zero.1 (count_flat hflat hc ▸ hp.sublist.count_le c)
      rw [depthBehind, hzero '(' (.inl rfl), hzero ')' (.inr rfl)]
      rfl
    exact ⟨fun p hp => Int.le_of_eq (hdepth p hp).symm, hdepth _ (List.prefix_refl _)⟩
  | string s => exact hus s (List.mem_singleton_self s)
  | append _ _ ihs iht =>
    rw [List.forall_mem_append] at hus
    exact (ihs hus.1).append (iht hus.2)
  | pair _ ih => exact (ih hus).pair

theorem behind {t : String} (ht : isFlat t) (h : Composed n us s) : Composed n us (t ++ s) := by
  have h := (flat ht).append h
  rwa [Nat.zero_add, List.nil_append] at h

theorem before {t : String} (h : Composed n us s) (ht : isFlat t) : Composed n us (s ++ t) := by
  have h := h.append (flat ht)
  rwa [Nat.add_zero, List.append_nil] at h

section
variable {α : Type} {f : α → String} {pairs : α → Nat} {strings : α → List String}

/-- Pieces one after the other. -/
theorem join (h : ∀ x, Composed (pairs x) (strings x) (f x)) (xs : List α) :
    Composed (xs.map pairs).sum (xs.flatMap strings) (String.join (xs.map f)) := by
  induction xs with
  | nil => exact flat rfl
  | cons x xs ih =>
    rw [List.map_cons, List.map_cons, List.sum_cons, List.flatMap_cons, String.join_cons]
    exact (h x).append ih

/-- Pieces with a separator between them. -/
theorem intercalate (separator : String) (hseparator : isFlat separator)
    (h : ∀ x, Composed (pairs x) (strings x) (f x)) (xs : List α) :
    Composed (xs.map pairs).sum (xs.flatMap strings) (separator.intercalate (xs.map f)) := by
  induction xs with
  | nil => exact flat rfl
  | cons x xs ih =>
    cases xs with
    | nil => simpa using h x
    | cons y ys =>
      have heq : separator.intercalate ((x :: y :: ys).map f) =
          f x ++ (separator ++ separator.intercalate ((y :: ys).map f)) := by
        rw [List.map_cons, List.map_cons, String.intercalate_cons_cons, String.append_assoc]
      rw [heq]
      exact (h x).append (ih.behind hseparator)

end

end Composed

/-! ## Properties and items -/

theorem isFlat_lineStart (level : Nat) : isFlat (lineStart level) := by
  have hspace : (' ' != '(' && ' ' != ')') = true := rfl
  simp only [isFlat, lineStart, String.toList_append, String.toList_ofList, List.all_append,
    List.all_replicate, hspace, ite_self, Bool.and_true]
  rfl

theorem composed_property (p : Property) : Composed 0 p.strings p.layout := by
  obtain ⟨key, value⟩ := p
  cases value with
  | none => exact (Composed.string key).behind rfl
  | some literal =>
    exact (((Composed.string key).behind rfl).before rfl).append (.string literal.text)

/-- Properties have no parentheses but those of their strings. -/
theorem composed_lines (level : Nat) (props : List Property) :
    Composed 0 (props.flatMap Property.strings)
      (String.join (props.map fun p => lineStart level ++ p.layout)) := by
  have h := Composed.join (fun p => (composed_property p).behind (isFlat_lineStart level)) props
  simpa using h

theorem composed_geometry (props : List Property) :
    Composed 1 (props.flatMap Property.strings) (geometryLayout props) := by
  have hprops := Composed.intercalate "\n  " rfl composed_property props
  have h := ((hprops.behind (t := "geometry ") rfl).pair).behind (t := ":geometry ") rfl
  have heq : geometryLayout props = ":geometry " ++ ("(" ++ ("geometry " ++
      "\n  ".intercalate (props.map Property.layout)) ++ ")") := by
    simp only [geometryLayout_def, ← String.append_assoc]
    rfl
  rw [heq]
  simpa using h

mutual
/-- **A form has one pair**, behind the start of its line and around all that is in it. -/
theorem composed_item (level n : Nat) : (i : Item) →
    Composed ((i.entries n).countP fun e => e.2.isForm)
      ((i.entries n).flatMap fun e => e.2.strings) (i.layout level)
  | .value literal => (Composed.string literal.text).behind rfl
  | .form tag props children => by
    have hinside := ((Composed.string tag).append (composed_lines (level + 1) props)).append
      (composed_items (level + 1) (n + 1) children)
    have h := hinside.pair.behind (isFlat_lineStart level)
    simpa [Item.entries, Item.layout, Label.isForm, Label.strings, String.append_assoc] using h

theorem composed_items (level n : Nat) : (is : List Item) →
    Composed ((entriesAll n is).countP fun e => e.2.isForm)
      ((entriesAll n is).flatMap fun e => e.2.strings) (itemsLayout level is)
  | [] => .flat rfl
  | i :: is => by
    rw [entriesAll, itemsLayout, List.countP_append, List.flatMap_append]
    exact (composed_item level n i).append (composed_items level n is)
end

/-! ## Definitions -/

theorem composed_name (name : String) : Composed 0 [name] (nameLayout name) := by
  unfold nameLayout
  split
  next hempty =>
    obtain rfl : name = "" := by simpa using hempty
    exact .string ""
  · exact (Composed.string name).behind rfl

/-- The pairs inside the one around a definition. -/
def Yuck.Definition.innerPairs (d : Definition) : Nat :=
  d.hasGeometry.toNat + d.entries.countP fun e => e.2.isForm

/-- **A definition has one pair around all of it.** -/
theorem exists_inside (d : Definition) :
    ∃ inside, d.layout = "(" ++ inside ++ ")" ∧ Composed d.innerPairs d.strings inside := by
  cases d with
  | window w =>
    have hgeometry : Composed w.geometry.isSome.toNat
        ((w.geometry.getD []).flatMap Property.strings)
        ((w.geometry.map fun g => lineStart windowLevel ++ geometryLayout g).getD "") := by
      cases w.geometry with
      | none => exact .flat rfl
      | some g => exact (composed_geometry g).behind (isFlat_lineStart windowLevel)
    have h := ((((composed_name w.name).append (composed_lines windowLevel w.props)).append
      hgeometry).append (composed_items windowLevel 0 w.children)).behind (t := "defwindow") rfl
    refine ⟨"defwindow" ++ (nameLayout w.name ++
      String.join (w.props.map fun p => lineStart windowLevel ++ p.layout) ++
      (w.geometry.map fun g => lineStart windowLevel ++ geometryLayout g).getD "" ++
      itemsLayout windowLevel w.children), ?_, ?_⟩
    · simp only [Definition.layout, Window.layout_eq, ← String.append_assoc]
      rfl
    · simpa [Definition.innerPairs, Definition.hasGeometry, Definition.strings,
        Definition.entries] using h
  | widget w =>
    have hfields := Composed.intercalate " " rfl Composed.string w.fields
    have hhead := ((composed_name w.name).before (t := " [") rfl).append hfields
    have h := ((hhead.before (t := "]") rfl).append (composed_items widgetLevel 0 w.body)).behind
      (t := "defwidget") rfl
    refine ⟨"defwidget" ++ (nameLayout w.name ++ " [" ++ " ".intercalate w.fields ++ "]" ++
      itemsLayout widgetLevel w.body), ?_, ?_⟩
    · simp only [Definition.layout, Widget.layout_eq, ← String.append_assoc]
      rfl
    · simpa [Definition.innerPairs, Definition.hasGeometry, Definition.strings,
        Definition.entries] using h

/-- The pairs of definitions: one for each of them, for each geometry block and each form. -/
theorem sum_pairs (ds : List Definition) :
    (ds.map fun d => d.innerPairs + 1).sum =
      ds.length + ds.countP Definition.hasGeometry +
        (ds.flatMap Definition.entries).countP fun e => e.2.isForm := by
  induction ds with
  | nil => rfl
  | cons d ds ih =>
    rw [List.map_cons, List.sum_cons, ih, List.length_cons, List.countP_cons, List.flatMap_cons,
      List.countP_append, Definition.innerPairs]
    cases d.hasGeometry <;> simp <;> omega

theorem composed_yuck (ds : List Definition) :
    Composed (ds.length + ds.countP Definition.hasGeometry +
        (ds.flatMap Definition.entries).countP fun e => e.2.isForm)
      (ds.flatMap Definition.strings) (yuck ds) := by
  have hdefinition (d : Definition) :
      Composed (d.innerPairs + 1) d.strings (d.layout ++ "\n") := by
    obtain ⟨inside, hlayout, hinside⟩ := exists_inside d
    rw [hlayout]
    exact hinside.pair.before rfl
  rw [yuck_eq, ← sum_pairs]
  exact (Composed.intercalate "\n" rfl hdefinition ds).behind (by decide)

/-- Where a definition stands in the text of a file. -/
theorem exists_yuck_eq (before : List Definition) (d : Definition) (after : List Definition) :
    ∃ rest, yuck (before ++ d :: after) =
      yuck before ++ (if before.isEmpty then "" else "\n") ++ d.layout ++ "\n" ++ rest := by
  obtain ⟨rest, hrest⟩ : ∃ rest, "\n".intercalate ((d :: after).map fun d => d.layout ++ "\n") =
      d.layout ++ "\n" ++ rest := by
    cases after with
    | nil => exact ⟨"", by simp⟩
    | cons e after =>
      refine ⟨"\n" ++ "\n".intercalate ((e :: after).map fun d => d.layout ++ "\n"), ?_⟩
      rw [List.map_cons, List.map_cons, String.intercalate_cons_cons, String.append_assoc]
  refine ⟨rest, ?_⟩
  cases before with
  | nil =>
    rw [List.nil_append, yuck_eq, yuck_eq, hrest]
    simp [String.append_assoc]
  | cons b before =>
    rw [yuck_append (List.cons_ne_nil b before) (List.cons_ne_nil d after), hrest]
    simp [String.append_assoc]

/-- **The parentheses of a file.**  There are as many of each kind as there are definitions,
    geometry blocks and forms, and in the strings of the definitions.  If each of these strings
    is balanced, nothing in the file is closed before it is opened; and the depth at the end of
    a definition is 0, but nowhere else behind the parenthesis that opens it. -/
theorem parentheses_yuck (ds : List Definition) :
    (∀ c, c = '(' ∨ c = ')' →
      (yuck ds).toList.count c =
        ds.length + ds.countP Definition.hasGeometry +
          (ds.flatMap Definition.entries).countP (fun e => e.2.isForm) +
          ((ds.flatMap Definition.strings).map fun s => s.toList.count c).sum) ∧
    ((∀ d ∈ ds, ∀ s ∈ d.strings, IsBalanced s) →
      (∀ p, p <+: (yuck ds).toList → 0 ≤ depthBehind p) ∧
      ∀ before d after, ds = before ++ d :: after → ∃ start rest,
        start = yuck before ++ (if before.isEmpty then "" else "\n") ∧
        yuck ds = start ++ d.layout ++ "\n" ++ rest ∧
        d.layout.toList.head? = some '(' ∧
        depthBehind (start ++ d.layout).toList = 0 ∧
        ∀ p, p <+: d.layout.toList → p ≠ [] → p ≠ d.layout.toList →
          0 < depthBehind (start.toList ++ p)) := by
  refine ⟨fun c hc => (composed_yuck ds).count_eq hc, fun hstrings => ?_⟩
  have hbalanced : ∀ es : List Definition, es ⊆ ds → ∀ s ∈ es.flatMap Definition.strings,
      IsBalanced s := by
    intro es hes s hs
    obtain ⟨d, hd, hs⟩ := List.mem_flatMap.1 hs
    exact hstrings d (hes hd) s hs
  refine ⟨((composed_yuck ds).isBalanced (hbalanced ds (List.Subset.refl ds))).nonneg, ?_⟩
  rintro before d after rfl
  obtain ⟨rest, hrest⟩ := exists_yuck_eq before d after
  obtain ⟨inside, hlayout, hinside⟩ := exists_inside d
  have hinside := hinside.isBalanced (hstrings d (by simp))
  have hstart : IsBalanced (yuck before ++ if before.isEmpty then "" else "\n") := by
    have hbefore := (composed_yuck before).isBalanced (hbalanced before (by simp))
    split
    · exact hbefore.append (by decide)
    · exact hbefore.append (by decide)
  refine ⟨_, rest, rfl, hrest, by rw [hlayout, toList_pair]; rfl, ?_, fun p hp hne hlast => ?_⟩
  · rw [hlayout]
    exact (hstart.append hinside.pair).closed
  · rw [hlayout] at hp hlast
    rw [depthBehind_append, hstart.closed, Int.zero_add]
    exact hinside.depthBehind_pos hp hne hlast

/-- A window with a geometry block and a call, and a widget with a form inside a form. -/
def nestedDefinitions : List Definition :=
  [.window ⟨"w", [.valued "size" (.call "(f (g))")], some [.valued "x" (.str "1")], []⟩,
    .widget ⟨"v", ["a"], [.form "box" [] [.form "label" [.flag "on"] [.value (.str "(or)")]]]⟩]

/-- Five pairs and three more in the strings, and the depth inside and behind the widget. -/
theorem parentheses_yuck_nested :
    (yuck nestedDefinitions).toList.count '(' = 5 + 3 ∧
    (∀ d ∈ nestedDefinitions, ∀ s ∈ d.strings, IsBalanced s) ∧
    (∀ p, p <+: (yuck nestedDefinitions).toList → 0 ≤ depthBehind p) ∧
    ∃ first widget start rest, nestedDefinitions = [first, widget] ∧ start = yuck [first] ++ "\n" ∧
      yuck nestedDefinitions = start ++ widget.layout ++ "\n" ++ rest ∧
      depthBehind (start ++ widget.layout).toList = 0 ∧
      0 < depthBehind (start.toList ++ ['(']) := by
  obtain ⟨hcount, hbalanced⟩ := parentheses_yuck nestedDefinitions
  have hstrings : ∀ d ∈ nestedDefinitions, ∀ s ∈ d.strings, IsBalanced s := by decide
  obtain ⟨hnonneg, hplace⟩ := hbalanced hstrings
  obtain ⟨start, rest, hstart, hyuck, -, hend, hinside⟩ := hplace [_] _ [] rfl
  refine ⟨(hcount '(' (.inl rfl)).trans (by decide), hstrings, hnonneg, _, _, start, rest, rfl,
    hstart, hyuck, hend, hinside ['('] ?_ (by decide) (by decide)⟩
  exact ⟨_, rfl⟩

end WidgetMarkup
