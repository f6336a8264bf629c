/-
  Windows that can be read in two ways.

  A value stands behind a space and so does a name or the value of a property.  Hence the
  first item of a window without a geometry block can look like the name of the window, if
  it has neither a name nor properties, or like the value of its last property, if that is
  a flag; `Window.fold?` reads the window that way.  Nothing else can be confused: the text
  of a definition that cannot be folded can be taken off the front of a longer text
  (`definition_cancel`).
-/
import WidgetMarkup.Proofs.Cancellation

namespace WidgetMarkup.Yuck

/-! ## Windows that can be read in two ways -/

/-- An integer or truth value: its text is a word. -/
def Literal.isWord : Literal → Bool
  | .int _ | .bool _ => true
  | .expr _ | .call _ | .list _ | .str _ => false

/-- The other window with the same text, if there is one: the first item becomes the name
    of the window or the value of its last property. -/
def Window.fold? (d : Window) : Option Window :=
  match d.geometry, d.children with
  | none, .value l :: rest =>
    match d.props.getLast? with
    | none =>
      if d.name.isEmpty && l.isWord then some { d with name := l.text, children := rest } else none
    | some p =>
      if p.value.isNone && l.isFilledString then
        some { d with props := d.props.dropLast ++ [.valued p.key l], children := rest }
      else none
  | _, _ => none

/-- Whether a definition is a window that begins with an item that can be folded. -/
def Definition.isLoose : Definition → Bool
  | .window d => d.fold?.isSome
  | .widget _ => false

/-- The definition with its first item folded, if that is possible. -/
def Definition.folded : Definition → Definition
  | .window d => .window (d.fold?.getD d)
  | .widget d => .widget d

/-- What folding does. -/
theorem Window.fold?_cases {d d' : Window} (h : d.fold? = some d') :
    (∃ l rest, l.isWord ∧ d = ⟨"", [], none, .value l :: rest⟩ ∧ d' = ⟨l.text, [], none, rest⟩) ∨
      ∃ name props key s rest, s ≠ "" ∧
        d = ⟨name, props ++ [.flag key], none, .value (.str s) :: rest⟩ ∧
        d' = ⟨name, props ++ [.valued key (.str s)], none, rest⟩ := by
  obtain ⟨name, props, geometry, children⟩ := d
  unfold fold? at h
  split at h
  next l rest hg hc =>
    obtain rfl : geometry = none := hg
    obtain rfl : children = .value l :: rest := hc
    rcases List.eq_nil_or_concat props with rfl | ⟨props, p, rfl⟩
    · simp only [List.getLast?_nil, Option.ite_none_right_eq_some, Bool.and_eq_true,
        Option.some.injEq] at h
      obtain ⟨⟨hn, hl⟩, rfl⟩ := h
      obtain rfl : name = "" := by simpa using hn
      exact Or.inl ⟨l, rest, hl, rfl, rfl⟩
    · simp only [List.concat_eq_append, List.getLast?_concat, Option.ite_none_right_eq_some,
        Bool.and_eq_true, Option.some.injEq, List.dropLast_concat] at h
      obtain ⟨⟨hp, hl⟩, rfl⟩ := h
      obtain ⟨key, value⟩ := p
      obtain rfl : value = none := by simpa using hp
      cases l with
      | str s =>
        exact Or.inr ⟨name, props, key, s, rest, by simpa [Literal.isFilledString] using hl,
          by simp [Property.flag], rfl⟩
      | _ => cases hl
  · cases h

/-! ## Folding and texts -/

theorem isIdentifier_text_of_isWord {l : Literal} (h : l.isDecodable) (hw : l.isWord) :
    isIdentifier l.text :=
  isIdentifier_text h fun s hs => by rw [hs] at hw; cases hw

theorem nameLayout_of_ne {name : String} (h : name ≠ "") : nameLayout name = " " ++ name := by
  simp [nameLayout, h]

/-- **Folding is not seen in the text**, and what is folded cannot be folded again. -/
theorem fold?_spec {d d' : Window} (hd : (Definition.window d).isOver decodable)
    (h : d.fold? = some d') :
    (Definition.window d').isOver decodable ∧ d'.layout = d.layout ∧ d'.fold? = none := by
  obtain ⟨hname, hprops, hgeo, hchildren⟩ := isOver_window.1 hd
  rw [isOver_window]
  rcases Window.fold?_cases h with ⟨l, rest, hl, rfl, rfl⟩ |
    ⟨name, props, key, s, rest, hs, rfl, rfl⟩
  · obtain ⟨hdl, hrest⟩ := allOver_cons.1 hchildren
    have hid := isIdentifier_text_of_isWord hdl hl
    have hne := ne_empty_of_isIdentifier hid
    refine ⟨⟨isPlain_of_isIdentifier hid, hprops, hgeo, hrest⟩, ?_, ?_⟩
    · simp [Window.layout, nameLayout, hne, itemsLayout, Item.layout, String.append_assoc]
    · cases rest with
      | nil => rfl
      | cons i rest => cases i <;> simp [Window.fold?, hne]
  · obtain ⟨hdl, hrest⟩ := allOver_cons.1 hchildren
    rw [List.all_append, Bool.and_eq_true] at hprops
    refine ⟨⟨hname, ?_, hgeo, hrest⟩, ?_, ?_⟩
    · have hkey : isIdentifier key :=
        (Bool.and_eq_true_iff.1 (List.all_eq_true.1 hprops.2 (.flag key) (by simp))).1
      have hstr : (Literal.str s).isDecodable := hdl
      have hvalued : (Property.valued key (.str s)).isWindowProperty := by
        simp [Property.valued, Property.isWindowProperty, hkey, hstr, Literal.isFilledString, hs]
      rw [List.all_append, hprops.1, Bool.true_and, List.all_cons, List.all_nil, Bool.and_true]
      exact hvalued
    · simp [Window.layout, Property.flag, Property.valued, Property.layout, String.join_append,
        itemsLayout, Item.layout, String.append_assoc]
    · cases rest with
      | nil => rfl
      | cons i rest => cases i <;> simp [Window.fold?, Property.valued]

theorem folded_spec {d : Definition} (h : d.isOver decodable) :
    d.folded.isOver decodable ∧ d.folded.layout = d.layout ∧ d.folded.isLoose = false := by
  cases d with
  | widget d => exact ⟨h, rfl, rfl⟩
  | window d =>
    cases hf : d.fold? with
    | none =>
      rw [Definition.folded, hf]
      exact ⟨h, rfl, by simp [Definition.isLoose, hf]⟩
    | some d' =>
      obtain ⟨hd', hlayout, hnone⟩ := fold?_spec h hf
      rw [Definition.folded, hf]
      exact ⟨hd', hlayout, by simp [Definition.isLoose, hnone]⟩

theorem folded_of_not_isLoose {d : Definition} (h : d.isLoose = false) : d.folded = d := by
  cases d with
  | widget d => rfl
  | window d =>
    have hf : d.fold? = none := by simpa [Definition.isLoose] using h
    simp [Definition.folded, hf]

/-! ## The lines of a window -/

/-- A line of a window: a property or the geometry block. -/
inductive WindowLine where
  | property (p : Property)
  | geometry (props : List Property)

def WindowLine.layout : WindowLine → String
  | .property p => p.layout
  | .geometry props => geometryLayout props

def WindowLine.isDecodable : WindowLine → Bool
  | .property p => p.isWindowProperty
  | .geometry props => props.all Property.isDecodable

/-- What may follow a line.  A flag must not be followed by something that looks like its
    value or like a geometry block. -/
def WindowLine.Fits (line : WindowLine) (r : String) : Prop :=
  Breaks r ∧ ∀ key, line = .property ⟨key, none⟩ →
    (∀ t, r ≠ " " ++ ("(" ++ t)) ∧
      ∀ l : Literal, l.isDecodable → l.isFilledString → ∀ t, r ≠ " " ++ (l.text ++ t)

def Window.lines (d : Window) : List WindowLine :=
  d.props.map .property ++ (d.geometry.map WindowLine.geometry).toList

/-- The text of the lines of a window, each behind the start of its line. -/
def linesLayout (lines : List WindowLine) : String :=
  String.join (lines.map fun line => lineStart windowLevel ++ line.layout)

theorem breaks_linesLayout (lines : List WindowLine) : Breaks (linesLayout lines) :=
  breaks_join fun line _ => breaks_lineStart windowLevel line.layout

theorem Window.layout_eq_lines (d : Window) :
    d.layout = "(defwindow" ++ (nameLayout d.name ++
      (linesLayout d.lines ++ (itemsLayout windowLevel d.children ++ ")"))) := by
  obtain ⟨name, props, geometry, children⟩ := d
  have hprops : String.join ((props.map WindowLine.property).map
      fun line => lineStart windowLevel ++ line.layout) =
      String.join (props.map fun p => lineStart windowLevel ++ p.layout) := by
    rw [List.map_map]; rfl
  have hgeo : String.join ((geometry.map WindowLine.geometry).toList.map
      fun line => lineStart windowLevel ++ line.layout) =
      (geometry.map fun g => lineStart windowLevel ++ geometryLayout g).getD "" := by
    cases geometry with
    | none => rfl
    | some g => simp [WindowLine.layout]
  rw [Window.layout_eq, linesLayout, lines, List.map_append, String.join_append, hprops, hgeo]
  simp only [String.append_assoc]

theorem Window.lines_inj {d d' : Window} (h : d.lines = d'.lines) :
    d.props = d'.props ∧ d.geometry = d'.geometry := by
  have hprops : ∀ d : Window, d.lines.filterMap
      (fun | .property p => some p | .geometry _ => none) = d.props := by
    rintro ⟨name, props, geometry, children⟩
    rw [lines, List.filterMap_append, List.filterMap_map]
    cases geometry <;> exact (List.append_nil _).trans List.filterMap_some
  have hgeo : ∀ d : Window, d.lines.filterMap
      (fun | .property _ => none | .geometry g => some g) = d.geometry.toList := by
    rintro ⟨name, props, geometry, children⟩
    rw [lines, List.filterMap_append, List.filterMap_eq_nil_iff.2, List.nil_append]
    · cases geometry <;> rfl
    · simp
  refine ⟨by rw [← hprops d, h, hprops], ?_⟩
  have htoList : d.geometry.toList = d'.geometry.toList := by rw [← hgeo d, h, hgeo]
  cases hd : d.geometry <;> cases hd' : d'.geometry <;> simp_all

theorem flag_ne_valued {key key' : String} {l : Literal} {r q : String} (hk : isIdentifier key)
    (hk' : isIdentifier key') (hl : l.isDecodable) (hs : l.isFilledString)
    (hr : (WindowLine.property ⟨key, none⟩).Fits r) :
    Property.layout ⟨key, none⟩ ++ r ≠ Property.layout ⟨key', some l⟩ ++ q := by
  intro h
  simp only [Property.layout, String.append_assoc] at h
  obtain ⟨rfl, hval⟩ := word_cancel (isPlain_of_isIdentifier hk) (isPlain_of_isIdentifier hk')
    hr.1 (breaks_space _) (append_cancel_left h)
  exact (hr.2 key rfl).2 l hl hs q hval

theorem property_ne_geometry {p : Property} {props : List Property} {r q : String}
    (hp : p.isWindowProperty) (hr : (WindowLine.property p).Fits r) :
    p.layout ++ r ≠ geometryLayout props ++ q := by
  intro h
  obtain ⟨key, value⟩ := p
  obtain ⟨hk, hv⟩ := Bool.and_eq_true_iff.1 hp
  rw [geometryLayout_eq] at h
  cases value with
  | none =>
    simp only [Property.layout, String.append_assoc] at h
    obtain ⟨-, hrest⟩ := word_cancel (isPlain_of_isIdentifier hk) (t := "geometry") rfl hr.1
      (breaks_space _) (append_cancel_left h)
    exact (hr.2 key rfl).1 _ hrest
  | some l =>
    simp only [Property.layout, String.append_assoc] at h
    obtain ⟨-, hrest⟩ := word_cancel (isPlain_of_isIdentifier hk) (t := "geometry") rfl
      (breaks_space _) (breaks_space _) (append_cancel_left h)
    cases l with
    | str s =>
      rw [text_str_append] at hrest
      exact start_ne rfl _ _ (append_cancel_left hrest)
    | int | bool | expr | call | list => simp [Literal.isFilledString] at hv

theorem property_ne_close (p : Property) (r t : String) : ")" ++ r ≠ p.layout ++ t := by
  obtain ⟨u, hu⟩ := property_start p
  rw [hu, String.append_assoc]
  exact start_ne rfl _ _

theorem geometry_cancel {g g' : List Property} {r q : String} (hg : g.all Property.isDecodable)
    (hg' : g'.all Property.isDecodable) (h : geometryLayout g ++ r = geometryLayout g' ++ q) :
    g = g' ∧ r = q := by
  simp only [geometryLayout_def, String.append_assoc] at h
  obtain ⟨rfl, hrest⟩ := intercalate_cancel (P := fun p => p.isDecodable) (breaks_start rfl)
    (fun _ _ _ _ => property_cancel) (List.all_eq_true.1 hg) (List.all_eq_true.1 hg')
    (breaks_start rfl _) (breaks_start rfl _) (fun p t _ => property_ne_close p r t)
    (fun p t _ => property_ne_close p q t) (fun t => start_ne rfl _ _)
    (fun t => start_ne rfl _ _) (append_cancel_left h)
  exact ⟨rfl, append_cancel_left hrest⟩

theorem line_cancel {x y : WindowLine} {r q : String} (hx : x.isDecodable) (hy : y.isDecodable)
    (hr : x.Fits r) (hq : y.Fits q) (h : x.layout ++ r = y.layout ++ q) : x = y ∧ r = q := by
  cases x with
  | property p =>
    cases y with
    | geometry g => exact absurd h (property_ne_geometry hx hr)
    | property p' =>
      obtain ⟨key, value⟩ := p
      obtain ⟨key', value'⟩ := p'
      obtain ⟨hk, hv⟩ := Bool.and_eq_true_iff.1 hx
      obtain ⟨hk', hv'⟩ := Bool.and_eq_true_iff.1 hy
      cases value with
      | none =>
        cases value' with
        | none =>
          simp only [WindowLine.layout, Property.layout, String.append_assoc] at h
          obtain ⟨rfl, rfl⟩ := word_cancel (isPlain_of_isIdentifier hk)
            (isPlain_of_isIdentifier hk') hr.1 hq.1 (append_cancel_left h)
          exact ⟨rfl, rfl⟩
        | some l' =>
          obtain ⟨hl', hs'⟩ := Bool.and_eq_true_iff.1 hv'
          exact absurd h (flag_ne_valued hk hk' hl' hs' hr)
      | some l =>
        obtain ⟨hl, hs⟩ := Bool.and_eq_true_iff.1 hv
        cases value' with
        | none => exact absurd h.symm (flag_ne_valued hk' hk hl hs hq)
        | some l' =>
          obtain ⟨hl', -⟩ := Bool.and_eq_true_iff.1 hv'
          obtain ⟨he, rfl⟩ := property_cancel (Bool.and_eq_true_iff.2 ⟨hk, hl⟩)
            (Bool.and_eq_true_iff.2 ⟨hk', hl'⟩) hr.1 hq.1 h
          exact ⟨congrArg WindowLine.property he, rfl⟩
  | geometry g =>
    cases y with
    | property p' => exact absurd h.symm (property_ne_geometry hy hq)
    | geometry g' =>
      obtain ⟨rfl, rfl⟩ := geometry_cancel hx hy h
      exact ⟨rfl, rfl⟩

/-! ## Definitions -/

/-- What folding leaves: the first item of a window can be taken neither for its name nor
    for the value of its last property. -/
theorem Window.fold?_none {d : Window} {l : Literal} {rest : List Item} (h : d.fold? = none)
    (hg : d.geometry = none) (hc : d.children = .value l :: rest) :
    (d.props = [] → d.name = "" → l.isWord = false) ∧
      ∀ props key, d.props = props ++ [⟨key, none⟩] → l.isFilledString = false := by
  obtain ⟨name, props, geometry, children⟩ := d
  subst hg hc
  refine ⟨?_, ?_⟩
  · rintro rfl rfl
    simpa [fold?] using h
  · rintro props key rfl
    simpa [fold?] using h

theorem name_cancel {name name' r q : String} (hn : isPlain name) (hn' : isPlain name')
    (hr : Breaks r) (hq : Breaks q)
    (hr' : name = "" → ∀ s t, isIdentifier s → r ≠ " " ++ (s ++ t))
    (hq' : name' = "" → ∀ s t, isIdentifier s → q ≠ " " ++ (s ++ t))
    (h : nameLayout name ++ r = nameLayout name' ++ q) : name = name' ∧ r = q := by
  have hid : ∀ {s : String}, isPlain s → s ≠ "" → isIdentifier s := fun hs hne => by
    simp [isIdentifier, hs, hne]
  have hempty : nameLayout "" = "" := rfl
  by_cases he : name = ""
  · rw [he, hempty, String.empty_append] at h
    by_cases he' : name' = ""
    · rw [he', hempty, String.empty_append] at h
      exact ⟨he.trans he'.symm, h⟩
    · rw [nameLayout_of_ne he', String.append_assoc] at h
      exact absurd h (hr' he name' q (hid hn' he'))
  · rw [nameLayout_of_ne he, String.append_assoc] at h
    by_cases he' : name' = ""
    · rw [he', hempty, String.empty_append] at h
      exact absurd h.symm (hq' he' name r (hid hn he))
    · rw [nameLayout_of_ne he', String.append_assoc] at h
      exact word_cancel hn hn' hr hq (append_cancel_left h)

theorem lineStart_ne_space {level : Nat} (r t : String) : lineStart level ++ r ≠ " " ++ t := by
  rw [lineStart, String.append_assoc]
  exact start_ne rfl _ _

/-- Only a value stands behind a space. -/
theorem itemsLayout_space {level : Nat} {is : List Item} {r t : String}
    (h : itemsLayout level is ++ (")" ++ r) = " " ++ t) :
    ∃ l rest, is = .value l :: rest ∧ l.text ++ (itemsLayout level rest ++ (")" ++ r)) = t := by
  cases is with
  | nil =>
    rw [itemsLayout, String.empty_append] at h
    exact absurd h (start_ne rfl _ _)
  | cons i rest =>
    cases i with
    | value l =>
      simp only [itemsLayout, Item.layout, String.append_assoc] at h
      exact ⟨l, rest, rfl, append_cancel_left h⟩
    | form tag props children =>
      simp only [itemsLayout, Item.layout, String.append_assoc] at h
      exact absurd h (lineStart_ne_space _ _)

/-- What follows the name of a window does not look like a name. -/
theorem window_name_fits {d : Window} (hd : (Definition.window d).isOver decodable)
    (hf : d.fold? = none) (r : String) (hn : d.name = "") (s t : String) (hs : isIdentifier s) :
    linesLayout d.lines ++ (itemsLayout windowLevel d.children ++ (")" ++ r)) ≠
      " " ++ (s ++ t) := by
  intro h
  cases hl : d.lines with
  | cons line lines =>
    rw [hl, linesLayout, List.map_cons, String.join_cons] at h
    simp only [String.append_assoc] at h
    exact lineStart_ne_space _ _ h
  | nil =>
    rw [hl, linesLayout, List.map_nil, String.join_nil, String.empty_append] at h
    obtain ⟨l, rest, hc, htext⟩ := itemsLayout_space h
    obtain ⟨hprops, hgeo⟩ : d.props = [] ∧ d.geometry = none := by simpa [Window.lines] using hl
    have hword := (Window.fold?_none hf hgeo hc).1 hprops hn
    obtain ⟨-, -, -, hchildren⟩ := isOver_window.1 hd
    rw [hc] at hchildren
    obtain ⟨hdl, -⟩ := allOver_cons.1 hchildren
    cases l with
    | str content =>
      rw [text_str_append] at htext
      exact identifier_ne hs rfl _ _ htext.symm
    | int | bool => cases hword
    | expr | call | list => cases hdl

/-- What follows the last line of a window fits it. -/
theorem window_line_fits {d : Window} (hd : (Definition.window d).isOver decodable)
    (hf : d.fold? = none) (r : String) {line : WindowLine} (hline : line ∈ d.lines.getLast?) :
    line.Fits (itemsLayout windowLevel d.children ++ (")" ++ r)) := by
  refine ⟨breaks_append (breaks_items windowLevel d.children) (breaks_start rfl _), ?_⟩
  rintro key rfl
  obtain ⟨hgeo, props, hprops⟩ : d.geometry = none ∧ ∃ props, d.props = props ++ [⟨key, none⟩] := by
    rw [Window.lines] at hline
    cases hg : d.geometry with
    | some g => simp [hg] at hline
    | none =>
      have hlast : d.props.getLast? = some ⟨key, none⟩ := by simpa [hg] using hline
      exact ⟨rfl, List.getLast?_eq_some_iff.1 hlast⟩
  -- a word or the empty string follows the flag, if a value does
  have hvalue : ∀ l rest, d.children = .value l :: rest → isIdentifier l.text ∨ l = .str "" := by
    intro l rest hc
    have hfill := (Window.fold?_none hf hgeo hc).2 props key hprops
    obtain ⟨-, -, -, hchildren⟩ := isOver_window.1 hd
    rw [hc] at hchildren
    obtain ⟨hdl, -⟩ := allOver_cons.1 hchildren
    by_cases hs : ∃ s, l = .str s
    · obtain ⟨s, rfl⟩ := hs
      right
      simpa [Literal.isFilledString] using hfill
    · exact Or.inl (isIdentifier_text hdl fun s he => hs ⟨s, he⟩)
  refine ⟨?_, ?_⟩
  · intro t h
    obtain ⟨l, rest, hc, htext⟩ := itemsLayout_space h
    rcases hvalue l rest hc with hid | rfl
    · exact identifier_ne hid rfl _ _ htext
    · exact start_ne rfl _ _ htext
  · intro l' hl' hs' t h
    obtain ⟨l, rest, hc, htext⟩ := itemsLayout_space h
    cases l' with
    | int | bool | expr | call | list => cases hs'
    | str s =>
      rw [text_str_append] at htext
      rcases hvalue l rest hc with hid | rfl
      · exact identifier_ne hid rfl _ _ htext
      · rw [text_str_append] at htext
        obtain ⟨rfl, -⟩ := string_cancel (by simp) (by simpa [Literal.isDecodable] using hl')
          (append_cancel_left htext)
        cases hs'

theorem line_start (line : WindowLine) : ∃ t, line.layout = ":" ++ t := by
  cases line with
  | property p => exact property_start p
  | geometry g => exact ⟨_, (geometryLayout_eq g).trans String.append_assoc⟩

theorem isDecodable_of_mem_lines {d : Window} (hd : (Definition.window d).isOver decodable)
    {line : WindowLine} (h : line ∈ d.lines) : line.isDecodable := by
  obtain ⟨-, hprops, hgeo, -⟩ := isOver_window.1 hd
  rcases List.mem_append.1 h with hp | hg
  · obtain ⟨p, hmem, rfl⟩ := List.mem_map.1 hp
    exact List.all_eq_true.1 hprops p hmem
  · cases hgd : d.geometry with
    | none => simp [hgd] at hg
    | some g =>
      obtain rfl : line = .geometry g := by simpa [hgd] using hg
      rwa [hgd] at hgeo

theorem itemsLayout_ne_line (is : List Item) (line : WindowLine) (r t : String) :
    itemsLayout windowLevel is ++ (")" ++ r) ≠ lineStart windowLevel ++ line.layout ++ t := by
  obtain ⟨u, hu⟩ := line_start line
  rw [hu, String.append_assoc, String.append_assoc]
  exact itemsLayout_ne_property is r _

theorem lines_cancel {d d' : Window} {r q : String} (hd : (Definition.window d).isOver decodable)
    (hd' : (Definition.window d').isOver decodable) (hf : d.fold? = none) (hf' : d'.fold? = none)
    (h : linesLayout d.lines ++ (itemsLayout windowLevel d.children ++ (")" ++ r)) =
      linesLayout d'.lines ++ (itemsLayout windowLevel d'.children ++ (")" ++ q))) :
    d.lines = d'.lines ∧ itemsLayout windowLevel d.children ++ (")" ++ r) =
      itemsLayout windowLevel d'.children ++ (")" ++ q) := by
  refine join_cancel (P := fun line => line.isDecodable) WindowLine.Fits ?_ ?_
    (fun _ => isDecodable_of_mem_lines hd) (fun _ => isDecodable_of_mem_lines hd')
    (fun _ => window_line_fits hd hf r) (fun _ => window_line_fits hd' hf' q)
    (fun line t _ => itemsLayout_ne_line d.children line r t)
    (fun line t _ => itemsLayout_ne_line d'.children line q t) h
  · intro x y r q hx hy hr hq he
    simp only [String.append_assoc] at he
    exact line_cancel hx hy hr hq (append_cancel_left he)
  · -- a next line begins with a line end, and no value or geometry block does
    intro x y t _ _
    rw [String.append_assoc]
    refine ⟨breaks_lineStart windowLevel _, fun _ _ => ⟨fun _ => ?_, fun _ _ _ _ => ?_⟩⟩
    · exact lineStart_ne_space _ _
    · exact lineStart_ne_space _ _

theorem window_cancel {d d' : Window} {r q : String} (hd : (Definition.window d).isOver decodable)
    (hd' : (Definition.window d').isOver decodable) (hf : d.fold? = none) (hf' : d'.fold? = none)
    (h : d.layout ++ r = d'.layout ++ q) : d = d' ∧ r = q := by
  obtain ⟨hn, -, -, hi⟩ := isOver_window.1 hd
  obtain ⟨hn', -, -, hi'⟩ := isOver_window.1 hd'
  have hbreak : ∀ (d : Window) (t : String),
      Breaks (linesLayout d.lines ++ (itemsLayout windowLevel d.children ++ (")" ++ t))) :=
    fun d t => breaks_append (breaks_linesLayout d.lines)
      (breaks_append (breaks_items windowLevel d.children) (breaks_start rfl t))
  simp only [Window.layout_eq_lines, String.append_assoc] at h
  obtain ⟨hname, hrest⟩ := name_cancel hn hn' (hbreak d r) (hbreak d' q)
    (window_name_fits hd hf r) (window_name_fits hd' hf' q) (append_cancel_left h)
  obtain ⟨hlines, hitems⟩ := lines_cancel hd hd' hf hf' hrest
  obtain ⟨hprops, hgeo⟩ := Window.lines_inj hlines
  obtain ⟨hc, rfl⟩ := items_cancel d.children d'.children hi hi' hitems
  obtain ⟨name, props, geometry, children⟩ := d
  obtain ⟨name', props', geometry', children'⟩ := d'
  obtain ⟨rfl, rfl, rfl, rfl⟩ : name = name' ∧ props = props' ∧ geometry = geometry' ∧
      children = children' := ⟨hname, hprops, hgeo, hc⟩
  exact ⟨rfl, rfl⟩

theorem widget_cancel {d d' : Widget} {r q : String} (hd : (Definition.widget d).isOver decodable)
    (hd' : (Definition.widget d').isOver decodable) (h : d.layout ++ r = d'.layout ++ q) :
    d = d' ∧ r = q := by
  obtain ⟨name, fields, body⟩ := d
  obtain ⟨name', fields', body'⟩ := d'
  obtain ⟨hn, hfs, hb⟩ := isOver_widget.1 hd
  obtain ⟨hn', hfs', hb'⟩ := isOver_widget.1 hd'
  have hvector : ∀ s t u : String, isIdentifier s → " [" ++ u ≠ " " ++ (s ++ t) := by
    intro s t u hs he
    rw [show " [" = " " ++ "[" from rfl, String.append_assoc] at he
    exact identifier_ne hs rfl _ _ (append_cancel_left he).symm
  have hclose : ∀ (f u t : String), isIdentifier f → "]" ++ u ≠ f ++ t := fun f u t hf he =>
    identifier_ne hf rfl _ _ he.symm
  have hid : ∀ fs : List String, " ".intercalate fs = " ".intercalate (fs.map id) := by simp
  simp only [Widget.layout_eq, String.append_assoc] at h
  obtain ⟨rfl, hrest⟩ := name_cancel hn hn' (breaks_start rfl _) (breaks_start rfl _)
    (fun _ s t hs => hvector s t _ hs) (fun _ s t hs => hvector s t _ hs) (append_cancel_left h)
  rw [hid fields, hid fields'] at hrest
  obtain ⟨rfl, hitems⟩ := intercalate_cancel (g := id) (P := fun f => isIdentifier f) breaks_space
    (fun f f' r q hf hf' hr hq => word_cancel (isPlain_of_isIdentifier hf)
      (isPlain_of_isIdentifier hf') hr hq)
    (List.all_eq_true.1 hfs) (List.all_eq_true.1 hfs') (breaks_start rfl _)
    (breaks_start rfl _)
    (fun f t hf => hclose f _ t hf) (fun f t hf => hclose f _ t hf)
    (fun t => start_ne rfl _ _)
    (fun t => start_ne rfl _ _) (append_cancel_left hrest)
  obtain ⟨rfl, rfl⟩ := items_cancel body body' hb hb' (append_cancel_left hitems)
  exact ⟨rfl, rfl⟩

theorem window_ne_widget (d : Window) (d' : Widget) (r q : String) :
    d.layout ++ r ≠ d'.layout ++ q := by
  intro h
  have hwindow : "(defwindow" = "(defwi" ++ "ndow" := by decide
  have hwidget : "(defwidget" = "(defwi" ++ "dget" := by decide
  simp only [Window.layout_eq_lines, Widget.layout_eq, hwindow, hwidget, String.append_assoc] at h
  exact start_ne rfl _ _ (append_cancel_left h)

/-- **The text of a definition can be taken off**, if it is not loose. -/
theorem definition_cancel {d d' : Definition} {r q : String} (hd : d.isOver decodable)
    (hd' : d'.isOver decodable) (hf : d.isLoose = false) (hf' : d'.isLoose = false)
    (h : d.layout ++ r = d'.layout ++ q) : d = d' ∧ r = q := by
  cases d with
  | window d =>
    cases d' with
    | widget d' => exact absurd h (window_ne_widget d d' r q)
    | window d' =>
      have hnone : d.fold? = none := by simpa [Definition.isLoose] using hf
      have hnone' : d'.fold? = none := by simpa [Definition.isLoose] using hf'
      obtain ⟨rfl, rfl⟩ := window_cancel hd hd' hnone hnone' h
      exact ⟨rfl, rfl⟩
  | widget d =>
    cases d' with
    | window d' => exact absurd h.symm (window_ne_widget d' d q r)
    | widget d' =>
      obtain ⟨rfl, rfl⟩ := widget_cancel hd hd' h
      exact ⟨rfl, rfl⟩

/-- **Equal texts come from definitions that are equal once folded.** -/
theorem yuck_eq_iff_folded {ds ds' : List Definition} (h : ds.all (Definition.isOver decodable))
    (h' : ds'.all (Definition.isOver decodable)) :
    yuck ds = yuck ds' ↔ ds.map Definition.folded = ds'.map Definition.folded := by
  -- folding leaves the text as it is
  have hfolded : ∀ ds : List Definition, ds.all (Definition.isOver decodable) →
      yuck (ds.map Definition.folded) = yuck ds := by
    intro ds h
    have hmap : (ds.map Definition.folded).map (fun d => d.layout ++ "\n") =
        ds.map fun d => d.layout ++ "\n" := by
      rw [List.map_map]
      apply List.map_congr_left
      intro d hd
      exact congrArg (· ++ "\n") (folded_spec (List.all_eq_true.1 h d hd)).2.1
    rw [yuck_eq, yuck_eq, hmap]
  have htight : ∀ ds : List Definition, ds.all (Definition.isOver decodable) →
      ∀ d ∈ ds.map Definition.folded, d.isOver decodable ∧ d.isLoose = false := by
    intro ds h d hd
    obtain ⟨d, hmem, rfl⟩ := List.mem_map.1 hd
    obtain ⟨hover, -, htight⟩ := folded_spec (List.all_eq_true.1 h d hmem)
    exact ⟨hover, htight⟩
  constructor
  · intro he
    rw [← hfolded ds h, ← hfolded ds' h', yuck_eq, yuck_eq] at he
    have hend : ∀ (d : Definition) (t : String), d.isOver decodable ∧ d.isLoose = false →
        "" ≠ d.layout ++ "\n" ++ t := by
      intro d t _ hd
      simp at hd
    refine (intercalate_cancel (P := fun d => d.isOver decodable ∧ d.isLoose = false) (r := "")
      (q := "") (breaks_start (s := "\n") rfl) ?_ (htight ds h) (htight ds' h') breaks_empty
      breaks_empty hend hend (fun t ht => ?_) (fun t ht => ?_) ?_).1
    · intro d d' r q hd hd' _ _ hdd
      simp only [String.append_assoc] at hdd
      obtain ⟨rfl, hrest⟩ := definition_cancel hd.1 hd'.1 hd.2 hd'.2 hdd
      exact ⟨rfl, append_cancel_left hrest⟩
    · simp at ht
    · simp at ht
    · exact congrArg (· ++ "") (append_cancel_left he)
  · intro he
    rw [← hfolded ds h, ← hfolded ds' h', he]

end WidgetMarkup.Yuck
