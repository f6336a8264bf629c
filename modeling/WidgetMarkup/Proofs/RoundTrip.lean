/-
  Reading back what was written.

  The image of a definition is the expression that its source text stands for: a list of
  its keyword, its name, its properties and its items.  `read?_yuck`: the text of a list of
  readable definitions reads as the list of their images, and nothing of the text is left.

  A `Vocabulary` says what the parts of a definition may be.  `readable` has identifiers for
  names, fields, tags and keys, and closed literals: numerals, truth values, strings without
  a quote, groups in braces, calls that read as one list, and lists whose inside reads as
  expressions.  A call or list may not end in a comment, which would go on behind it
  (`read?_yuck_open_comment`).
-/
import WidgetMarkup.Proofs.Layout
import WidgetMarkup.Proofs.Reader

namespace WidgetMarkup.Yuck

/-! ## Vocabularies -/

/-- What the parts of a definition may be. -/
structure Vocabulary where
  /-- The names of definitions. -/
  name : String → Bool
  /-- Fields and tags. -/
  word : String → Bool
  /-- The properties of windows. -/
  windowProperty : Property → Bool
  /-- The properties of forms and geometry blocks. -/
  property : Property → Bool
  literal : Literal → Bool

section
variable (v : Vocabulary)

mutual
def Item.isOver : Item → Bool
  | .form tag props children => v.word tag && props.all v.property && allOver children
  | .value literal => v.literal literal

def allOver : List Item → Bool
  | [] => true
  | i :: is => i.isOver && allOver is
end

/-- Whether all parts of a definition belong to a vocabulary. -/
def Definition.isOver : Definition → Bool
  | .window d =>
    v.name d.name && d.props.all v.windowProperty && d.geometry.all (·.all v.property) &&
      allOver v d.children
  | .widget d => v.name d.name && d.fields.all v.word && allOver v d.body

end

section
variable {v : Vocabulary}

theorem isOver_form {tag : String} {props : List Property} {children : List Item} :
    (Item.form tag props children).isOver v ↔
      v.word tag ∧ props.all v.property ∧ allOver v children := by
  simp only [Item.isOver, Bool.and_eq_true, and_assoc]

theorem allOver_cons {i : Item} {is : List Item} :
    allOver v (i :: is) ↔ i.isOver v ∧ allOver v is := by
  rw [allOver, Bool.and_eq_true]

theorem allOver_append {is js : List Item} :
    allOver v (is ++ js) ↔ allOver v is ∧ allOver v js := by
  induction is with
  | nil => simp [allOver]
  | cons i is ih => rw [List.cons_append, allOver_cons, allOver_cons, ih, and_assoc]

theorem isOver_window {d : Window} :
    (Definition.window d).isOver v ↔ v.name d.name ∧ d.props.all v.windowProperty ∧
      d.geometry.all (·.all v.property) ∧ allOver v d.children := by
  simp only [Definition.isOver, Bool.and_eq_true, and_assoc]

theorem isOver_widget {d : Widget} :
    (Definition.widget d).isOver v ↔
      v.name d.name ∧ d.fields.all v.word ∧ allOver v d.body := by
  simp only [Definition.isOver, Bool.and_eq_true, and_assoc]

end

/-! ## Readable definitions -/

/-- A text without blanks, quotes, semicolons and brackets. -/
def isPlain (s : String) : Bool :=
  s.toList.all isWordChar

/-- A plain text that is not empty. -/
def isIdentifier (s : String) : Bool :=
  !s.isEmpty && isPlain s

/-- Whether a text reads as one list, whatever follows it.  This is more than reading as one
    list by itself: a comment at the end of the text is refused. -/
def readsAsList (s : String) : Bool :=
  match SExpr.read? s with
  | some [.list _] => !endsInComment s
  | _ => false

/-- A call that ends in a comment reads as one list by itself, but the comment takes away the
    bracket that closes the widget around the call. -/
theorem read?_yuck_open_comment :
    Literal.infer "(f) ;)" = .call "(f) ;)" ∧ SExpr.read? "(f) ;)" = some [.list [.atom "f"]] ∧
      SExpr.read? (yuck [.widget ⟨"w", [], [.value (.call "(f) ;)")]⟩]) = none := by
  refine ⟨rfl, rfl, rfl⟩

/-- Whether a text reads as expressions, whatever follows it; it may not end in a comment. -/
def readsAsExprs (s : String) : Bool :=
  (SExpr.read? s).isSome && !endsInComment s

/-- A literal whose text is complete by itself.  The text of a call or list may hold
    comments, as long as they end in it. -/
def Literal.isClosed : Literal → Bool
  | .int numeral => (Numeral.readInt? numeral.toList).isSome
  | .bool _ => true
  | .str content => !content.toList.contains '"'
  | .expr source => isBraceGroup source
  | .call source => readsAsList source
  | .list inside => readsAsExprs inside

def Property.isReadable (p : Property) : Bool :=
  isIdentifier p.key && p.value.all Literal.isClosed

/-- Identifiers and closed literals; the name of a definition may be empty. -/
def readable : Vocabulary where
  name := isPlain
  word := isIdentifier
  windowProperty := Property.isReadable
  property := Property.isReadable
  literal := Literal.isClosed

/-! ## Images -/

/-- The expressions of a literal: one, or as many as a list has inside. -/
def Literal.image : Literal → List SExpr
  | .int numeral => [.atom numeral]
  | .bool true => [.atom "true"]
  | .bool false => [.atom "false"]
  | .str content => [.str content]
  | .expr source => [.braces source]
  | .call source => (SExpr.read? source).getD []
  | .list inside => (SExpr.read? inside).getD []

def Property.image (p : Property) : List SExpr :=
  .atom (":" ++ p.key) :: (p.value.map Literal.image).getD []

mutual
def Item.image : Item → List SExpr
  | .form tag props children =>
    [.list (.atom tag :: (props.flatMap Property.image ++ imageAll children))]
  | .value literal => literal.image

def imageAll : List Item → List SExpr
  | [] => []
  | i :: is => i.image ++ imageAll is
end

def nameImage (name : String) : List SExpr :=
  if name.isEmpty then [] else [.atom name]

def geometryImage (props : List Property) : List SExpr :=
  [.atom ":geometry", .list (.atom "geometry" :: props.flatMap Property.image)]

/-- The expression that a definition stands for. -/
def Definition.image : Definition → SExpr
  | .window d =>
    .list (.atom "defwindow" :: (nameImage d.name ++ d.props.flatMap Property.image ++
      (d.geometry.map geometryImage).getD [] ++ imageAll d.children))
  | .widget d =>
    .list (.atom "defwidget" :: (nameImage d.name ++ [.vector (d.fields.map .atom)] ++
      imageAll d.body))

/-! ## Literals -/

theorem isWordChar_of_isDigit {c : Char} (h : c.isDigit) : isWordChar c := by
  have hn : 48 ≤ c.toNat ∧ c.toNat ≤ 57 := by
    simpa [Char.isDigit, Char.le_def, UInt32.le_iff_toNat_le] using h
  have hb : isBlank c = false := by
    simp [isBlank]
    omega
  have hs : c ∉ delimiters := by
    simp only [delimiters, List.mem_cons, List.not_mem_nil, or_false]
    rintro (rfl | rfl | rfl | rfl | rfl | rfl | rfl | rfl) <;> exact absurd h (by decide)
  rw [isWordChar, hb, List.contains_eq_mem, decide_eq_false hs]
  rfl

theorem readNat?_isPlain {cs : List Char} (h : (Numeral.readNat? cs).isSome) :
    cs ≠ [] ∧ ∀ c ∈ cs, isWordChar c := by
  unfold Numeral.readNat? at h
  split at h
  next hcs => exact ⟨hcs.1, fun c hc => isWordChar_of_isDigit (List.all_eq_true.1 hcs.2 c hc)⟩
  · cases h

/-- A numeral is a word. -/
theorem readInt?_isPlain {cs : List Char} (h : (Numeral.readInt? cs).isSome) :
    cs ≠ [] ∧ ∀ c ∈ cs, isWordChar c := by
  have hsign : ∀ c, isWordChar c → ∀ ds, (Numeral.readNat? ds).isSome →
      c :: ds ≠ [] ∧ ∀ d ∈ c :: ds, isWordChar d := by
    intro c hc ds hds
    refine ⟨by simp, fun d hd => ?_⟩
    rcases List.mem_cons.1 hd with rfl | hd
    · exact hc
    · exact (readNat?_isPlain hds).2 d hd
  have hsome : ∀ o : Option Nat, (do let n ← o; pure (n : Int) : Option Int).isSome → o.isSome := by
    rintro (_ | n) h
    · exact h
    · rfl
  unfold Numeral.readInt? at h
  split at h <;> rw [Option.isSome_map] at h
  · exact hsign '-' rfl _ (hsome _ h)
  · exact hsign '+' rfl _ (hsome _ h)
  · exact readNat?_isPlain (hsome _ h)

theorem reads_identifier {s : String} (h : isIdentifier s) : Reads s [.atom s] := by
  obtain ⟨hne, hp⟩ := Bool.and_eq_true_iff.1 h
  exact reads_word (by simpa using hne) (List.all_eq_true.1 hp)

/-- **A closed literal reads as its image.** -/
theorem reads_literal {l : Literal} (h : l.isClosed) : Reads l.text l.image := by
  cases l with
  | int numeral =>
    obtain ⟨hne, hw⟩ := readInt?_isPlain h
    exact reads_word (s := numeral) (by simpa using hne) hw
  | bool b =>
    cases b with
    | true => exact reads_identifier (s := "true") rfl
    | false => exact reads_identifier (s := "false") rfl
  | str content => exact (closes_string (by simpa [Literal.isClosed] using h)).reads
  | expr source => exact (closes_braces h).reads
  | call source =>
    simp only [Literal.isClosed, readsAsList] at h
    split at h
    next es hes =>
      have hr := reads_of_read? hes (by simpa using h)
      rwa [Literal.image, hes]
    · cases h
  | list inside =>
    obtain ⟨hsome, hc⟩ := Bool.and_eq_true_iff.1 h
    obtain ⟨es, hes⟩ := Option.isSome_iff_exists.1 hsome
    have hr := reads_of_read? hes (by simpa using hc)
    rwa [Literal.image, hes]

/-! ## Sequences -/

theorem closes_space : Closes " " [] :=
  closes_blanks rfl

theorem reads_value {l : Literal} (h : l.isClosed) : Reads (" " ++ l.text) l.image :=
  closes_space.append_reads (reads_literal h)

theorem breaks_space (s : String) : Breaks (" " ++ s) :=
  breaks_start rfl s

theorem closes_lineStart (level : Nat) : Closes (lineStart level) [] := by
  apply closes_blanks
  rw [List.all_eq_true]
  intro c hc
  have hc : c = '\n' ∨ c ∈ List.replicate (2 * level) ' ' := by simpa [lineStart] using hc
  rcases hc with rfl | hc
  · rfl
  · rw [(List.mem_replicate.1 hc).2]; rfl

theorem breaks_lineStart (level : Nat) (s : String) : Breaks (lineStart level ++ s) := by
  rw [lineStart, String.append_assoc]
  exact breaks_start rfl _

section
variable {α : Type} {f : α → String} {g : α → List SExpr}

theorem breaks_join {xs : List α} (hb : ∀ x ∈ xs, Breaks (f x)) :
    Breaks (String.join (xs.map f)) := by
  induction xs with
  | nil => exact breaks_empty
  | cons x xs ih =>
    rw [List.map_cons, String.join_cons]
    exact breaks_append (hb x (by simp)) (ih fun y hy => hb y (by simp [hy]))

theorem reads_join {xs : List α} (h : ∀ x ∈ xs, Reads (f x) (g x))
    (hb : ∀ x ∈ xs, Breaks (f x)) : Reads (String.join (xs.map f)) (xs.flatMap g) := by
  induction xs with
  | nil => exact closes_empty.reads
  | cons x xs ih =>
    rw [List.map_cons, String.join_cons, List.flatMap_cons]
    exact (h x (by simp)).append (breaks_join fun y hy => hb y (by simp [hy]))
      (ih (fun y hy => h y (by simp [hy])) fun y hy => hb y (by simp [hy]))

theorem reads_intercalate {separator : String} (hs : Closes separator [])
    (hb : ∀ s, Breaks (separator ++ s)) {xs : List α} (h : ∀ x ∈ xs, Reads (f x) (g x)) :
    Reads (separator.intercalate (xs.map f)) (xs.flatMap g) := by
  induction xs with
  | nil => exact closes_empty.reads
  | cons x xs ih =>
    have hx := h x (by simp)
    cases xs with
    | nil => simpa using hx
    | cons y ys =>
      have hys := hs.append_reads (ih fun z hz => h z (by simp [hz]))
      rw [List.map_cons, List.map_cons, String.intercalate_cons_cons, String.append_assoc]
      exact hx.append (hb _) hys

end

/-! ## Properties and items -/

theorem isPlain_append {s t : String} : isPlain (s ++ t) ↔ isPlain s ∧ isPlain t := by
  simp [isPlain, String.toList_append]

theorem reads_key {key : String} (h : isIdentifier key) :
    Reads (":" ++ key) [.atom (":" ++ key)] := by
  obtain ⟨-, hp⟩ := Bool.and_eq_true_iff.1 h
  exact reads_word (by simp) (List.all_eq_true.1 (isPlain_append.2 ⟨rfl, hp⟩))

theorem reads_property {p : Property} (h : p.isReadable) : Reads p.layout p.image := by
  obtain ⟨key, value⟩ := p
  obtain ⟨hk, hv⟩ := Bool.and_eq_true_iff.1 h
  cases value with
  | none => exact reads_key hk
  | some l =>
    have hl : Property.layout ⟨key, some l⟩ = ":" ++ key ++ (" " ++ l.text) := by
      simp [Property.layout, String.append_assoc]
    rw [hl]
    exact (reads_key hk).append (breaks_space _) (reads_value hv)

theorem reads_properties {level : Nat} {props : List Property}
    (h : props.all Property.isReadable) :
    Reads (String.join (props.map fun p => lineStart level ++ p.layout))
      (props.flatMap Property.image) :=
  reads_join
    (fun p hp => (closes_lineStart level).append_reads (reads_property (List.all_eq_true.1 h p hp)))
    fun p _ => breaks_lineStart level p.layout

theorem breaks_properties (level : Nat) (props : List Property) :
    Breaks (String.join (props.map fun p => lineStart level ++ p.layout)) :=
  breaks_join fun p _ => breaks_lineStart level p.layout

theorem breaks_item (level : Nat) (i : Item) : Breaks (i.layout level) := by
  cases i with
  | form tag props children =>
    simp only [Item.layout, String.append_assoc]
    exact breaks_lineStart level _
  | value l => exact breaks_space l.text

theorem breaks_items (level : Nat) (is : List Item) : Breaks (itemsLayout level is) := by
  induction is with
  | nil => exact breaks_empty
  | cons i is ih => exact breaks_append (breaks_item level i) ih

mutual
/-- **An item reads as its image**, at every level. -/
theorem reads_item (level : Nat) :
    (i : Item) → i.isOver readable → Reads (i.layout level) i.image
  | .form tag props children, h => by
    obtain ⟨htag, hprops, hchildren⟩ := isOver_form.1 h
    have hin := ((reads_identifier htag).append (breaks_properties (level + 1) props)
      (reads_properties hprops)).append (breaks_items (level + 1) children)
      (reads_items (level + 1) children hchildren)
    have hform := (closes_lineStart level).append (closes_brackets .round hin)
    simpa [Item.layout, Item.image, Bracket.opening, Bracket.closing, Bracket.wrap,
      String.append_assoc] using hform.reads
  | .value l, h => reads_value h

theorem reads_items (level : Nat) :
    (is : List Item) → allOver readable is → Reads (itemsLayout level is) (imageAll is)
  | [], _ => closes_empty.reads
  | i :: is, h => by
    obtain ⟨hi, his⟩ := allOver_cons.1 h
    exact (reads_item level i hi).append (breaks_items level is) (reads_items level is his)
end

/-! ## Definitions -/

theorem reads_name {name : String} (h : isPlain name) :
    Reads (nameLayout name) (nameImage name) := by
  unfold nameLayout nameImage
  split
  next => exact closes_empty.reads
  next hne => exact closes_space.append_reads (reads_identifier (by simp [isIdentifier, hne, h]))

theorem breaks_name (name : String) : Breaks (nameLayout name) := by
  unfold nameLayout
  split
  · exact breaks_empty
  · exact breaks_space name

theorem geometryLayout_eq (props : List Property) :
    geometryLayout props = ":" ++ "geometry" ++ (" " ++ ("(" ++ ("geometry" ++ (" " ++
      "\n  ".intercalate (props.map Property.layout))) ++ ")")) := by
  have hstart : ":geometry (geometry " =
      ":" ++ ("geometry" ++ (" " ++ ("(" ++ ("geometry" ++ " ")))) := by
    simp
  rw [geometryLayout_def, hstart]
  simp only [String.append_assoc]

theorem reads_geometry {props : List Property} (h : props.all Property.isReadable) :
    Reads (geometryLayout props) (geometryImage props) := by
  have hprops := reads_intercalate (closes_blanks (s := "\n  ") rfl) (breaks_start rfl)
    fun p hp => reads_property (List.all_eq_true.1 h p hp)
  have hin := (reads_identifier (s := "geometry") rfl).append (breaks_space _)
    (closes_space.append_reads hprops)
  have hall := (reads_key (show isIdentifier "geometry" from rfl)).append (breaks_space _)
    (closes_space.append (closes_brackets .round hin)).reads
  rw [geometryLayout_eq]
  exact hall

/-- A text that starts with a keyword behind its bracket. -/
theorem closes_keyword (keyword : String) {s : String} {es : List SExpr}
    (hk : isIdentifier keyword) (hb : Breaks s) (h : Reads s es) :
    Closes ("(" ++ keyword ++ s ++ ")") [.list (.atom keyword :: es)] := by
  have hc := closes_brackets .round ((reads_identifier hk).append hb h)
  rw [@String.append_assoc "("]
  exact hc

theorem closes_window {d : Window} (h : (Definition.window d).isOver readable) :
    Closes d.layout [Definition.image (.window d)] := by
  obtain ⟨name, props, geometry, children⟩ := d
  obtain ⟨hname, hprops, hgeo, hchildren⟩ := isOver_window.1 h
  have hblock : Breaks ((geometry.map fun g => lineStart windowLevel ++ geometryLayout g).getD "") ∧
      Reads ((geometry.map fun g => lineStart windowLevel ++ geometryLayout g).getD "")
        ((geometry.map geometryImage).getD []) := by
    cases geometry with
    | none => exact ⟨breaks_empty, closes_empty.reads⟩
    | some g =>
      exact ⟨breaks_lineStart windowLevel _,
        (closes_lineStart windowLevel).append_reads (reads_geometry hgeo)⟩
  have hhead := (reads_name hname).append (breaks_properties windowLevel props)
    (reads_properties hprops)
  have hheadb := breaks_append (breaks_name name) (breaks_properties windowLevel props)
  have hitemsb := breaks_items windowLevel children
  have hin := (hhead.append hblock.1 hblock.2).append hitemsb
    (reads_items windowLevel children hchildren)
  have hinb := breaks_append (breaks_append hheadb hblock.1) hitemsb
  rw [Window.layout_eq]
  exact closes_keyword "defwindow" rfl hinb hin

theorem closes_widget {d : Widget} (h : (Definition.widget d).isOver readable) :
    Closes d.layout [Definition.image (.widget d)] := by
  obtain ⟨name, fields, body⟩ := d
  obtain ⟨hname, hfields, hbody⟩ := isOver_widget.1 h
  have hfs := reads_intercalate (f := id) (g := fun f => [.atom f]) closes_space breaks_space
    fun f hf => reads_identifier (List.all_eq_true.1 hfields f hf)
  have hvector := closes_space.append (closes_brackets .square hfs)
  have hc := closes_keyword "defwidget" rfl
    (breaks_append (breaks_append (breaks_name name) (breaks_space _))
      (breaks_items widgetLevel body))
    (((reads_name hname).append (breaks_space _) hvector.reads).append
      (breaks_items widgetLevel body) (reads_items widgetLevel body hbody))
  have htext : Widget.layout ⟨name, fields, body⟩ = "(" ++ "defwidget" ++ (nameLayout name ++
      (" " ++ ("[" ++ " ".intercalate (fields.map id) ++ "]")) ++ itemsLayout widgetLevel body) ++
      ")" := by
    rw [Widget.layout_eq, show " [" = " " ++ "[" from rfl]
    simp only [String.append_assoc, List.map_id_fun, id]
    rfl
  have himage : Definition.image (.widget ⟨name, fields, body⟩) = .list (.atom "defwidget" ::
      (nameImage name ++ ([] ++ [.vector (fields.flatMap fun f => [.atom f])]) ++
        imageAll body)) := by
    rw [Definition.image, ← List.map_eq_flatMap]; rfl
  rw [htext, himage]
  exact hc

theorem closes_definition {d : Definition} (h : d.isOver readable) : Closes d.layout [d.image] := by
  cases d with
  | window d => exact closes_window h
  | widget d => exact closes_widget h

/-! ## Files -/

theorem closes_header : Closes (header ++ "\n\n") [] := by
  have h := (closes_comment (s := "; Auto-generated Yuck widgets from HTML ;;") (by decide)).append
    (closes_blanks (s := "\n") rfl)
  exact h

/-- **Reading gives back what was written**: the text of readable definitions reads as one
    expression for each of them, its image. -/
theorem read?_yuck (ds : List Definition) (h : ds.all (Definition.isOver readable)) :
    SExpr.read? (yuck ds) = some (ds.map Definition.image) := by
  have hline := closes_blanks (s := "\n") rfl
  have hds := reads_intercalate hline (breaks_start rfl) fun d hd =>
    ((closes_definition (List.all_eq_true.1 h d hd)).append hline).reads
  rw [yuck_eq]
  have himages : ds.map Definition.image = ds.flatMap fun d => [d.image] ++ [] := by
    simp [List.map_eq_flatMap]
  apply read?_of_reads
  rw [himages]
  exact closes_header.append_reads hds

/-- A window without a name, with a flag in front of its geometry block, and a widget with an
    empty list in front of a closing bracket. -/
theorem read?_yuck_flag_and_empty_list :
    SExpr.read? (yuck
      [.window ⟨"", [.flag "exclusive"], some [.valued "x" (.str "0 px")], [.value (.int "-7")]⟩,
       .widget ⟨"w", ["a", "b"], [.form "box" [.valued "on" (.call "(f \";\" [a])")]
         [.value (.bool true), .form "label" [.valued "t" (.list "")] []]]⟩]) =
    some
      [.list [.atom "defwindow", .atom ":exclusive", .atom ":geometry",
         .list [.atom "geometry", .atom ":x", .str "0 px"], .atom "-7"],
       .list [.atom "defwidget", .atom "w", .vector [.atom "a", .atom "b"],
         .list [.atom "box", .atom ":on", .list [.atom "f", .str ";", .vector [.atom "a"]],
           .atom "true", .list [.atom "label", .atom ":t"]]]] :=
  read?_yuck _ (by rfl)

end WidgetMarkup.Yuck
