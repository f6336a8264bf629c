/-
  Texts that can be taken off the front of a longer text.

  A layout is followed by something that breaks words: a blank or a bracket.  If two
  layouts with what follows them are the same text, then the layouts come from the same
  literal, property or item, and the same text follows (`literal_cancel`, `item_cancel`).
  `join_cancel` and `intercalate_cancel` carry this over to sequences.

  In decodable definitions literals are numerals, truth values and strings without a quote,
  and only windows have flags.
-/
import WidgetMarkup.Proofs.RoundTrip

namespace WidgetMarkup.Yuck

/-! ## Characters in front -/

theorem append_cancel_left {s r q : String} (h : s ++ r = s ++ q) : r = q :=
  (String.append_right_inj s).1 h

/-- The longest start of a text whose characters have a property is unique. -/
theorem span_cancel {p : Char → Bool} {s t r q : List Char} (hs : ∀ c ∈ s, p c)
    (ht : ∀ c ∈ t, p c) (hr : ∀ c ∈ r.head?, p c = false) (hq : ∀ c ∈ q.head?, p c = false)
    (h : s ++ r = t ++ q) : s = t ∧ r = q := by
  induction s generalizing t with
  | nil =>
    cases t with
    | nil => exact ⟨rfl, h⟩
    | cons d t =>
      have hd := hr d (by rw [List.nil_append] at h; simp [h])
      rw [ht d (by simp)] at hd
      cases hd
  | cons c s ih =>
    cases t with
    | nil =>
      have hc := hq c (by rw [List.nil_append] at h; simp [← h])
      rw [hs c (by simp)] at hc
      cases hc
    | cons d t =>
      obtain ⟨rfl, hst⟩ := List.cons.inj h
      obtain ⟨rfl, rfl⟩ := ih (fun e he => hs e (by simp [he]))
        (fun e he => ht e (by simp [he])) hst
      exact ⟨rfl, rfl⟩

theorem word_cancel {s t r q : String} (hs : isPlain s) (ht : isPlain t) (hr : Breaks r)
    (hq : Breaks q) (h : s ++ r = t ++ q) : s = t ∧ r = q := by
  have hl : s.toList ++ r.toList = t.toList ++ q.toList := by
    simpa using congrArg String.toList h
  obtain ⟨hst, hrq⟩ := span_cancel (List.all_eq_true.1 hs) (List.all_eq_true.1 ht) hr hq hl
  exact ⟨String.toList_inj.1 hst, String.toList_inj.1 hrq⟩

theorem string_cancel {s t r q : String} (hs : '"' ∉ s.toList) (ht : '"' ∉ t.toList)
    (h : s ++ ("\"" ++ r) = t ++ ("\"" ++ q)) : s = t ∧ r = q := by
  have hl : s.toList ++ '"' :: r.toList = t.toList ++ '"' :: q.toList := by
    simpa using congrArg String.toList h
  have hne : ∀ u : String, '"' ∉ u.toList → ∀ c ∈ u.toList, (c != '"') = true := by
    rintro u hu c hc
    exact bne_iff_ne.2 fun he => hu (he ▸ hc)
  obtain ⟨hst, hrq⟩ := span_cancel (p := (· != '"')) (hne s hs) (hne t ht) (by simp) (by simp) hl
  exact ⟨String.toList_inj.1 hst, String.toList_inj.1 (List.cons.inj hrq).2⟩

/-- Whether two texts begin with different characters. -/
def startApart (s t : String) : Bool :=
  match s.toList, t.toList with
  | c :: _, d :: _ => c != d
  | _, _ => false

theorem start_ne {s t : String} (h : startApart s t) (r q : String) : s ++ r ≠ t ++ q := by
  intro he
  have hl := congrArg String.toList he
  simp only [String.toList_append] at hl
  unfold startApart at h
  split at h
  next c cs d ds hs ht =>
    rw [hs, ht] at hl
    exact bne_iff_ne.1 h (List.cons.inj hl).1
  · cases h

/-! ## Sequences -/

section
variable {α : Type} {g : α → String} {P : α → Prop}

/-- **Pieces without separators.**  `Fits x r`: the text `r` may follow the piece of `x`. -/
theorem join_cancel (Fits : α → String → Prop)
    (hg : ∀ x y r q, P x → P y → Fits x r → Fits y q → g x ++ r = g y ++ q → x = y ∧ r = q)
    (hmid : ∀ x y r, P x → P y → Fits x (g y ++ r)) {xs ys : List α} {r q : String}
    (hxs : ∀ x ∈ xs, P x) (hys : ∀ y ∈ ys, P y) (hr : ∀ x ∈ xs.getLast?, Fits x r)
    (hq : ∀ y ∈ ys.getLast?, Fits y q) (hr' : ∀ x t, P x → r ≠ g x ++ t)
    (hq' : ∀ y t, P y → q ≠ g y ++ t)
    (h : String.join (xs.map g) ++ r = String.join (ys.map g) ++ q) : xs = ys ∧ r = q := by
  -- what follows a piece is the next piece or the end
  have hnext : ∀ (x : α) (zs : List α) (t : String), P x → (∀ z ∈ zs, P z) →
      (∀ z ∈ (x :: zs).getLast?, Fits z t) → Fits x (String.join (zs.map g) ++ t) := by
    intro x zs t hx hzs ht
    cases zs with
    | nil => simpa using ht x (by simp)
    | cons z zs =>
      rw [List.map_cons, String.join_cons, String.append_assoc]
      exact hmid x z _ hx (hzs z (by simp))
  induction xs generalizing ys with
  | nil =>
    cases ys with
    | nil => simpa using h
    | cons y ys =>
      simp only [List.map_nil, String.join_nil, String.empty_append, List.map_cons,
        String.join_cons, String.append_assoc] at h
      exact absurd h (hr' y _ (hys y (by simp)))
  | cons x xs ih =>
    cases ys with
    | nil =>
      simp only [List.map_nil, String.join_nil, String.empty_append, List.map_cons,
        String.join_cons, String.append_assoc] at h
      exact absurd h.symm (hq' x _ (hxs x (by simp)))
    | cons y ys =>
      simp only [List.map_cons, String.join_cons, String.append_assoc] at h
      have hxs' : ∀ z ∈ xs, P z := fun z hz => hxs z (by simp [hz])
      have hys' : ∀ z ∈ ys, P z := fun z hz => hys z (by simp [hz])
      obtain ⟨rfl, hrest⟩ := hg x y _ _ (hxs x (by simp)) (hys y (by simp))
        (hnext x xs r (hxs x (by simp)) hxs' hr) (hnext y ys q (hys y (by simp)) hys' hq) h
      have hlast : ∀ (zs : List α) (t : String), (∀ z ∈ (x :: zs).getLast?, Fits z t) →
          ∀ z ∈ zs.getLast?, Fits z t := by
        intro zs t ht z hz
        exact ht z (by rw [List.getLast?_cons, hz]; simp)
      obtain ⟨rfl, rfl⟩ := ih hxs' hys' (hlast xs r hr) (hlast ys q hq) hrest
      exact ⟨rfl, rfl⟩

theorem intercalate_cons_eq_join (separator : String) (x : α) (xs : List α) :
    separator.intercalate ((x :: xs).map g) =
      g x ++ String.join (xs.map fun y => separator ++ g y) := by
  induction xs generalizing x with
  | nil => simp
  | cons y ys ih =>
    rw [List.map_cons, List.map_cons, String.intercalate_cons_cons, ← List.map_cons, ih,
      List.map_cons, String.join_cons]
    simp only [String.append_assoc]

/-- **Pieces with separators.** -/
theorem intercalate_cancel {separator : String} (hsep : ∀ s, Breaks (separator ++ s))
    (hg : ∀ x y r q, P x → P y → Breaks r → Breaks q → g x ++ r = g y ++ q → x = y ∧ r = q)
    {xs ys : List α} {r q : String} (hxs : ∀ x ∈ xs, P x) (hys : ∀ y ∈ ys, P y)
    (hr : Breaks r) (hq : Breaks q) (hr' : ∀ x t, P x → r ≠ g x ++ t)
    (hq' : ∀ y t, P y → q ≠ g y ++ t) (hrs : ∀ t, r ≠ separator ++ t)
    (hqs : ∀ t, q ≠ separator ++ t)
    (h : separator.intercalate (xs.map g) ++ r = separator.intercalate (ys.map g) ++ q) :
    xs = ys ∧ r = q := by
  cases xs with
  | nil =>
    cases ys with
    | nil => simpa using h
    | cons y ys =>
      rw [intercalate_cons_eq_join, String.append_assoc] at h
      simp only [List.map_nil, String.intercalate_nil, String.empty_append] at h
      exact absurd h (hr' y _ (hys y (by simp)))
  | cons x xs =>
    cases ys with
    | nil =>
      rw [intercalate_cons_eq_join, String.append_assoc] at h
      simp only [List.map_nil, String.intercalate_nil, String.empty_append] at h
      exact absurd h.symm (hq' x _ (hxs x (by simp)))
    | cons y ys =>
      rw [intercalate_cons_eq_join, intercalate_cons_eq_join, String.append_assoc,
        String.append_assoc] at h
      have hbreak : ∀ (zs : List α) {t : String}, Breaks t →
          Breaks (String.join (zs.map fun z => separator ++ g z) ++ t) := fun zs t ht =>
        breaks_append (breaks_join fun z _ => hsep (g z)) ht
      obtain ⟨rfl, hrest⟩ := hg x y _ _ (hxs x (by simp)) (hys y (by simp)) (hbreak xs hr)
        (hbreak ys hq) h
      have hpiece : ∀ x y r q, P x → P y → Breaks r → Breaks q →
          separator ++ g x ++ r = separator ++ g y ++ q → x = y ∧ r = q := by
        intro x y r q hx hy hr hq h
        simp only [String.append_assoc] at h
        exact hg x y r q hx hy hr hq (append_cancel_left h)
      have hend : ∀ {t : String}, (∀ u, t ≠ separator ++ u) → ∀ (x : α) (u : String), P x →
          t ≠ separator ++ g x ++ u := by
        intro t ht x u _
        rw [String.append_assoc]
        exact ht _
      obtain ⟨rfl, rfl⟩ := join_cancel (fun _ t => Breaks t) hpiece
        (fun x y t _ _ => by rw [String.append_assoc]; exact hsep _)
        (fun z hz => hxs z (by simp [hz])) (fun z hz => hys z (by simp [hz])) (fun _ _ => hr)
        (fun _ _ => hq) (hend hrs) (hend hqs) hrest
      exact ⟨rfl, rfl⟩

end

/-! ## Literals and properties -/

/-- A numeral, a truth value or a string without a quote. -/
def Literal.isDecodable : Literal → Bool
  | .int numeral => (Numeral.readInt? numeral.toList).isSome
  | .bool _ => true
  | .str content => !content.toList.contains '"'
  | .expr _ | .call _ | .list _ => false

/-- A property of a form: it has a value. -/
def Property.isDecodable (p : Property) : Bool :=
  isIdentifier p.key && p.value.any Literal.isDecodable

/-- A string that is not empty. -/
def Literal.isFilledString : Literal → Bool
  | .str content => !content.isEmpty
  | .int _ | .expr _ | .call _ | .list _ | .bool _ => false

/-- A property of a window: a flag, or a string that is not empty. -/
def Property.isWindowProperty (p : Property) : Bool :=
  isIdentifier p.key && p.value.all fun l => l.isDecodable && l.isFilledString

/-- What documents give, with identifiers and decodable literals only. -/
def decodable : Vocabulary where
  name := isPlain
  word := isIdentifier
  windowProperty := Property.isWindowProperty
  property := Property.isDecodable
  literal := Literal.isDecodable

theorem isPlain_of_isIdentifier {s : String} (h : isIdentifier s) : isPlain s :=
  (Bool.and_eq_true_iff.1 h).2

theorem ne_empty_of_isIdentifier {s : String} (h : isIdentifier s) : s ≠ "" := by
  simpa using (Bool.and_eq_true_iff.1 h).1

/-- A literal that is not a string is written as a word. -/
theorem isIdentifier_text {l : Literal} (h : l.isDecodable) (hs : ∀ s, l ≠ .str s) :
    isIdentifier l.text := by
  cases l with
  | int numeral =>
    obtain ⟨hne, hw⟩ := readInt?_isPlain h
    simpa [isIdentifier, isPlain, Literal.text] using And.intro (by simpa using hne) hw
  | bool b => cases b <;> rfl
  | str s => exact absurd rfl (hs s)
  | expr | call | list => cases h

/-- A word does not start with a character that ends words. -/
theorem identifier_ne {s t : String} (h : isIdentifier s) (ht : isBreak t) (r q : String) :
    s ++ r ≠ t ++ q := by
  obtain ⟨c, cs, hc⟩ := List.exists_cons_of_ne_nil
    (mt String.toList_eq_nil_iff.1 (ne_empty_of_isIdentifier h))
  have hw : isWordChar c := List.all_eq_true.1 (isPlain_of_isIdentifier h) c (by simp [hc])
  intro he
  have hn := breaks_start ht q c (by rw [← he, String.toList_append, hc]; rfl)
  rw [hw] at hn
  cases hn

theorem numeral_ne_truth {numeral : String} (h : (Numeral.readInt? numeral.toList).isSome)
    (b : Bool) : numeral ≠ (Literal.bool b).text := by
  rintro rfl
  cases b <;> exact absurd h (by decide)

/-- Words stand for one literal each. -/
theorem text_inj {l m : Literal} (hl : l.isDecodable) (hm : m.isDecodable)
    (hls : ∀ s, l ≠ .str s) (hms : ∀ s, m ≠ .str s) (h : l.text = m.text) : l = m := by
  cases l with
  | str s => exact absurd rfl (hls s)
  | expr | call | list => cases hl
  | int n =>
    cases m with
    | str s => exact absurd rfl (hms s)
    | expr | call | list => cases hm
    | int n' => exact congrArg Literal.int h
    | bool b => exact absurd h (numeral_ne_truth hl b)
  | bool b =>
    cases m with
    | str s => exact absurd rfl (hms s)
    | expr | call | list => cases hm
    | int n => exact absurd h.symm (numeral_ne_truth hm b)
    | bool b' =>
      cases b <;> cases b' <;> first | rfl | exact absurd h (by decide)

theorem text_str_append (s r : String) :
    (Literal.str s).text ++ r = "\"" ++ (s ++ ("\"" ++ r)) := by
  simp only [Literal.text, String.append_assoc]

/-- **The text of a literal can be taken off.** -/
theorem literal_cancel {l m : Literal} {r q : String} (hl : l.isDecodable) (hm : m.isDecodable)
    (hr : Breaks r) (hq : Breaks q) (h : l.text ++ r = m.text ++ q) : l = m ∧ r = q := by
  by_cases hls : ∃ s, l = .str s
  · obtain ⟨s, rfl⟩ := hls
    by_cases hms : ∃ t, m = .str t
    · obtain ⟨t, rfl⟩ := hms
      rw [text_str_append, text_str_append] at h
      obtain ⟨rfl, rfl⟩ := string_cancel (by simpa [Literal.isDecodable] using hl)
        (by simpa [Literal.isDecodable] using hm) (append_cancel_left h)
      exact ⟨rfl, rfl⟩
    · have hw := isIdentifier_text hm fun t ht => hms ⟨t, ht⟩
      rw [text_str_append] at h
      exact absurd h.symm (identifier_ne hw rfl _ _)
  · have hw := isIdentifier_text hl fun s hs => hls ⟨s, hs⟩
    by_cases hms : ∃ t, m = .str t
    · obtain ⟨t, rfl⟩ := hms
      rw [text_str_append] at h
      exact absurd h (identifier_ne hw rfl _ _)
    · have hw' := isIdentifier_text hm fun t ht => hms ⟨t, ht⟩
      obtain ⟨ht, rfl⟩ := word_cancel (isPlain_of_isIdentifier hw) (isPlain_of_isIdentifier hw')
        hr hq h
      exact ⟨text_inj hl hm (fun s hs => hls ⟨s, hs⟩) (fun t ht => hms ⟨t, ht⟩) ht, rfl⟩

theorem property_start (p : Property) : ∃ t, p.layout = ":" ++ t := by
  obtain ⟨key, value⟩ := p
  cases value with
  | none => exact ⟨key, rfl⟩
  | some l => exact ⟨key ++ (" " ++ l.text), by simp [Property.layout, String.append_assoc]⟩

theorem property_cancel {p p' : Property} {r q : String} (hp : p.isDecodable)
    (hp' : p'.isDecodable) (hr : Breaks r) (hq : Breaks q) (h : p.layout ++ r = p'.layout ++ q) :
    p = p' ∧ r = q := by
  obtain ⟨key, value⟩ := p
  obtain ⟨key', value'⟩ := p'
  obtain ⟨hk, hv⟩ := Bool.and_eq_true_iff.1 hp
  obtain ⟨hk', hv'⟩ := Bool.and_eq_true_iff.1 hp'
  cases value with
  | none => cases hv
  | some l =>
    cases value' with
    | none => cases hv'
    | some l' =>
      simp only [Property.layout, String.append_assoc] at h
      obtain ⟨rfl, hval⟩ := word_cancel (isPlain_of_isIdentifier hk) (isPlain_of_isIdentifier hk')
        (breaks_space _) (breaks_space _) (append_cancel_left h)
      obtain ⟨rfl, rfl⟩ := literal_cancel hv hv' hr hq (append_cancel_left hval)
      exact ⟨rfl, rfl⟩

/-! ## Items -/

/-- What follows the properties of a form: items at the level of the properties, then the
    closing bracket. -/
theorem itemsLayout_ne_property {level : Nat} (is : List Item) (r t : String) :
    itemsLayout level is ++ (")" ++ r) ≠ lineStart level ++ (":" ++ t) := by
  have hline : ∀ {s u : String} (v : String), startApart s "\n" →
      s ++ u ≠ lineStart level ++ v := by
    intro s u v hs
    rw [lineStart, String.append_assoc]
    exact start_ne hs u _
  cases is with
  | nil =>
    rw [itemsLayout, String.empty_append]
    exact hline _ rfl
  | cons i is =>
    cases i with
    | value l =>
      simp only [itemsLayout, Item.layout, String.append_assoc]
      exact hline _ rfl
    | form tag props children =>
      simp only [itemsLayout, Item.layout, String.append_assoc]
      intro h
      exact start_ne rfl _ _ (append_cancel_left h)

theorem item_ne_close {level : Nat} (i : Item) (r t : String) :
    i.layout level ++ r ≠ ")" ++ t := by
  cases i with
  | value l =>
    simp only [Item.layout, String.append_assoc]
    exact start_ne rfl _ _
  | form tag props children =>
    simp only [Item.layout, lineStart, String.append_assoc]
    exact start_ne rfl _ _

theorem properties_cancel {level : Nat} {ps ps' : List Property} {r q : String}
    (hps : ps.all Property.isDecodable) (hps' : ps'.all Property.isDecodable) (hr : Breaks r)
    (hq : Breaks q) (hr' : ∀ t, r ≠ lineStart level ++ (":" ++ t))
    (hq' : ∀ t, q ≠ lineStart level ++ (":" ++ t))
    (h : String.join (ps.map fun p => lineStart level ++ p.layout) ++ r =
      String.join (ps'.map fun p => lineStart level ++ p.layout) ++ q) : ps = ps' ∧ r = q := by
  have hend : ∀ {u : String}, (∀ t, u ≠ lineStart level ++ (":" ++ t)) →
      ∀ (p : Property) (t : String), p.isDecodable → u ≠ lineStart level ++ p.layout ++ t := by
    intro u hu p t _
    obtain ⟨v, hv⟩ := property_start p
    rw [hv, String.append_assoc, String.append_assoc]
    exact hu _
  refine join_cancel (P := fun p => p.isDecodable) (fun _ t => Breaks t) ?_ ?_
    (List.all_eq_true.1 hps) (List.all_eq_true.1 hps') (fun _ _ => hr) (fun _ _ => hq)
    (hend hr') (hend hq') h
  · intro p p' r q hp hp' hr hq h
    simp only [String.append_assoc] at h
    exact property_cancel hp hp' hr hq (append_cancel_left h)
  · intro p p' t _ _
    rw [String.append_assoc]
    exact breaks_lineStart level _

mutual
/-- **The text of an item can be taken off**, at every level. -/
theorem item_cancel {level : Nat} {r q : String} : (i j : Item) → i.isOver decodable →
    j.isOver decodable → Breaks r → Breaks q → i.layout level ++ r = j.layout level ++ q → i = j ∧ r = q
  | .value l, .value m, hi, hj, hr, hq, h => by
    simp only [Item.layout, String.append_assoc] at h
    obtain ⟨rfl, rfl⟩ := literal_cancel hi hj hr hq (append_cancel_left h)
    exact ⟨rfl, rfl⟩
  | .value l, .form tag props children, _, _, _, _, h => by
    simp only [Item.layout, lineStart, String.append_assoc] at h
    exact absurd h (start_ne rfl _ _)
  | .form tag props children, .value l, _, _, _, _, h => by
    simp only [Item.layout, lineStart, String.append_assoc] at h
    exact absurd h (start_ne rfl _ _)
  | .form tag props children, .form tag' props' children', hi, hj, hr, hq, h => by
    obtain ⟨ht, hp, hc⟩ := isOver_form.1 hi
    obtain ⟨ht', hp', hc'⟩ := isOver_form.1 hj
    simp only [Item.layout, String.append_assoc] at h
    have hbreak : ∀ (is : List Item) (t : String),
        Breaks (itemsLayout (level + 1) is ++ (")" ++ t)) := fun is t =>
      breaks_append (breaks_items (level + 1) is) (breaks_start rfl _)
    obtain ⟨rfl, hrest⟩ := word_cancel (isPlain_of_isIdentifier ht) (isPlain_of_isIdentifier ht')
      (breaks_append (breaks_properties (level + 1) props) (hbreak children r))
      (breaks_append (breaks_properties (level + 1) props') (hbreak children' q))
      (append_cancel_left (append_cancel_left h))
    obtain ⟨rfl, hitems⟩ := properties_cancel hp hp' (hbreak children r) (hbreak children' q)
      (itemsLayout_ne_property children r) (itemsLayout_ne_property children' q) hrest
    obtain ⟨rfl, rfl⟩ := items_cancel children children' hc hc' hitems
    exact ⟨rfl, rfl⟩

theorem items_cancel {level : Nat} {r q : String} : (is js : List Item) → allOver decodable is →
    allOver decodable js → itemsLayout level is ++ (")" ++ r) = itemsLayout level js ++ (")" ++ q) →
    is = js ∧ r = q
  | [], [], _, _, h => ⟨rfl, by simpa [itemsLayout] using h⟩
  | [], j :: js, _, _, h => by
    simp only [itemsLayout, String.append_assoc, String.empty_append] at h
    exact absurd h.symm (item_ne_close j _ _)
  | i :: is, [], _, _, h => by
    simp only [itemsLayout, String.append_assoc, String.empty_append] at h
    exact absurd h (item_ne_close i _ _)
  | i :: is, j :: js, hi, hj, h => by
    obtain ⟨hi, his⟩ := allOver_cons.1 hi
    obtain ⟨hj, hjs⟩ := allOver_cons.1 hj
    simp only [itemsLayout, String.append_assoc] at h
    obtain ⟨rfl, hrest⟩ := item_cancel i j hi hj
      (breaks_append (breaks_items level is) (breaks_start rfl _))
      (breaks_append (breaks_items level js) (breaks_start rfl _)) h
    obtain ⟨rfl, rfl⟩ := items_cancel is js his hjs hrest
    exact ⟨rfl, rfl⟩
end

end WidgetMarkup.Yuck
