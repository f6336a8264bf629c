/-
  Reading comments, doctypes and character data sections.

  `declaration` reads what stands behind `<!`.  A declaration of no known kind is a
  comment up to the next `>`.
-/
import WidgetMarkup.Html.Characters

namespace WidgetMarkup.Html

/-! ## Comments -/

/-- What stands behind the end of a comment. -/
def afterComment : List Char → List Char
  | '-' :: '-' :: '>' :: cs => cs
  | '-' :: '-' :: '!' :: '>' :: cs => cs
  | _ :: cs => afterComment cs
  | [] => []

/-- What stands behind a comment whose start is read; `<!-->` and `<!--->` are comments. -/
def afterCommentStart : List Char → List Char
  | '>' :: cs => cs
  | '-' :: '>' :: cs => cs
  | cs => afterComment cs

/-! ## Character data sections -/

/-- The number of characters before the end of a character data section. -/
def sectionLength : List Char → Nat
  | ']' :: ']' :: '>' :: _ => 0
  | _ :: cs => sectionLength cs + 1
  | [] => 0

/-! ## Doctypes -/

/-- A quoted identifier of a doctype, and what stands behind it. -/
structure QuotedId where
  id : String
  /-- Whether its quote is closed. -/
  closed : Bool
  rest : List Char

/-- Reads a quoted identifier from behind its quote on.  A `>` or the end of the input
    breaks it off. -/
def quotedId (quote : Char) (cs : List Char) : QuotedId :=
  let inside := fun c => c != quote && c != '>'
  let id := String.ofList ((cs.takeWhile inside).map replaceNul)
  match cs.dropWhile inside with
  | c :: rest => if c == quote then ⟨id, true, rest⟩ else ⟨id, false, c :: rest⟩
  | [] => ⟨id, false, []⟩

/-- The end of a doctype: what stands up to the next `>` is skipped. -/
def closeDoctype (d : Doctype) (cs : List Char) : Doctype × List Char :=
  (d, behind '>' cs)

/-- A doctype that is malformed from here on. -/
def breakDoctype (d : Doctype) (cs : List Char) : Doctype × List Char :=
  closeDoctype { d with broken := true } cs

/-- Reads the end of a doctype with nothing left to read in it. -/
def doctypeEnd (d : Doctype) (cs : List Char) : Doctype × List Char :=
  match cs.dropWhile isSpace with
  | [] => ({ d with broken := true }, [])
  | rest => closeDoctype d rest

/-- Reads the system identifier of a doctype; without `required` it may be missing. -/
def doctypeSystemId (required : Bool) (d : Doctype) (cs : List Char) : Doctype × List Char :=
  match cs.dropWhile isSpace with
  | c :: rest =>
    if c == '"' || c == '\x27' then
      let read := quotedId c rest
      let d := { d with systemId := some read.id }
      if read.closed then doctypeEnd d read.rest else breakDoctype d read.rest
    else if c == '>' && !required then (d, rest)
    else breakDoctype d (c :: rest)
  | [] => breakDoctype d []

/-- Reads the public identifier of a doctype. -/
def doctypePublicId (d : Doctype) (cs : List Char) : Doctype × List Char :=
  match cs.dropWhile isSpace with
  | c :: rest =>
    if c == '"' || c == '\x27' then
      let read := quotedId c rest
      let d := { d with publicId := some read.id }
      if read.closed then doctypeSystemId false d read.rest else breakDoctype d read.rest
    else breakDoctype d (c :: rest)
  | [] => breakDoctype d []

/-- Reads a doctype from behind its keyword on. -/
def doctype (cs : List Char) : Doctype × List Char :=
  let cs := cs.dropWhile isSpace
  let inName := fun c => !isSpace c && c != '>'
  let d : Doctype := { name := nameOf (cs.takeWhile inName) }
  if d.name.isEmpty then breakDoctype d cs
  else
    let cs := (cs.dropWhile inName).dropWhile isSpace
    match cs with
    | [] => breakDoctype d []
    | '>' :: rest => (d, rest)
    | cs =>
      match afterWord? "public".toList cs with
      | some rest => doctypePublicId d rest
      | none =>
        match afterWord? "system".toList cs with
        | some rest => doctypeSystemId true d rest
        | none => breakDoctype d cs

/-! ## Declarations -/

/-- Reads a declaration from behind `<!` on.  Character data sections exist in foreign
    content only. -/
def declaration (foreign : Bool) (cs : List Char) : List Token × List Char :=
  match cs with
  | '-' :: '-' :: rest => ([.comment], afterCommentStart rest)
  | cs =>
    match afterWord? "doctype".toList cs with
    | some rest => let (d, rest) := doctype rest; ([.doctype d], rest)
    | none =>
      match if foreign then some cs else none with
      | some ('[' :: 'C' :: 'D' :: 'A' :: 'T' :: 'A' :: '[' :: rest) =>
        let n := sectionLength rest
        (Token.ofChars ((rest.take n).map some), rest.drop (n + 3))
      | _ => ([.comment], behind '>' cs)

/-! ## Lengths -/

theorem length_afterComment_le (cs : List Char) : (afterComment cs).length ≤ cs.length := by
  fun_induction afterComment cs <;> simp_all <;> omega

theorem length_afterCommentStart_le (cs : List Char) :
    (afterCommentStart cs).length ≤ cs.length := by
  unfold afterCommentStart
  split
  · simp
  · simp; omega
  · exact length_afterComment_le cs

theorem length_quotedId_le (quote : Char) (cs : List Char) :
    (quotedId quote cs).rest.length ≤ cs.length := by
  have h := length_dropWhile_le (fun c => c != quote && c != '>') cs
  unfold quotedId
  simp only
  split
  · next c rest hd =>
    rw [hd, List.length_cons] at h
    split
    · simp only; omega
    · simpa using h
  · simp

theorem length_closeDoctype_le (d : Doctype) (cs : List Char) :
    (closeDoctype d cs).2.length ≤ cs.length :=
  length_behind_le _ _

theorem length_breakDoctype_le (d : Doctype) (cs : List Char) :
    (breakDoctype d cs).2.length ≤ cs.length :=
  length_behind_le _ _

theorem length_doctypeEnd_le (d : Doctype) (cs : List Char) :
    (doctypeEnd d cs).2.length ≤ cs.length := by
  have h := length_dropWhile_le isSpace cs
  unfold doctypeEnd
  split
  · simp
  · exact Nat.le_trans (length_closeDoctype_le _ _) h

theorem length_doctypeSystemId_le (required : Bool) (d : Doctype) (cs : List Char) :
    (doctypeSystemId required d cs).2.length ≤ cs.length := by
  have h := length_dropWhile_le isSpace cs
  unfold doctypeSystemId
  split
  · next c rest hd =>
    rw [hd, List.length_cons] at h
    have hq := length_quotedId_le c rest
    split
    · simp only
      split
      · have := length_doctypeEnd_le { d with systemId := some (quotedId c rest).id }
          (quotedId c rest).rest
        omega
      · have := length_breakDoctype_le { d with systemId := some (quotedId c rest).id }
          (quotedId c rest).rest
        omega
    · split
      · simp only; omega
      · have := length_breakDoctype_le d (c :: rest)
        simp only [List.length_cons] at this
        omega
  · simp [breakDoctype, closeDoctype, behind]

theorem length_doctypePublicId_le (d : Doctype) (cs : List Char) :
    (doctypePublicId d cs).2.length ≤ cs.length := by
  have h := length_dropWhile_le isSpace cs
  unfold doctypePublicId
  split
  · next c rest hd =>
    rw [hd, List.length_cons] at h
    have hq := length_quotedId_le c rest
    split
    · simp only
      split
      · have := length_doctypeSystemId_le false { d with publicId := some (quotedId c rest).id }
          (quotedId c rest).rest
        omega
      · have := length_breakDoctype_le { d with publicId := some (quotedId c rest).id }
          (quotedId c rest).rest
        omega
    · have := length_breakDoctype_le d (c :: rest)
      simp only [List.length_cons] at this
      omega
  · simp [breakDoctype, closeDoctype, behind]

theorem length_doctype_le (cs : List Char) : (doctype cs).2.length ≤ cs.length := by
  have h₁ := length_dropWhile_le isSpace cs
  have h₂ := length_dropWhile_le (fun c => !isSpace c && c != '>') (cs.dropWhile isSpace)
  have h₃ := length_dropWhile_le isSpace
    ((cs.dropWhile isSpace).dropWhile fun c => !isSpace c && c != '>')
  unfold doctype
  simp only
  split
  · exact Nat.le_trans (length_breakDoctype_le _ _) h₁
  · split
    · simp [breakDoctype, closeDoctype, behind]
    · next rest hd =>
      rw [hd, List.length_cons] at h₃
      simp only
      omega
    · split
      · next hw =>
        exact Nat.le_trans (length_doctypePublicId_le _ _)
          (by have := length_afterWord?_le hw; omega)
      · split
        · next hw =>
          exact Nat.le_trans (length_doctypeSystemId_le _ _ _)
            (by have := length_afterWord?_le hw; omega)
        · exact Nat.le_trans (length_breakDoctype_le _ _) (by omega)

theorem length_declaration_le (foreign : Bool) (cs : List Char) :
    (declaration foreign cs).2.length ≤ cs.length := by
  unfold declaration
  split
  · next rest =>
    have := length_afterCommentStart_le rest
    simp only [List.length_cons]
    omega
  · split
    · next rest hw =>
      have := length_afterWord?_le hw
      have := length_doctype_le rest
      simp only
      omega
    · split
      · next rest hf =>
        split at hf
        · simp only [Option.some.injEq] at hf
          subst hf
          simp only [List.length_drop, List.length_cons]
          omega
        · simp at hf
      · exact length_behind_le _ _

end WidgetMarkup.Html
