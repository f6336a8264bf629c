/-
  Trimmed texts.

  * `trim_eq_empty_iff`: nothing is left of a text if and only if all of it is blank.
  * `trim_eq_self_of_utf8ByteSize_eq`: what is left is a part of the text, so a text that
    loses no bytes is left as it is; hence a text of a document is always trimmed, whichever
    way `normalize` takes (`normalize_text`).
-/
import Mathlib.Data.List.DropRight
import WidgetMarkup.Document.Normal

namespace WidgetMarkup

theorem trimChars_eq (cs : List Char) :
    trimChars cs = (cs.dropWhile isBlank).rdropWhile isBlank := rfl

/-- What is left starts with a character that is not blank. -/
theorem dropWhile_trimChars (cs : List Char) :
    (trimChars cs).dropWhile isBlank = trimChars cs := by
  obtain ⟨rest, hrest⟩ := List.rdropWhile_prefix isBlank (cs.dropWhile isBlank)
  have hhead := List.head?_dropWhile_not isBlank cs
  rw [← hrest, ← trimChars_eq] at hhead
  cases htrim : trimChars cs with
  | nil => rfl
  | cons c kept =>
    rw [htrim] at hhead
    exact List.dropWhile_cons_of_neg (by simpa using hhead)

theorem trim_trim (s : String) : trim (trim s) = trim s := by
  have h : trimChars (trimChars s.toList) = trimChars s.toList := by
    rw [trimChars_eq (trimChars s.toList), dropWhile_trimChars, trimChars_eq,
      List.rdropWhile_idempotent]
  rw [trim, trim, String.toList_ofList, h]

/-- Nothing is left of a blank text only. -/
theorem trim_eq_empty_iff {s : String} : trim s = "" ↔ ∀ c ∈ s.toList, isBlank c := by
  rw [trim, String.ofList_eq_empty_iff, trimChars_eq, List.rdropWhile_eq_nil_iff]
  constructor
  · intro h
    have hhead := List.head?_dropWhile_not isBlank s.toList
    cases hrest : s.toList.dropWhile isBlank with
    | nil => exact List.dropWhile_eq_nil_iff.1 hrest
    | cons c rest =>
      rw [hrest] at h hhead
      simp [h c List.mem_cons_self] at hhead
  · intro h c hc
    exact h c ((List.dropWhile_sublist isBlank).subset hc)

theorem isEmpty_trim (s : String) : (trim s).isEmpty = s.toList.all isBlank := by
  rw [Bool.eq_iff_iff, String.isEmpty_iff, trim_eq_empty_iff, List.all_eq_true]

/-- What is left of a text stands inside it. -/
theorem exists_append_trim_append (s : String) : ∃ front back, s = front ++ trim s ++ back := by
  obtain ⟨back, hback⟩ := List.rdropWhile_prefix isBlank (s.toList.dropWhile isBlank)
  obtain ⟨front, hfront⟩ := List.dropWhile_suffix (l := s.toList) isBlank
  refine ⟨String.ofList front, String.ofList back, ?_⟩
  rw [trim, ← String.ofList_append, ← String.ofList_append, trimChars_eq, List.append_assoc,
    hback, hfront, String.ofList_toList]

theorem trim_eq_self_of_utf8ByteSize_eq {s : String}
    (h : (trim s).utf8ByteSize = s.utf8ByteSize) : trim s = s := by
  obtain ⟨front, back, hs⟩ := exists_append_trim_append s
  have hsize := congrArg String.utf8ByteSize hs
  rw [String.utf8ByteSize_append, String.utf8ByteSize_append] at hsize
  have hfront : front = "" := String.utf8ByteSize_eq_zero_iff.1 (by omega)
  have hback : back = "" := String.utf8ByteSize_eq_zero_iff.1 (by omega)
  rw [hfront, hback, String.empty_append, String.append_empty] at hs
  exact hs.symm

/-- **A text of a document is trimmed**, or dropped if it is blank. -/
theorem normalize_text (content : String) :
    (Node.text content).normalize =
      if (trim content).isEmpty then none else some (.text (trim content)) := by
  rw [Node.normalize]
  by_cases h : (trim content).utf8ByteSize = content.utf8ByteSize
  · rw [trim_eq_self_of_utf8ByteSize_eq h]
    simp
  · simp [h]

end WidgetMarkup
