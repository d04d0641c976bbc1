import Mathlib.Data.List.TakeWhile
import ColorMarkup.Text

/-!
# What is dropped at the ends of a text

* `Text.exists_dropEndWhile_append` and `Text.dropEndWhile_append` are the two ways to look at what
  is dropped at one end: as a part of the text, and as a part that may as well be missing.
* `Text.exists_eq_append_trim` and `Text.trim_append` are the same for the white space at both ends.
-/

namespace ColorMarkup.Text

/-! ## One end -/

variable {p : Char → Bool}

/-- What is dropped at the end of a text is made of what was to be dropped. -/
theorem exists_dropEndWhile_append (p : Char → Bool) (text : Text) :
    ∃ dropped, text.dropEndWhile p ++ dropped = text ∧ ∀ c ∈ dropped, p c = true := by
  refine ⟨(text.reverse.takeWhile p).reverse, ?_, ?_⟩
  · rw [dropEndWhile, ← List.reverse_append, List.takeWhile_append_dropWhile, List.reverse_reverse]
  · intro c hc
    exact List.mem_takeWhile_imp (List.mem_reverse.1 hc)

/-- What was to be dropped can be dropped beforehand. -/
theorem dropEndWhile_append {dropped : Text} (h : ∀ c ∈ dropped, p c = true) (text : Text) :
    (text ++ dropped).dropEndWhile p = text.dropEndWhile p := by
  have hreverse : ∀ c ∈ dropped.reverse, p c = true := fun c hc => h c (List.mem_reverse.1 hc)
  rw [dropEndWhile, List.reverse_append, List.dropWhile_append_of_pos hreverse, dropEndWhile]

/-- Nothing is dropped if there is nothing to drop. -/
theorem dropEndWhile_of_forall {text : Text} (h : ∀ c ∈ text, p c = false) :
    text.dropEndWhile p = text := by
  have hreverse : text.reverse.dropWhile p = text.reverse := by
    rw [List.dropWhile_eq_self_iff]
    intro hpos
    exact Bool.eq_false_iff.1 (h _ (List.mem_reverse.1 (List.getElem_mem hpos)))
  rw [dropEndWhile, hreverse, List.reverse_reverse]

/-! ## Both ends -/

/-- What is trimmed from a text is white space. -/
theorem exists_eq_append_trim (text : Text) :
    ∃ before after, text = before ++ (text.trim ++ after)
      ∧ (∀ c ∈ before, Unicode.isWhiteSpace c = true)
      ∧ ∀ c ∈ after, Unicode.isWhiteSpace c = true := by
  obtain ⟨after, hafter, hwhite⟩ :=
    exists_dropEndWhile_append Unicode.isWhiteSpace (text.dropWhile Unicode.isWhiteSpace)
  refine ⟨text.takeWhile Unicode.isWhiteSpace, after, ?_, ?_, hwhite⟩
  · rw [trim, hafter, List.takeWhile_append_dropWhile]
  · intro c hc
    exact List.mem_takeWhile_imp hc

/-- A text without white space is what is left when it is trimmed out of white space. -/
theorem trim_append {before name after : Text}
    (hbefore : ∀ c ∈ before, Unicode.isWhiteSpace c = true)
    (hname : ∀ c ∈ name, Unicode.isWhiteSpace c = false)
    (hafter : ∀ c ∈ after, Unicode.isWhiteSpace c = true) :
    trim (before ++ (name ++ after)) = name := by
  rw [trim, List.dropWhile_append_of_pos hbefore]
  cases name with
  | nil =>
    have hdrop : after.dropWhile Unicode.isWhiteSpace = [] := List.dropWhile_eq_nil_iff.2 hafter
    rw [List.nil_append, hdrop]
    rfl
  | cons c name =>
    have hc : Unicode.isWhiteSpace c = false := hname c List.mem_cons_self
    rw [List.cons_append, List.dropWhile_cons_of_neg (by simp [hc]), ← List.cons_append,
      dropEndWhile_append hafter, dropEndWhile_of_forall hname]

end ColorMarkup.Text
