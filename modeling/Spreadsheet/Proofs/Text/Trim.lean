import Mathlib.Data.List.Basic
import Spreadsheet.Text.Blank
import Spreadsheet.Text.Cut

/-!
# White space at the ends of a text

Trimming cuts off what is blank before and after a text (`exists_eq_append_trim`), and nothing else
(`trim_append`). Behind a character that is not blank, the white space before a text is kept
(`exists_trim_cons`).
-/

namespace Spreadsheet.Text

variable {t front middle back : Text} {c : CodePoint}

theorem dropWhile_isBlank_append (hfront : ∀ c ∈ front, isBlank c = true)
    (hmiddle : ∀ c ∈ middle.head?, isBlank c = false) :
    (front ++ middle).dropWhile isBlank = middle :=
  congrArg Prod.snd (cut_append hfront hmiddle)

theorem trim_append (hfront : ∀ c ∈ front, isBlank c = true)
    (hback : ∀ c ∈ back, isBlank c = true) (hhead : ∀ c ∈ middle.head?, isBlank c = false)
    (hlast : ∀ c ∈ middle.getLast?, isBlank c = false) :
    trim (front ++ middle ++ back) = middle := by
  cases middle with
  | nil =>
    have hall : ∀ c ∈ front ++ back, isBlank c = true := by
      simpa [or_imp, forall_and] using And.intro hfront hback
    have hdrop : (front ++ back ++ []).dropWhile isBlank = [] :=
      dropWhile_isBlank_append hall (by simp)
    rw [List.append_nil] at hdrop
    rw [trim, List.append_nil, hdrop]
    rfl
  | cons c middle =>
    have hstart : (front ++ (c :: middle ++ back)).dropWhile isBlank = c :: middle ++ back :=
      dropWhile_isBlank_append hfront (by simpa using hhead)
    rw [trim, List.append_assoc, hstart, List.reverse_append,
      dropWhile_isBlank_append (by simpa using hback) (by rwa [List.head?_reverse]),
      List.reverse_reverse]

/-- A text without white space at its ends. -/
theorem trim_eq_self_of_ends (hhead : ∀ c ∈ t.head?, isBlank c = false)
    (hlast : ∀ c ∈ t.getLast?, isBlank c = false) : trim t = t := by
  have h : trim ([] ++ t ++ []) = t := trim_append (by simp) (by simp) hhead hlast
  rwa [List.nil_append, List.append_nil] at h

theorem trim_eq_self (h : ∀ c ∈ t, isBlank c = false) : trim t = t :=
  trim_eq_self_of_ends (fun c hc => h c (List.mem_of_head? hc))
    fun c hc => h c (List.mem_of_getLast? hc)

theorem exists_eq_append_trim (t : Text) : ∃ front back, (∀ c ∈ front, isBlank c = true) ∧
    (∀ c ∈ back, isBlank c = true) ∧ t = front ++ trim t ++ back := by
  refine ⟨t.takeWhile isBlank, ((t.dropWhile isBlank).reverse.takeWhile isBlank).reverse,
    fun c hc => List.all_eq_true.1 List.all_takeWhile c hc, fun c hc => ?_, ?_⟩
  · exact List.all_eq_true.1 List.all_takeWhile c (List.mem_reverse.1 hc)
  · rw [trim, List.append_assoc, ← List.reverse_append, List.takeWhile_append_dropWhile,
      List.reverse_reverse, List.takeWhile_append_dropWhile]

theorem trim_prefix_dropWhile (t : Text) : trim t <+: t.dropWhile isBlank := by
  rw [trim, ← List.reverse_suffix, List.reverse_reverse]
  exact List.dropWhile_suffix _

theorem not_isBlank_of_head?_trim (h : c ∈ (trim t).head?) : isBlank c = false := by
  obtain ⟨back, hback⟩ := trim_prefix_dropWhile t
  have hhead := List.head?_dropWhile_not isBlank t
  rw [← hback, List.head?_append, Option.mem_def.1 h, Option.some_or] at hhead
  exact hhead

theorem not_isBlank_of_getLast?_trim (h : c ∈ (trim t).getLast?) : isBlank c = false := by
  rw [trim, List.getLast?_reverse] at h
  have hhead := List.head?_dropWhile_not isBlank (t.dropWhile isBlank).reverse
  rw [h] at hhead
  exact hhead

/-- Behind a character that is not blank only the white space at the end is cut off. -/
theorem exists_trim_cons (hc : isBlank c = false) (ht : trim t ≠ []) :
    ∃ front, (∀ d ∈ front, isBlank d = true) ∧ trim (c :: t) = c :: (front ++ trim t) := by
  obtain ⟨front, back, hfront, hback, hsplit⟩ := exists_eq_append_trim t
  refine ⟨front, hfront, ?_⟩
  have hlast : ∀ d ∈ (c :: (front ++ trim t)).getLast?, isBlank d = false := by
    intro d hd
    rw [← List.cons_append, List.getLast?_append_of_ne_nil _ ht] at hd
    exact not_isBlank_of_getLast?_trim hd
  calc trim (c :: t) = trim ([] ++ (c :: (front ++ trim t)) ++ back) := by
        rw [List.nil_append, List.cons_append, ← hsplit]
    _ = c :: (front ++ trim t) := trim_append (by simp) hback (by simpa using hc) hlast

end Spreadsheet.Text
