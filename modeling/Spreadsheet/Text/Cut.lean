/-!
# Cutting a list

`cut p l` is the longest front of `l` whose items all satisfy `p`, and what follows it. It cuts
texts and lists of characters alike.
-/

namespace Spreadsheet.Text

variable {α : Type} {p : α → Bool} {l front rest : List α}

/-- The longest front of a list of items that all satisfy `p`, and the rest. -/
def cut (p : α → Bool) (l : List α) : List α × List α :=
  (l.takeWhile p, l.dropWhile p)

/-- Nothing is lost. -/
theorem append_of_cut (h : cut p l = (front, rest)) : front ++ rest = l := by
  obtain ⟨rfl, rfl⟩ := Prod.mk.inj h
  exact List.takeWhile_append_dropWhile

/-- The front satisfies `p`. -/
theorem all_of_cut (h : cut p l = (front, rest)) : ∀ c ∈ front, p c = true := by
  obtain ⟨rfl, rfl⟩ := Prod.mk.inj h
  exact List.all_eq_true.1 List.all_takeWhile

/-- A list of items that satisfy `p` is cut off what begins with an item that does not. -/
theorem cut_append (hfront : ∀ c ∈ front, p c = true) (hrest : ∀ c ∈ rest.head?, p c = false) :
    cut p (front ++ rest) = (front, rest) := by
  have htake : rest.takeWhile p = [] := by
    cases rest with
    | nil => rfl
    | cons c rest => rw [List.takeWhile_cons_of_neg (by simp [hrest c rfl])]
  have hdrop : rest.dropWhile p = rest := by
    cases rest with
    | nil => rfl
    | cons c rest => rw [List.dropWhile_cons_of_neg (by simp [hrest c rfl])]
  rw [cut, List.takeWhile_append_of_pos hfront, List.dropWhile_append_of_pos hfront, htake, hdrop,
    List.append_nil]

theorem cut_of_head? (h : ∀ c ∈ l.head?, p c = false) : cut p l = ([], l) := by
  rw [← List.nil_append l]
  exact cut_append (by simp) h

end Spreadsheet.Text
