import Mathlib.Data.List.Forall2

/-!
# Steps that may fail

Steps in a row succeed if every one of them does (`bind_eq_ok`, `mapM_eq_ok_iff`), and fail with the
fault of the first that fails (`bind_eq_error`, `exists_of_mapM_eq_error`).
-/

namespace Spreadsheet

variable {ε α β : Type}

theorem bind_eq_ok {x : Except ε α} {k : α → Except ε β} {b : β} :
    (x >>= k) = .ok b ↔ ∃ a, x = .ok a ∧ k a = .ok b := by
  cases x <;> simp [bind, Except.bind]

theorem bind_eq_error {x : Except ε α} {k : α → Except ε β} {f : ε} :
    (x >>= k) = .error f ↔ x = .error f ∨ ∃ a, x = .ok a ∧ k a = .error f := by
  cases x <;> simp [bind, Except.bind]

/-- A list is mapped exactly to the results of its items. -/
theorem mapM_eq_ok_iff {f : α → Except ε β} :
    ∀ {l : List α} {ys : List β}, l.mapM f = .ok ys ↔ List.Forall₂ (fun x y => f x = .ok y) l ys
  | [], ys => by
    rw [List.mapM_nil, List.forall₂_nil_left_iff]
    exact ⟨fun h => (Except.ok.inj h).symm, fun h => h ▸ rfl⟩
  | x :: l, ys => by
    rw [List.mapM_cons, bind_eq_ok, List.forall₂_cons_left_iff]
    constructor
    · rintro ⟨y, hy, h⟩
      obtain ⟨ys', hys, h⟩ := bind_eq_ok.1 h
      cases h
      exact ⟨y, ys', hy, mapM_eq_ok_iff.1 hys, rfl⟩
    · rintro ⟨y, ys', hy, hys, rfl⟩
      exact ⟨y, hy, bind_eq_ok.2 ⟨ys', mapM_eq_ok_iff.2 hys, rfl⟩⟩

theorem mapM_congr {f g : α → Except ε β} {l : List α} (h : ∀ x ∈ l, f x = g x) :
    l.mapM f = l.mapM g := by
  induction l with
  | nil => rfl
  | cons x l ih =>
    obtain ⟨hx, hl⟩ := List.forall_mem_cons.1 h
    rw [List.mapM_cons, List.mapM_cons, hx, ih hl]

theorem exists_of_forall₂ {R : α → β → Prop} {l : List α} {ys : List β}
    (h : List.Forall₂ R l ys) {y : β} (hy : y ∈ ys) : ∃ x ∈ l, R x y := by
  induction h with
  | nil => cases hy
  | cons hfirst _ ih =>
    rcases List.mem_cons.1 hy with rfl | hy
    · exact ⟨_, List.mem_cons_self, hfirst⟩
    · obtain ⟨x, hx, hxy⟩ := ih hy
      exact ⟨x, List.mem_cons_of_mem _ hx, hxy⟩

/-- A list fails to be mapped because one of its items does and those before it do not. -/
theorem exists_of_mapM_eq_error {g : α → Except ε β} {f : ε} :
    ∀ {l : List α}, l.mapM g = .error f → ∃ before x after, l = before ++ x :: after ∧
      (∀ b ∈ before, ∃ y, g b = .ok y) ∧ g x = .error f
  | [], h => by cases h
  | x :: l, h => by
    rw [List.mapM_cons, bind_eq_error] at h
    rcases h with hx | ⟨y, hy, h⟩
    · exact ⟨[], x, l, rfl, by simp, hx⟩
    · rcases bind_eq_error.1 h with hl | ⟨ys, -, h⟩
      · obtain ⟨before, z, after, rfl, hbefore, hz⟩ := exists_of_mapM_eq_error hl
        exact ⟨x :: before, z, after, rfl, List.forall_mem_cons.2 ⟨⟨y, hy⟩, hbefore⟩, hz⟩
      · cases h

end Spreadsheet
