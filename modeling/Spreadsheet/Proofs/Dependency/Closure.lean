import Mathlib.Logic.Relation
import Mathlib.Data.Finset.Card
import Mathlib.Data.List.Nodup
import Spreadsheet.Dependency.Closure
import Spreadsheet.Proofs.Dependency.Search

/-!
# The closure is what can be reached

`closure next bound roots` holds exactly the nodes that can be reached from `roots`, cycles or not,
as soon as all of them lie in a set with at most `bound` nodes besides the roots. `Closing` is what
holds while nodes wait in the queue. The bound never cuts the loop short (`Turns.closure`): in
whatever order nodes are visited, there are no more turns than nodes (`Turns.add_length_eq`).
-/

namespace Spreadsheet

open Relation
open Std (ExtTreeSet)

variable {α : Type} [Ord α] [Std.TransOrd α]

theorem nodup_toList (t : ExtTreeSet α) : t.toList.Nodup :=
  t.distinct_toList.imp fun h => by
    rintro rfl
    exact h Std.ReflCmp.compare_self

/-- A closure under way: every node seen can be reached, and the successors of a node are seen
unless it waits in the queue. -/
structure Closing (next : α → List α) (scope : Finset α) (roots : ExtTreeSet α) (queue : List α)
    (seen : ExtTreeSet α) : Prop where
  mem_scope : ∀ {x}, x ∈ seen → x ∈ scope
  root : ∀ {r}, r ∈ roots → r ∈ seen
  reached : ∀ {x}, x ∈ seen → ∃ r ∈ roots, Reaches next r x
  mem_seen : ∀ {x}, x ∈ queue → x ∈ seen
  visited : ∀ {x}, x ∈ seen → x ∉ queue → ∀ y ∈ next x, y ∈ seen

namespace Closing

variable {next : α → List α} {scope : Finset α} {roots seen : ExtTreeSet α} {queue : List α} {x : α}

/-- What is new among the successors of a node. -/
def fresh (next : α → List α) (seen : ExtTreeSet α) (x : α) : List α :=
  (next x).filter fun y => !seen.contains y

theorem mem_fresh {y : α} : y ∈ fresh next seen x ↔ y ∈ next x ∧ y ∉ seen := by
  rw [fresh, List.mem_filter, Bool.not_eq_true', ← Bool.not_eq_true, ExtTreeSet.contains_iff_mem]

/-- Nothing is missing once the queue is empty. -/
theorem mem_iff (h : Closing next scope roots [] seen) {y : α} :
    y ∈ seen ↔ ∃ r ∈ roots, Reaches next r y := by
  refine ⟨h.reached, ?_⟩
  rintro ⟨r, hr, hry⟩
  induction hry with
  | refl => exact h.root hr
  | tail _ hz ih => exact h.visited ih (by simp) _ hz

/-- Which node of the queue comes first makes no difference. -/
theorem perm (h : Closing next scope roots queue seen) {queue' : List α}
    (hqueue : queue.Perm queue') : Closing next scope roots queue' seen where
  mem_scope := h.mem_scope
  root := h.root
  reached := h.reached
  mem_seen hx := h.mem_seen (hqueue.mem_iff.2 hx)
  visited hx hnot := h.visited hx fun hmem => hnot (hqueue.mem_iff.1 hmem)

variable [Std.LawfulEqOrd α]

theorem start (hroots : ∀ r ∈ roots, r ∈ scope) :
    Closing next scope roots roots.toList roots where
  mem_scope hx := hroots _ hx
  root hr := hr
  reached hx := ⟨_, hx, .refl⟩
  mem_seen hx := ExtTreeSet.mem_toList.1 hx
  visited hx hqueue := (hqueue (ExtTreeSet.mem_toList.2 hx)).elim

variable [DecidableEq α]

/-- Visiting a node keeps a closure under way. -/
theorem visit (hscope : ∀ x ∈ scope, ∀ y ∈ next x, y ∈ scope)
    (h : Closing next scope roots (x :: queue) seen) :
    Closing next scope roots (fresh next seen x ++ queue)
      (seen.insertMany (fresh next seen x)) := by
  have hx : x ∈ seen := h.mem_seen List.mem_cons_self
  have hmem (y : α) : y ∈ seen.insertMany (fresh next seen x) ↔
      y ∈ seen ∨ y ∈ fresh next seen x := by
    simp [ExtTreeSet.mem_insertMany_list]
  constructor
  case mem_scope =>
    intro y hy
    rcases (hmem y).1 hy with hy | hy
    · exact h.mem_scope hy
    · exact hscope x (h.mem_scope hx) y (mem_fresh.1 hy).1
  case root => exact fun hr => (hmem _).2 (.inl (h.root hr))
  case reached =>
    intro y hy
    rcases (hmem y).1 hy with hy | hy
    · exact h.reached hy
    · obtain ⟨r, hr, hrx⟩ := h.reached hx
      exact ⟨r, hr, hrx.tail (mem_fresh.1 hy).1⟩
  case mem_seen =>
    intro y hy
    rw [hmem]
    rcases List.mem_append.1 hy with hy | hy
    · exact .inr hy
    · exact .inl (h.mem_seen (List.mem_cons_of_mem _ hy))
  case visited =>
    intro y hy hqueue z hz
    rw [List.mem_append, not_or] at hqueue
    have hys : y ∈ seen := ((hmem y).1 hy).resolve_right hqueue.1
    rw [hmem]
    by_cases hyx : y = x
    · subst hyx
      by_cases hzs : z ∈ seen
      · exact .inl hzs
      · exact .inr (mem_fresh.2 ⟨hz, hzs⟩)
    · exact .inl (h.visited hys (by simp [hyx, hqueue.2]) z hz)

theorem size_insertMany_fresh (hnodup : (next x).Nodup) :
    (seen.insertMany (fresh next seen x)).size = seen.size + (fresh next seen x).length := by
  refine ExtTreeSet.size_insertMany_list ?_ fun a ha => ?_
  · exact (hnodup.filter _).imp fun hne heq => hne (Std.LawfulEqOrd.eq_of_compare heq)
  · simpa [mem_fresh] using fun _ => ha

theorem size_le_card {scope : Finset α} {t : ExtTreeSet α} (h : ∀ x ∈ t, x ∈ scope) :
    t.size ≤ scope.card := by
  classical
  rw [← ExtTreeSet.length_toList, ← List.toFinset_card_of_nodup (nodup_toList t)]
  exact Finset.card_le_card fun x hx => h x (ExtTreeSet.mem_toList.1 (List.mem_toFinset.1 hx))

end Closing

/-! ## Runs of the loop -/

/-- The queue and the set of the nodes seen that a closure can come to in a number of turns,
whichever nodes of the queue it visits first. -/
inductive Turns (next : α → List α) (roots : ExtTreeSet α) : Nat → List α → ExtTreeSet α → Prop
  | start {queue : List α} : queue.Perm roots.toList → Turns next roots 0 queue roots
  | visit {n : Nat} {queue rest queue' : List α} {seen : ExtTreeSet α} {x : α} :
    Turns next roots n queue seen → queue.Perm (x :: rest) →
      queue'.Perm (Closing.fresh next seen x ++ rest) →
        Turns next roots (n + 1) queue' (seen.insertMany (Closing.fresh next seen x))

namespace Turns

variable [Std.LawfulEqOrd α] [DecidableEq α] {next : α → List α} {scope : Finset α}
  {roots seen : ExtTreeSet α} {queue : List α} {n bound : Nat}

theorem closing (hscope : ∀ x ∈ scope, ∀ y ∈ next x, y ∈ scope) (hroots : ∀ r ∈ roots, r ∈ scope)
    (h : Turns next roots n queue seen) : Closing next scope roots queue seen := by
  induction h with
  | start hqueue => exact (Closing.start hroots).perm hqueue.symm
  | visit _ hqueue hqueue' ih => exact ((ih.perm hqueue).visit hscope).perm hqueue'.symm

/-- Every turn takes one node out of the queue, and a node enters it when it is first seen. So there
are never more turns than nodes. -/
theorem add_length_eq (hnodup : ∀ x, (next x).Nodup) (h : Turns next roots n queue seen) :
    n + queue.length = seen.size := by
  induction h with
  | start hqueue => rw [hqueue.length_eq, ExtTreeSet.length_toList, Nat.zero_add]
  | visit _ hqueue hqueue' ih =>
    rw [hqueue.length_eq, List.length_cons] at ih
    rw [hqueue'.length_eq, List.length_append, Closing.size_insertMany_fresh (hnodup _)]
    omega

/-- With fuel for every node that is yet to be visited, the queue is worked off. -/
theorem exists_of_fuel (hscope : ∀ x ∈ scope, ∀ y ∈ next x, y ∈ scope)
    (hroots : ∀ r ∈ roots, r ∈ scope) (hnodup : ∀ x, (next x).Nodup) (fuel : Nat) :
    ∀ {n : Nat} {queue : List α} {seen : ExtTreeSet α}, Turns next roots n queue seen →
      scope.card ≤ n + fuel → ∃ m, Turns next roots m [] (closureFrom next fuel queue seen) := by
  induction fuel with
  | zero =>
    intro n queue seen h hfuel
    have hlength := h.add_length_eq hnodup
    have hsize := Closing.size_le_card fun x => (h.closing hscope hroots).mem_scope (x := x)
    have hqueue : queue = [] := List.eq_nil_of_length_eq_zero (by omega)
    subst hqueue
    exact ⟨n, h⟩
  | succ fuel ih =>
    intro n queue seen h hfuel
    cases queue with
    | nil => exact ⟨n, h⟩
    | cons x queue => exact ih (h.visit (.refl _) (.refl _)) (by omega)

/-- The loop ends with the closure. -/
theorem closure (hscope : ∀ x ∈ scope, ∀ y ∈ next x, y ∈ scope) (hroots : ∀ r ∈ roots, r ∈ scope)
    (hnodup : ∀ x, (next x).Nodup) (hbound : scope.card ≤ roots.size + bound) :
    ∃ n, Turns next roots n [] (closure next bound roots) :=
  exists_of_fuel hscope hroots hnodup _ (.start (.refl _)) (by omega)

end Turns

variable [Std.LawfulEqOrd α] [DecidableEq α]

/-- The closure of a set holds what can be reached from it. -/
theorem mem_closure {next : α → List α} {scope : Finset α} {bound : Nat} {roots : ExtTreeSet α}
    (hscope : ∀ x ∈ scope, ∀ y ∈ next x, y ∈ scope) (hroots : ∀ r ∈ roots, r ∈ scope)
    (hnodup : ∀ x, (next x).Nodup) (hbound : scope.card ≤ roots.size + bound) {y : α} :
    y ∈ closure next bound roots ↔ ∃ r ∈ roots, Reaches next r y := by
  obtain ⟨n, hturns⟩ := Turns.closure hscope hroots hnodup hbound
  exact (hturns.closing hscope hroots).mem_iff

end Spreadsheet
