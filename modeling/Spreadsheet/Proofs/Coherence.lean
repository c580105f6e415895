import Spreadsheet.Proofs.Sheet.Operation

/-!
# Values are up to date

In a sheet that was reached by operations that succeeded, every cell holds the value that its
content calls for when the values of the other cells are taken as they are: an operation recomputes
only what it affects, and nothing else has become stale.
-/

namespace Spreadsheet

namespace Sheet

/-- A populated cell has a content. It holds its literal, or the cycle error if it lies on a cycle,
or else what its formula evaluates to. The lazy functions of the formula have to keep to their
arguments: a cell is not computed again for what else they evaluate. -/
theorem value_eq_of_reached {lang : Language} {s : Sheet} (h : Reached lang s) {a : Address}
    {c : Cell} (hc : s.grid.cells[a]? = some c) :
    (∃ content, s.grid.content? a = some content) ∧
      (∀ v, s.grid.content? a = some (.literal v) → c.value = v) ∧
      ∀ f, s.grid.content? a = some (.formula f) →
        (s.grid.OnCycle a → c.value = .error .cycle) ∧
          (¬ s.grid.OnCycle a → f.KeepsToArguments lang.toLibrary →
            c.value = s.grid.outcome lang f) := by
  have hvalue : s.grid.value a = c.value := by rw [Grid.value, hc]
  have hraw : s.grid.raw? a = some c.raw := by rw [Grid.raw?, hc]; rfl
  obtain ⟨content, hcontent, -⟩ := h.reachable.inSync.1.grid.exists_content? hraw
  obtain ⟨hcycle, hcomputed⟩ := h.settled a
  rw [hvalue] at hcycle hcomputed
  refine ⟨⟨content, hcontent⟩, fun v hv => ?_, fun f hf => ⟨hcycle, fun hnot hkeeps => ?_⟩⟩
  · rw [← hvalue]
    exact h.value_eq_of_literal hv
  · have hkeeps : s.grid.KeepsToArguments lang a := fun g hg => by
      rw [hf, Option.some.injEq, Content.formula.injEq] at hg
      exact hg ▸ hkeeps
    rw [hcomputed hnot hkeeps, Grid.computed, hf]

/-- The first cell has been edited, the second one refers to it, and the third one, which refers to
itself, has not been written since. -/
theorem value_eq_of_follower : ∃ (s u : Sheet) (changed : List Address) (c d e : Cell),
    Reached (.standard .usual) s ∧
      s.setCells [⟨.placed ⟨0, 0⟩, some "3"⟩] = ⟨u, .ok changed⟩ ∧
      (u.grid.cells[(⟨0, 0⟩ : Address)]? = some c ∧ c.value = .number 3) ∧
      (u.grid.cells[(⟨0, 1⟩ : Address)]? = some d ∧
        u.grid.content? ⟨0, 1⟩ = some (.formula (.ref ⟨0, 0⟩)) ∧ ¬ u.grid.OnCycle ⟨0, 1⟩ ∧
        Formula.KeepsToArguments .standard (.ref ⟨0, 0⟩) ∧ d.value = .number 3) ∧
      u.grid.cells[(⟨0, 2⟩ : Address)]? = some e ∧ u.grid.OnCycle ⟨0, 2⟩ ∧
        e.value = .error .cycle := by
  obtain ⟨s, u, changed, hs, hset, hu⟩ := exists_follows
  have hcell {a : Address} {content : Content} (hcontent : u.grid.content? a = some content) :
      ∃ c, u.grid.cells[a]? = some c := by
    obtain ⟨raw, hraw, -⟩ := hu.reached.reachable.inSync.1.grid.exists_raw? hcontent
    obtain ⟨c, hc, -⟩ := Option.map_eq_some_iff.1 hraw
    exact ⟨c, hc⟩
  obtain ⟨c, hc⟩ := hcell hu.first
  obtain ⟨d, hd⟩ := hcell hu.second
  obtain ⟨e, he⟩ := hcell hu.third
  have hon : u.grid.OnCycle ⟨0, 2⟩ := hu.onCycle_iff.2 rfl
  have hkeeps : Formula.KeepsToArguments .standard (.ref ⟨0, 0⟩) := Formula.keepsToArguments_ref _
  have hfirst : c.value = .number 3 := (value_eq_of_reached hu.reached hc).2.1 _ hu.first
  have hsecond :=
    ((value_eq_of_reached hu.reached hd).2.2 _ hu.second).2 hu.not_onCycle_second hkeeps
  have hthird := ((value_eq_of_reached hu.reached he).2.2 _ hu.third).1 hon
  rw [hu.outcome_second (by decide)] at hsecond
  exact ⟨s, u, changed, c, d, e, hs.reached, hset, ⟨hc, hfirst⟩,
    ⟨hd, hu.second, hu.not_onCycle_second, hkeeps, hsecond⟩, he, hon, hthird⟩

end Sheet

end Spreadsheet
