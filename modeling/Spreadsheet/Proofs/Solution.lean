import Mathlib.Data.Fintype.Card
import Mathlib.Data.Set.Finite.Basic
import Spreadsheet.Proofs.Grid

/-!
# The values of a grid are determined by its contents

Reading is well-founded on the populated cells that lie on no cycle, for there are finitely many of
them (`wellFounded_reads`). So at most one assignment of values settles all cells of a grid, if the
lazy functions keep to their arguments (`value_eq_of_settled`).
-/

namespace Spreadsheet

open Relation
open Std (ExtTreeMap)

namespace Grid

variable {g g' : Grid} {lang : Language}

/-- A populated cell that lies on no cycle. -/
def Acyclic (g : Grid) : Type :=
  { a : Address // a ∈ g.cells ∧ ¬ g.OnCycle a }

theorem wellFounded_reads (g : Grid) :
    WellFounded fun b a : g.Acyclic => TransGen g.Reads a.1 b.1 := by
  have : Finite g.Acyclic := by
    refine ((List.finite_toSet g.cells.keys).subset ?_).to_subtype
    rintro a ⟨ha, -⟩
    exact ExtTreeMap.mem_keys.2 ha
  have : IsTrans g.Acyclic fun b a => TransGen g.Reads a.1 b.1 :=
    ⟨fun _ _ _ hcb hba => hba.trans hcb⟩
  have : Std.Irrefl fun b a : g.Acyclic => TransGen g.Reads a.1 b.1 := ⟨fun a ha => a.2.2 ha⟩
  exact Finite.wellFounded_of_trans_of_irrefl _

/-- Two grids with the same contents whose cells are all settled have the same values. -/
theorem value_eq_of_settled (hkeeps : lang.KeepsToArguments)
    (hmem : ∀ a, a ∈ g.cells ↔ a ∈ g'.cells) (hcontent : ∀ a, g.content? a = g'.content? a)
    (h : ∀ a, g.Settled lang a) (h' : ∀ a, g'.Settled lang a) (a : Address) :
    g.value a = g'.value a := by
  have hcycle {b : Address} (hb : g.OnCycle b) : g.value b = g'.value b := by
    rw [(h b).cycle hb, (h' b).cycle ((OnCycle.congr hcontent).1 hb)]
  have hacyclic (x : g.Acyclic) : g.value x.1 = g'.value x.1 := by
    induction x using g.wellFounded_reads.induction with
    | _ x ih =>
      have hx : ¬ g'.OnCycle x.1 := fun hx => x.2.2 ((OnCycle.congr hcontent).2 hx)
      rw [(h x.1).computed x.2.2 (keepsToArguments hkeeps g x.1),
        (h' x.1).computed hx (keepsToArguments hkeeps g' x.1)]
      refine computed_congr (keepsToArguments hkeeps g x.1) (hcontent x.1) (fun b _ => hmem b)
        fun b hread => ?_
      by_cases hb : b ∈ g.cells
      · by_cases hon : g.OnCycle b
        · exact hcycle hon
        · exact ih ⟨b, hb, hon⟩ (.single hread)
      · rw [value_eq_empty hb, value_eq_empty fun hb' => hb ((hmem b).2 hb')]
  by_cases ha : a ∈ g.cells
  · by_cases hon : g.OnCycle a
    · exact hcycle hon
    · exact hacyclic ⟨a, ha, hon⟩
  · rw [value_eq_empty ha, value_eq_empty fun ha' => ha ((hmem a).2 ha')]

end Grid

end Spreadsheet
