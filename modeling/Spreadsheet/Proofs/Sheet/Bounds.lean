import Spreadsheet.Proofs.Sheet.Load

/-!
# Cells lie in bounds

Every operation checks the addresses that it is given, so the cells of a reachable sheet all lie in
bounds (`Reachable.bounded`), whatever the numbers of rows and columns that the sheet is shown with.
-/

namespace Spreadsheet

open Std (ExtTreeMap)

namespace Sheet

variable {lang : Language} {s u : Sheet} {edits : List (Address × Option Text)}

/-- Every populated cell lies in bounds. -/
def Bounded (s : Sheet) : Prop :=
  ∀ a ∈ s.grid.cells, a.InBounds

theorem bounded_iff : s.Bounded ↔ ∀ a, (s.grid.raw? a).isSome → a.InBounds := by
  simp only [Bounded, Grid.isSome_raw?_iff]

theorem bounded_empty (lang : Language) (rows columns : Int) : (empty lang rows columns).Bounded :=
  bounded_iff.2 fun a ha => by simp [raw?_empty] at ha

theorem Bounded.of_overwrite (h : s.Bounded) (hraw : u.grid.raw? = overwrite s.grid.raw? edits)
    (hedits : ∀ edit ∈ edits, edit.1.InBounds) : u.Bounded := by
  refine bounded_iff.2 fun a ha => ?_
  by_cases hmem : a ∈ edits.map Prod.fst
  · obtain ⟨edit, hedit, rfl⟩ := List.mem_map.1 hmem
    exact hedits edit hedit
  · rw [hraw, overwrite_of_not_mem hmem] at ha
    exact bounded_iff.1 h a ha

theorem Bounded.congr (h : s.Bounded) (hraw : u.grid.raw? = s.grid.raw?) : u.Bounded := by
  rw [bounded_iff, hraw]
  exact bounded_iff.1 h

theorem bounded_setCells (hs : s.InSync) (h : s.Bounded) (edits : List Edit) :
    (s.setCells edits).sheet.Bounded := by
  cases hresolve : resolveAll edits with
  | error f =>
    rw [setCells_eq_of_error hresolve]
    exact h
  | ok checked =>
    have hbounds := inBounds_of_resolveAll hresolve
    by_cases hall : ∀ edit ∈ checked, s.language.Accepts edit.2
    · obtain ⟨u, changed, heq, -, hraw⟩ := setCells_eq_of_accepts hs hresolve hall
      rw [heq]
      exact h.of_overwrite hraw hbounds
    · obtain ⟨accepted, a, raw, later, w, rfl, -, -, -, hentered, heq⟩ :=
        setCells_eq_of_not hs hresolve hall
      rw [heq]
      exact h.of_overwrite hentered.raw?_eq fun edit hedit =>
        hbounds edit (List.mem_append_left _ hedit)

theorem bounded_ofSnapshot {d : Snapshot} (h : ofSnapshot lang d = .ok u) : u.Bounded := by
  obtain ⟨cells, hloaded⟩ := loaded_of_ofSnapshot h
  have hraw : u.grid.raw? = overwrite (empty lang 0 0).grid.raw? (batchOf cells) := by
    rw [raw?_empty, hloaded.raw?_eq]
  refine (bounded_empty lang 0 0).of_overwrite hraw fun edit hedit => ?_
  obtain ⟨cell, hcell, rfl⟩ := List.mem_map.1 hedit
  exact hloaded.inBounds cell hcell

theorem bounded_perform (hs : s.InSync) (h : s.Bounded) (op : Operation) :
    (s.perform op).1.Bounded := by
  cases op with
  | setCell e =>
    rw [perform, Update.ended_fst]
    exact bounded_setCells hs h [e]
  | setCells edits =>
    rw [perform, Update.ended_fst]
    exact bounded_setCells hs h edits
  | setStyle target style =>
    rw [perform]
    split
    · next t ht =>
      obtain ⟨g, hg, rfl⟩ := setStyle_eq_ok ht
      exact h.congr (funext hg.raw?_eq)
    · exact h
  | recalculate =>
    obtain ⟨u, changed, hu, -, hrevalued⟩ := recalculate_eq hs
    rw [perform, Update.ended_fst, hu]
    exact h.congr (funext hrevalued.raw?_eq)
  | load d =>
    rw [perform]
    split
    · next t ht => exact bounded_ofSnapshot ht
    · exact h

theorem Reachable.bounded (h : Reachable lang s) : s.Bounded := by
  induction h with
  | empty rows columns => exact bounded_empty lang rows columns
  | step op hs ih => exact bounded_perform hs.inSync.1 ih op

end Sheet

end Spreadsheet
