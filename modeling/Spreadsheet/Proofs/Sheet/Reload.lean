import Spreadsheet.Proofs.Address.Name
import Spreadsheet.Proofs.Sheet.Bounds
import Spreadsheet.Proofs.Sheet.UpToDate

/-!
# Snapshots and back

A sheet that was reached by operations that succeeded is made again from its snapshot, values and
graph included (`ofSnapshot_snapshot`): what is kept of its cells is all there, and the texts of a
sheet determine the rest, if the lazy functions keep to their arguments. The other way round, the
snapshot of a sheet that was made from one has the entries that were not blank, under the upper-case
names of their cells (`perm_cells_ofSnapshot`).
-/

namespace Spreadsheet

open Std (ExtTreeMap)

namespace Sheet

variable {lang : Language} {s u : Sheet} {d : Snapshot} {a : Address} {c : StoredCell}

/-- What is kept of the cells of a sheet. -/
def kept (s : Sheet) : List (Address × StoredCell) :=
  s.grid.cells.toList.map fun (a, c) => (a, ⟨c.raw, c.style⟩)

theorem mem_kept_iff : (a, c) ∈ s.kept ↔ s.grid.stored? a = some c := by
  rw [kept, List.mem_map, Grid.stored?, Option.map_eq_some_iff]
  constructor
  · rintro ⟨⟨b, cell⟩, hcell, heq⟩
    obtain ⟨rfl, hc⟩ := Prod.mk.inj heq
    exact ⟨cell, ExtTreeMap.mem_toList_iff_getElem?_eq_some.1 hcell, hc⟩
  · rintro ⟨cell, hcell, hc⟩
    exact ⟨(a, cell), ExtTreeMap.mem_toList_iff_getElem?_eq_some.2 hcell, by rw [← hc]⟩

theorem nodup_kept (s : Sheet) : (s.kept.map Prod.fst).Nodup := by
  have hkeys : s.kept.map Prod.fst = s.grid.cells.keys := by
    rw [kept, List.map_map, ← ExtTreeMap.map_fst_toList_eq_keys]
    rfl
  rw [hkeys]
  exact Address.nodup_of_ascending ExtTreeMap.ordered_keys

theorem cells_snapshot (s : Sheet) :
    s.snapshot.cells = s.kept.map fun cell => (cell.1.label, cell.2) := by
  rw [snapshot, kept, List.map_map]
  rfl

theorem raw?_of_mem_kept (h : (a, c) ∈ s.kept) : s.grid.raw? a = some c.raw := by
  obtain ⟨cell, hcell, rfl⟩ := Option.map_eq_some_iff.1 (mem_kept_iff.1 h)
  rw [Grid.raw?, hcell, Option.map_some]

/-! ## A sheet made again -/

section Again

theorem inBounds_of_mem_kept (hs : s.Bounded) (h : (a, c) ∈ s.kept) : a.InBounds := by
  exact hs a (Grid.isSome_raw?_iff.1 (by rw [raw?_of_mem_kept h]; rfl))

theorem addressed_snapshot (hs : s.Bounded) : s.snapshot.addressed = .ok s.kept := by
  rw [Snapshot.addressed, mapM_eq_ok_iff, cells_snapshot, List.forall₂_map_left_iff,
    List.forall₂_same]
  intro cell hcell
  refine bind_eq_ok.2 ⟨cell.1, bind_eq_ok.2 ⟨some cell.1, ?_, rfl⟩, rfl⟩
  exact (inBounds_of_mem_kept hs hcell).decode_label

theorem accepts_of_mem_kept (hs : s.InSync) (h : (a, c) ∈ s.kept) :
    s.language.Accepts (some c.raw) := by
  have haccepts := hs.grid.accepts_raw? a
  rwa [raw?_of_mem_kept h] at haccepts

theorem not_isBlank_of_mem_kept (hs : s.InSync) (h : (a, c) ∈ s.kept) : ¬ c.raw.IsBlank := by
  exact hs.grid.not_isBlank (raw?_of_mem_kept h)

/-- The snapshot of a sheet makes the sheet that has its cells and is up to date. -/
theorem Revalued.ofSnapshot_eq (hkeeps : s.language.KeepsToArguments) (h : s.Revalued u)
    (hsync : s.InSync) (hs : s.Bounded) (hu : u.UpToDate) :
    ofSnapshot s.language s.snapshot = .ok u := by
  obtain ⟨t, ht, hloaded⟩ := ofSnapshot_eq_of_accepts (addressed_snapshot hs)
    (fun _ hcell => inBounds_of_mem_kept hs hcell)
    fun _ hcell => accepts_of_mem_kept hsync hcell
  have hreached := reached_of_ofSnapshot ht
  have hstored : t.grid.stored? = s.grid.stored? := by
    funext a
    ext c
    rw [hloaded.stored?_eq_some_iff s.nodup_kept, ← mem_kept_iff, and_iff_left_iff_imp]
    exact not_isBlank_of_mem_kept hsync
  have heq : t = u := hu.eq_of_stored? (h.language ▸ hkeeps) hreached.upToDate
    (hreached.reachable.inSync.2.trans h.language.symm) (hloaded.rows.trans h.rows.symm)
    (hloaded.columns.trans h.columns.symm) (hstored.trans h.stored?_eq.symm)
  rw [ht, heq]

/-- A sheet is made again from its snapshot. -/
theorem ofSnapshot_snapshot (hkeeps : lang.KeepsToArguments) (h : Reached lang s) :
    ofSnapshot lang s.snapshot = .ok s := by
  obtain ⟨hsync, rfl⟩ := h.reachable.inSync
  exact (Revalued.refl s).ofSnapshot_eq hkeeps hsync h.reachable.bounded h.upToDate

end Again

end Sheet

/-! ## A snapshot taken again -/

namespace Snapshot

variable {d : Snapshot} {cells : List (Address × StoredCell)}

/-- The entries of a snapshot that are not blank, under the upper-case names of their cells. -/
def filled (d : Snapshot) : List (Text × StoredCell) :=
  (d.cells.filter fun entry => ¬ entry.2.raw.IsBlank).map fun entry => (entry.1.upper, entry.2)

theorem forall₂_of_addressed (h : d.addressed = .ok cells) :
    List.Forall₂ (fun entry cell => Address.decode entry.1 = .ok (some cell.1) ∧ entry.2 = cell.2)
      d.cells cells := by
  refine (mapM_eq_ok_iff.1 h).imp fun entry cell hcell => ?_
  obtain ⟨a, ha, heq⟩ := bind_eq_ok.1 hcell
  obtain ⟨a?, hdecode, hsome⟩ := bind_eq_ok.1 ha
  cases heq
  cases a? with
  | none => cases hsome
  | some b =>
    cases hsome
    exact ⟨hdecode, rfl⟩

theorem map_eq_of_addressed {β : Type} {f : Text × StoredCell → β} {g : Address × StoredCell → β}
    (h : d.addressed = .ok cells)
    (hfg : ∀ key a c, Address.decode key = .ok (some a) → f (key, c) = g (a, c)) :
    d.cells.map f = cells.map g := by
  have hitems : List.Forall₂ (fun entry cell => f entry = g cell) d.cells cells := by
    refine (forall₂_of_addressed h).imp ?_
    rintro ⟨key, c⟩ ⟨a, _⟩ ⟨hdecode, rfl⟩
    exact hfg key a c hdecode
  rw [← List.forall₂_eq_eq_eq, List.forall₂_map_left_iff, List.forall₂_map_right_iff]
  exact hitems

/-- Keys that name distinct cells name the cells of a list without repetition. -/
theorem nodup_of_addressed (h : d.addressed = .ok cells)
    (hkeys : (d.cells.map fun entry => Address.decode entry.1).Nodup) :
    (cells.map Prod.fst).Nodup := by
  have hmap : d.cells.map (fun entry => Address.decode entry.1) =
      (cells.map Prod.fst).map fun a => .ok (some a) := by
    rw [List.map_map]
    exact map_eq_of_addressed h fun _ _ _ hdecode => hdecode
  rw [hmap] at hkeys
  exact hkeys.of_map _

theorem filled_eq (h : d.addressed = .ok cells) :
    d.filled = (cells.filter fun cell => ¬ cell.2.raw.IsBlank).map
      fun cell => (cell.1.label, cell.2) := by
  have hmap : d.cells.map (fun entry => (entry.1.upper, entry.2)) =
      cells.map fun cell => (cell.1.label, cell.2) :=
    map_eq_of_addressed h fun key a c hdecode => by rw [(Address.label_of_decode hdecode).1]
  have hfilter := congrArg (List.filter fun entry => ¬ entry.2.raw.IsBlank) hmap
  rwa [List.filter_map, List.filter_map] at hfilter

end Snapshot

/-- The snapshot of a sheet that was made from one has the entries that were not blank. -/
theorem Sheet.perm_cells_ofSnapshot {lang : Language} {d : Snapshot} {u : Sheet}
    (h : ofSnapshot lang d = .ok u)
    (hkeys : (d.cells.map fun entry => Address.decode entry.1).Nodup) :
    u.snapshot.cells.Perm d.filled := by
  obtain ⟨cells, hloaded⟩ := loaded_of_ofSnapshot h
  have hcells := Snapshot.nodup_of_addressed hloaded.addressed hkeys
  rw [cells_snapshot, Snapshot.filled_eq hloaded.addressed]
  refine List.Perm.map _ ((List.perm_ext_iff_of_nodup u.nodup_kept.of_map
    (hcells.of_map.filter _)).2 fun (a, c) => ?_)
  rw [mem_kept_iff, hloaded.stored?_eq_some_iff hcells, List.mem_filter, decide_eq_true_iff]

end Spreadsheet
