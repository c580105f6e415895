import Spreadsheet.Proofs.Sheet.Operation

/-!
# What a sheet made from a snapshot holds

Texts written one after the other, and styles set one after the other, are all there if no cell is
met twice (`overwrite_of_mem`, `getElem?_restoreStyles_of_mem`). So a sheet made from a snapshot
whose keys name distinct cells keeps exactly the entries that are not blank (`stored?_eq_some_iff`),
and a snapshot is refused only if a key names no cell that may be used or a text cannot be read
(`ofSnapshot_eq_of_accepts`).
-/

namespace Spreadsheet

open Std (ExtTreeMap)

/-! ## Texts and styles of distinct cells -/

section Distinct

variable {texts : Address → Option Text} {edits : List (Address × Option Text)} {a : Address}

theorem overwrite_of_not_mem (h : a ∉ edits.map Prod.fst) : overwrite texts edits a = texts a := by
  induction edits generalizing texts with
  | nil => rfl
  | cons edit edits ih =>
    rw [List.map_cons, List.mem_cons, not_or] at h
    show overwrite (Function.update texts edit.1 (heldText edit.2)) edits a = texts a
    rw [ih h.2, Function.update_of_ne h.1]

theorem overwrite_of_mem (hkeys : (edits.map Prod.fst).Nodup) {raw : Option Text}
    (h : (a, raw) ∈ edits) : overwrite texts edits a = heldText raw := by
  induction edits generalizing texts with
  | nil => cases h
  | cons edit edits ih =>
    obtain ⟨hfirst, hkeys⟩ := List.nodup_cons.1 hkeys
    show overwrite (Function.update texts edit.1 (heldText edit.2)) edits a = heldText raw
    rcases List.mem_cons.1 h with rfl | h
    · rw [overwrite_of_not_mem hfirst, Function.update_self]
    · exact ih hkeys h

variable {g : Grid} {cells : List (Address × StoredCell)}

theorem getElem?_restoreStyles_of_not_mem (h : a ∉ cells.map Prod.fst) :
    (Sheet.restoreStyles g cells).cells[a]? = g.cells[a]? := by
  induction cells generalizing g with
  | nil => rfl
  | cons cell cells ih =>
    rw [List.map_cons, List.mem_cons, not_or] at h
    show (Sheet.restoreStyles (g.change cell.1 _) cells).cells[a]? = g.cells[a]?
    rw [ih h.2, Grid.getElem?_change, if_neg h.1]

theorem getElem?_restoreStyles_of_mem (hkeys : (cells.map Prod.fst).Nodup) {stored : StoredCell}
    (h : (a, stored) ∈ cells) : (Sheet.restoreStyles g cells).cells[a]? =
      g.cells[a]?.map fun c => { c with style := stored.style } := by
  induction cells generalizing g with
  | nil => cases h
  | cons cell cells ih =>
    obtain ⟨hfirst, hkeys⟩ := List.nodup_cons.1 hkeys
    show (Sheet.restoreStyles (g.change cell.1 _) cells).cells[a]? = _
    rcases List.mem_cons.1 h with rfl | h
    · rw [getElem?_restoreStyles_of_not_mem hfirst, Grid.getElem?_change, if_pos rfl]
    · have hne : a ≠ cell.1 := by
        rintro rfl
        exact hfirst (List.mem_map.2 ⟨_, h, rfl⟩)
      rw [ih hkeys h, Grid.getElem?_change, if_neg hne]

end Distinct

/-- What is kept of a cell. -/
def Grid.stored? (g : Grid) (a : Address) : Option StoredCell :=
  g.cells[a]?.map fun c => ⟨c.raw, c.style⟩

namespace Sheet

variable {lang : Language} {d : Snapshot} {s u : Sheet} {a : Address}
  {cells : List (Address × StoredCell)}

/-! ## Addresses that may be used -/

theorem checkAddress_eq_ok_iff {b : Address} : checkAddress a = .ok b ↔ a.InBounds ∧ a = b := by
  unfold checkAddress
  by_cases ha : a.InBounds
  · rw [if_pos ha, Except.ok.injEq]
    exact (and_iff_right ha).symm
  · rw [if_neg ha]
    refine ⟨fun h => ?_, fun h => (ha h.1).elim⟩
    split at h <;> cases h

theorem inBounds_of_resolve {t : Target} (h : t.resolve = .ok a) : a.InBounds := by
  cases t with
  | placed b =>
    obtain ⟨hb, rfl⟩ := checkAddress_eq_ok_iff.1 h
    exact hb
  | named t =>
    obtain ⟨b, -, hcheck⟩ := bind_eq_ok.1 h
    obtain ⟨hb, rfl⟩ := checkAddress_eq_ok_iff.1 hcheck
    exact hb

theorem resolveAll_eq_ok_iff {edits : List Edit} {checked : List (Address × Option Text)} :
    resolveAll edits = .ok checked ↔
      List.Forall₂ (fun e c => e.target.resolve = .ok c.1 ∧ e.raw = c.2) edits checked := by
  rw [resolveAll, mapM_eq_ok_iff]
  have hitem (e : Edit) (c : Address × Option Text) :
      ((do let a ← e.target.resolve; .ok (a, e.raw)) = .ok c) ↔
        e.target.resolve = .ok c.1 ∧ e.raw = c.2 := by
    rw [bind_eq_ok]
    constructor
    · rintro ⟨a, ha, h⟩
      cases h
      exact ⟨ha, rfl⟩
    · rintro ⟨ha, hraw⟩
      exact ⟨c.1, ha, by rw [hraw]⟩
  simp only [hitem]

theorem inBounds_of_resolveAll {edits : List Edit} {checked : List (Address × Option Text)}
    (h : resolveAll edits = .ok checked) : ∀ edit ∈ checked, edit.1.InBounds := by
  intro edit hedit
  obtain ⟨e, -, hresolve, -⟩ := exists_of_forall₂ (resolveAll_eq_ok_iff.1 h) hedit
  exact inBounds_of_resolve hresolve

/-! ## Loading -/

/-- The texts of a snapshot as a batch. -/
def batchOf (cells : List (Address × StoredCell)) : List (Address × Option Text) :=
  cells.map fun cell => (cell.1, some cell.2.raw)

theorem map_fst_batchOf (cells : List (Address × StoredCell)) :
    (batchOf cells).map Prod.fst = cells.map Prod.fst := by
  rw [batchOf, List.map_map]
  rfl

theorem resolveAll_placed_iff {edits checked : List (Address × Option Text)} :
    resolveAll (edits.map fun edit => ⟨.placed edit.1, edit.2⟩) = .ok checked ↔
      (∀ edit ∈ edits, edit.1.InBounds) ∧ checked = edits := by
  rw [resolveAll_eq_ok_iff, List.forall₂_map_left_iff]
  induction edits generalizing checked with
  | nil => simp
  | cons edit edits ih =>
    rw [List.forall₂_cons_left_iff]
    constructor
    · rintro ⟨first, rest, ⟨hresolve, hraw⟩, hrest, rfl⟩
      obtain ⟨hbounds, rfl⟩ := ih.1 hrest
      obtain ⟨hedit, hfst⟩ := checkAddress_eq_ok_iff.1 hresolve
      exact ⟨List.forall_mem_cons.2 ⟨hedit, hbounds⟩,
        congrArg (· :: rest) (Prod.ext hfst.symm hraw.symm)⟩
    · rintro ⟨hbounds, rfl⟩
      obtain ⟨hedit, hbounds⟩ := List.forall_mem_cons.1 hbounds
      exact ⟨_, _, ⟨checkAddress_eq_ok_iff.2 ⟨hedit, rfl⟩, rfl⟩, ih.2 ⟨hbounds, rfl⟩, rfl⟩

theorem resolveAll_batchOf_iff {checked : List (Address × Option Text)} :
    resolveAll (cells.map fun (a, c) => ⟨.placed a, some c.raw⟩) = .ok checked ↔
      (∀ cell ∈ cells, cell.1.InBounds) ∧ checked = batchOf cells := by
  have hmap : (cells.map fun (a, c) => (⟨.placed a, some c.raw⟩ : Edit)) =
      (batchOf cells).map fun edit => ⟨.placed edit.1, edit.2⟩ := by
    rw [batchOf, List.map_map]
    rfl
  rw [hmap, resolveAll_placed_iff, batchOf, List.forall_mem_map]

/-- What a sheet holds that has been made from the cells of a snapshot. -/
structure Loaded (lang : Language) (d : Snapshot) (cells : List (Address × StoredCell))
    (u : Sheet) : Prop where
  addressed : d.addressed = .ok cells
  inBounds : ∀ cell ∈ cells, cell.1.InBounds
  rows : u.rows = d.rows
  columns : u.columns = d.columns
  raw?_eq : u.grid.raw? = overwrite (fun _ => none) (batchOf cells)
  restored : ∃ g : Grid, u.grid = restoreStyles g cells

/-- A snapshot becomes a sheet if its keys name cells that may be used and its texts can be read. -/
theorem ofSnapshot_eq_of_accepts (haddressed : d.addressed = .ok cells)
    (hbounds : ∀ cell ∈ cells, cell.1.InBounds)
    (haccepts : ∀ cell ∈ cells, lang.Accepts (some cell.2.raw)) :
    ∃ u, ofSnapshot lang d = .ok u ∧ Loaded lang d cells u := by
  have hbatch : ∀ edit ∈ batchOf cells, (empty lang d.rows d.columns).language.Accepts edit.2 := by
    intro edit hedit
    obtain ⟨cell, hcell, rfl⟩ := List.mem_map.1 hedit
    exact haccepts cell hcell
  obtain ⟨t, changed, ht, hupdated, hraw⟩ :=
    applyEdits_eq (inSync_empty lang d.rows d.columns) hbatch
  refine ⟨{ t with grid := restoreStyles t.grid cells }, ?_, haddressed, hbounds, hupdated.rows,
    hupdated.columns, ?_, t.grid, rfl⟩
  · refine bind_eq_ok.2 ⟨cells, haddressed, bind_eq_ok.2 ⟨batchOf cells, ?_, ?_⟩⟩
    · exact resolveAll_batchOf_iff.2 ⟨hbounds, rfl⟩
    · simp only [ht]
  · rw [← raw?_empty lang d.rows d.columns, ← hraw]
    funext a
    exact Grid.Restyled.raw?_eq (restyled_restoreStyles cells t.grid) a

/-- What a sheet holds that was made from a snapshot. -/
theorem loaded_of_ofSnapshot (h : ofSnapshot lang d = .ok u) :
    ∃ cells, Loaded lang d cells u := by
  obtain ⟨cells, haddressed, hrest⟩ := bind_eq_ok.1 h
  obtain ⟨checked, hresolve, hrest⟩ := bind_eq_ok.1 hrest
  obtain ⟨hbounds, rfl⟩ := resolveAll_batchOf_iff.1 hresolve
  have haccepts : ∀ cell ∈ cells, lang.Accepts (some cell.2.raw) := by
    rcases accepts_or_exists lang (batchOf cells) with hall | hfirst
    · exact fun cell hcell => hall _ (List.mem_map.2 ⟨cell, hcell, rfl⟩)
    · obtain ⟨accepted, a, raw, later, heq, hacc, hraw⟩ := hfirst
      obtain ⟨w, -, -, hfail⟩ :=
        applyEdits_eq_of_not (inSync_empty lang d.rows d.columns) a later hacc hraw
      rw [heq] at hrest
      simp only [hfail] at hrest
      cases hrest
  obtain ⟨u', hu', hloaded⟩ := ofSnapshot_eq_of_accepts haddressed hbounds haccepts
  rw [h, Except.ok.injEq] at hu'
  exact ⟨cells, hu' ▸ hloaded⟩

section Distinct

variable {c : StoredCell}

theorem Loaded.stored?_of_mem (h : Loaded lang d cells u) (hkeys : (cells.map Prod.fst).Nodup)
    (hc : (a, c) ∈ cells) : u.grid.stored? a = if c.raw.IsBlank then none else some c := by
  obtain ⟨g, hg⟩ := h.restored
  have hraw : u.grid.cells[a]?.map Cell.raw = heldText (some c.raw) := by
    refine (congrFun h.raw?_eq a).trans (overwrite_of_mem ?_ (List.mem_map.2 ⟨_, hc, rfl⟩))
    rwa [map_fst_batchOf]
  have hstyle : ∀ e ∈ u.grid.cells[a]?, e.style = c.style := by
    intro e he
    rw [hg, getElem?_restoreStyles_of_mem hkeys hc] at he
    obtain ⟨f, -, rfl⟩ := Option.map_eq_some_iff.1 he
    rfl
  by_cases hblank : c.raw.IsBlank
  · rw [heldText_of_isBlank hblank, Option.map_eq_none_iff] at hraw
    rw [Grid.stored?, hraw, if_pos hblank]
    rfl
  · rw [heldText_of_not_isBlank hblank] at hraw
    obtain ⟨e, he, heraw⟩ := Option.map_eq_some_iff.1 hraw
    rw [Grid.stored?, he, if_neg hblank, Option.map_some, heraw, hstyle e he]

theorem Loaded.stored?_of_not_mem (h : Loaded lang d cells u) (ha : a ∉ cells.map Prod.fst) :
    u.grid.stored? a = none := by
  have hraw : u.grid.cells[a]?.map Cell.raw = none := by
    refine (congrFun h.raw?_eq a).trans (overwrite_of_not_mem ?_)
    rwa [map_fst_batchOf]
  rw [Grid.stored?, Option.map_eq_none_iff.1 hraw]
  rfl

/-- A sheet keeps of a snapshot the entries that are not blank, if no two name the same cell. -/
theorem Loaded.stored?_eq_some_iff (h : Loaded lang d cells u)
    (hkeys : (cells.map Prod.fst).Nodup) :
    u.grid.stored? a = some c ↔ (a, c) ∈ cells ∧ ¬ c.raw.IsBlank := by
  constructor
  · intro hc
    by_cases ha : a ∈ cells.map Prod.fst
    · obtain ⟨cell, hcell, rfl⟩ := List.mem_map.1 ha
      rw [h.stored?_of_mem hkeys hcell] at hc
      split at hc
      · cases hc
      · next hblank =>
        cases hc
        exact ⟨hcell, hblank⟩
    · rw [h.stored?_of_not_mem ha] at hc
      cases hc
  · rintro ⟨hc, hblank⟩
    rw [h.stored?_of_mem hkeys hc, if_neg hblank]

end Distinct

end Sheet

end Spreadsheet
