import Spreadsheet.Proofs.Sheet.Load

/-!
# What is kept of cells that are edited

Writing a text into a cell keeps the style of the cell, and a cell that was empty gets the plain one
(`keepText`). A batch writes its texts one after the other (`stored?_applyEdits`), a style replaces
the style of one cell (`stored?_setStyle`), and computing changes nothing of what is kept
(`Revalued.stored?_eq`).
-/

namespace Spreadsheet

open Std (ExtTreeMap)

/-- What is kept of the cells once a text has been written into one of them. -/
def keepText (kept : Address → Option StoredCell) (a : Address) (raw : Option Text) :
    Address → Option StoredCell :=
  Function.update kept a
    ((heldText raw).map fun t => ⟨t, ((kept a).map StoredCell.style).getD .plain⟩)

namespace Grid

variable {g : Grid} {a : Address}

theorem stored?_erase (g : Grid) (a : Address) {raw : Option Text} (h : heldText raw = none) :
    stored? (g.erase a) = keepText g.stored? a raw := by
  funext b
  have hcell := congrArg Prod.fst (pair?_erase (g := g) (a := a) (b := b))
  by_cases hb : b = a <;> simp_all [pair?, stored?, keepText]

theorem stored?_put (g : Grid) (a : Address) {raw : Text} (content : Content)
    (h : ¬ raw.IsBlank) : stored? (g.put a raw content) = keepText g.stored? a (some raw) := by
  funext b
  have hcell := congrArg Prod.fst (pair?_put (g := g) (a := a) (b := b) raw content)
  by_cases hb : b = a
  · rw [if_pos hb] at hcell
    have hcell : (g.put a raw content).cells[b]? = some _ := hcell
    rw [stored?, hcell, hb, keepText, Function.update_self, heldText_of_not_isBlank h, stored?,
      Option.map_map]
    rfl
  · rw [if_neg hb] at hcell
    have hcell : (g.put a raw content).cells[b]? = g.cells[b]? := hcell
    rw [stored?, hcell, keepText, Function.update_of_ne hb, stored?]

end Grid

namespace Sheet

variable {s s' u : Sheet} {a : Address} {raw : Option Text}
  {edits : List (Address × Option Text)} {changed : List Address}

theorem stored?_write (h : s.write a raw = (s', none)) :
    s'.grid.stored? = keepText s.grid.stored? a raw := by
  have hclear (h : s.clear a = (s', none)) (hraw : heldText raw = none) :
      s'.grid.stored? = keepText s.grid.stored? a raw := by
    obtain rfl : _ = s' := congrArg Prod.fst h
    exact s.grid.stored?_erase a hraw
  cases raw with
  | none => exact hclear h rfl
  | some raw =>
    rw [write] at h
    split at h
    · next hblank => exact hclear h (heldText_of_isBlank hblank)
    · next hblank =>
      unfold fill at h
      split at h
      · cases h
      · next content hread =>
        obtain rfl : _ = s' := congrArg Prod.fst h
        exact s.grid.stored?_put a content hblank

theorem sheet_note {w v : Written} (h : w.note a = .ok v) : v.sheet = w.sheet := by
  unfold Written.note at h
  split at h
  · cases h
    rfl
  · split at h
    · cases h
    · cases h
      rfl

theorem stored?_writeAll : ∀ {edits : List (Address × Option Text)} {w w' : Written},
    Written.writeAll w edits = (w', none) → w'.sheet.grid.stored? =
      edits.foldl (fun kept edit => keepText kept edit.1 edit.2) w.sheet.grid.stored?
  | [], w, w', h => by
    cases h
    rfl
  | (a, raw) :: edits, w, w', h => by
    rw [Written.writeAll] at h
    split at h
    · cases h
    next v hnote =>
    split at h
    · cases h
    next s' hwrite =>
    rw [stored?_writeAll h, List.foldl_cons, ← sheet_note hnote, ← stored?_write hwrite]

theorem Revalued.stored?_eq (h : s.Revalued u) : u.grid.stored? = s.grid.stored? := by
  funext a
  rw [Grid.stored?, h.getElem?_eq, Option.map_map]
  rfl

/-- A batch writes its texts one after the other. -/
theorem stored?_applyEdits (h : s.InSync) (hok : (s.applyEdits edits).result = .ok changed) :
    (s.applyEdits edits).sheet.grid.stored? =
      edits.foldl (fun kept edit => keepText kept edit.1 edit.2) s.grid.stored? := by
  rcases accepts_or_exists s.language edits with hall | ⟨accepted, a, raw, later, rfl, hacc, hraw⟩
  · obtain ⟨w, hw, hentered⟩ := Entered.writeAll_eq hall (.nil h)
    have hroots (a : Address) (ha : a ∈ edits.map Prod.fst) : a ∈ w.before.keys :=
      ExtTreeMap.mem_keys.2 ((hentered.mem_before_iff a).2 ha)
    obtain ⟨u, changed', hu, -, hrevalued⟩ := recompute_eq hentered hroots
    rw [← stored?_writeAll hw, applyEdits, hw]
    simp only [hu]
    exact hrevalued.stored?_eq
  · obtain ⟨w, -, -, hfail⟩ := applyEdits_eq_of_not h a later hacc hraw
    rw [hfail] at hok
    cases hok

/-- A style replaces the style of one cell. -/
theorem stored?_setStyle {style : Style} (h : s.setStyle (.placed a) style = .ok u) :
    u.grid.stored? =
      Function.update s.grid.stored? a ((s.grid.stored? a).map fun c => ⟨c.raw, style⟩) := by
  obtain ⟨b, hb, hset⟩ := bind_eq_ok.1 h
  obtain ⟨-, rfl⟩ := checkAddress_eq_ok_iff.1 hb
  split at hset
  · cases hset
    funext b
    show Grid.stored? (s.grid.change a _) b = _
    rw [Grid.stored?, Grid.getElem?_change]
    by_cases hba : b = a
    · subst hba
      rw [if_pos rfl, Function.update_self, Grid.stored?, Option.map_map, Option.map_map]
      rfl
    · rw [if_neg hba, Function.update_of_ne hba]
      rfl
  · cases hset

end Sheet

end Spreadsheet
