import Mathlib.Logic.Function.Basic
import Spreadsheet.Proofs.Sheet.InSync

/-!
# Writing a batch

`Written.Entered` says what writing a list of texts has done to a sheet in sync: each cell holds the
last text written into it, cells that were not written are as they were, and the display that a
written cell had before is noted. A batch of texts that can all be read is written to its end
(`writeAll_eq`). The first text that cannot be read ends it, and what was written stays
(`writeAll_eq_of_not`).
-/

namespace Spreadsheet

open Std (ExtTreeMap)

/-- The texts of all cells once texts have been written one after the other. -/
def overwrite (texts : Address → Option Text) (edits : List (Address × Option Text)) :
    Address → Option Text :=
  edits.foldl (fun texts edit => Function.update texts edit.1 (heldText edit.2)) texts

theorem overwrite_append (texts : Address → Option Text)
    (edits later : List (Address × Option Text)) :
    overwrite texts (edits ++ later) = overwrite (overwrite texts edits) later :=
  List.foldl_append

namespace Sheet

variable {s : Sheet} {raw : Option Text} {edits later : List (Address × Option Text)}

/-- What writing a list of texts has done to a sheet. -/
structure Entered (s : Sheet) (edits : List (Address × Option Text)) (w : Written) : Prop where
  inSync : w.sheet.InSync
  language : w.sheet.language = s.language
  rows : w.sheet.rows = s.rows
  columns : w.sheet.columns = s.columns
  raw?_eq : w.sheet.grid.raw? = overwrite s.grid.raw? edits
  mem_before_iff : ∀ a, a ∈ w.before ↔ a ∈ edits.map Prod.fst
  before_eq : ∀ a ∈ w.before, w.before[a]? = some (s.grid.value a).shown
  pair?_eq : ∀ a, a ∉ w.before → w.sheet.grid.pair? a = s.grid.pair? a

namespace Entered

variable {w : Written}

theorem nil (h : s.InSync) : s.Entered [] ⟨s, ∅⟩ := by
  refine ⟨h, rfl, rfl, rfl, rfl, ?_, ?_, ?_⟩ <;> simp

/-- Before a cell is written, its display is noted; the note tells what it displayed at first. -/
theorem note_eq (h : s.Entered edits w) (a : Address) :
    ∃ before, w.note a = .ok ⟨w.sheet, before⟩ ∧ (∀ b, b ∈ before ↔ b = a ∨ b ∈ w.before) ∧
      ∀ b ∈ before, before[b]? = some (s.grid.value b).shown := by
  unfold Written.note
  by_cases ha : a ∈ w.before
  · refine ⟨w.before, by simp [ha], fun b => ?_, h.before_eq⟩
    refine ⟨.inr, fun hb => hb.elim (fun hb => hb ▸ ha) id⟩
  · have hdisplay := (h.inSync.grid.displayable a).display_eq
    refine ⟨w.before.insert a (w.sheet.grid.value a).shown, by simp [ha, hdisplay], fun b => ?_,
      fun b hb => ?_⟩
    · rw [ExtTreeMap.mem_insert, Std.LawfulEqOrd.compare_eq_iff_eq, eq_comm]
    · by_cases hab : a = b
      · subst hab
        rw [ExtTreeMap.getElem?_insert_self, Grid.value_congr (h.pair?_eq a ha)]
      · have hb : b ∈ w.before := by simpa [hab] using hb
        simpa [ExtTreeMap.getElem?_insert, hab] using h.before_eq b hb

theorem snoc (h : s.Entered edits w) (hraw : s.language.Accepts raw) (a : Address) :
    ∃ w', Written.writeAll w [(a, raw)] = (w', none) ∧ s.Entered (edits ++ [(a, raw)]) w' := by
  obtain ⟨before, hnote, hmem, hbefore⟩ := h.note_eq a
  obtain ⟨s', hwrite, hwrote⟩ := write_eq h.inSync a (h.language ▸ hraw)
  refine ⟨⟨s', before⟩, by simp [Written.writeAll, hnote, hwrite], hwrote.inSync,
    hwrote.language.trans h.language, hwrote.rows.trans h.rows, hwrote.columns.trans h.columns,
    ?_, fun b => ?_, hbefore, fun b hb => ?_⟩
  · show s'.grid.raw? = overwrite s.grid.raw? (edits ++ [(a, raw)])
    funext b
    rw [overwrite_append, ← h.raw?_eq]
    by_cases hb : b = a
    · subst hb
      simp [overwrite, hwrote.raw?_self]
    · simp [overwrite, hb, Grid.raw?_congr (hwrote.pair?_of_ne b hb)]
  · show b ∈ before ↔ b ∈ (edits ++ [(a, raw)]).map Prod.fst
    simp [hmem, h.mem_before_iff, or_comm]
  · show s'.grid.pair? b = s.grid.pair? b
    rw [hmem, not_or] at hb
    rw [hwrote.pair?_of_ne b hb.1, h.pair?_eq b hb.2]

end Entered

theorem writeAll_append (w : Written) (edits later : List (Address × Option Text)) :
    Written.writeAll w (edits ++ later) =
      match Written.writeAll w edits with
      | (w, none) => Written.writeAll w later
      | (w, some f) => (w, some f) := by
  induction edits generalizing w with
  | nil => rfl
  | cons edit edits ih =>
    simp only [List.cons_append, Written.writeAll]
    split
    · rfl
    · split
      · rfl
      · exact ih _

/-- Texts that can be read are written. -/
theorem Entered.writeAll_eq (hlater : ∀ edit ∈ later, s.language.Accepts edit.2) :
    ∀ {edits : List (Address × Option Text)} {w : Written}, s.Entered edits w →
      ∃ w', Written.writeAll w later = (w', none) ∧ s.Entered (edits ++ later) w' := by
  induction later with
  | nil => exact fun {edits w} h => ⟨w, rfl, by rwa [List.append_nil]⟩
  | cons edit later ih =>
    intro edits w h
    obtain ⟨w', hw', h'⟩ := h.snoc (hlater edit List.mem_cons_self) edit.1
    obtain ⟨w'', hw'', h''⟩ := ih (fun e he => hlater e (List.mem_cons_of_mem edit he)) h'
    refine ⟨w'', ?_, by rwa [List.append_assoc] at h''⟩
    rw [← List.singleton_append, writeAll_append, hw']
    exact hw''

/-- The first text that cannot be read ends a batch, and what was written before it stays. -/
theorem writeAll_eq_of_not (h : s.InSync) (a : Address)
    (later : List (Address × Option Text)) (hedits : ∀ edit ∈ edits, s.language.Accepts edit.2)
    (hraw : ¬ s.language.Accepts raw) :
    ∃ w before, Written.writeAll ⟨s, ∅⟩ edits = (w, none) ∧ s.Entered edits w ∧
      Written.writeAll ⟨s, ∅⟩ (edits ++ (a, raw) :: later) =
        (⟨w.sheet, before⟩, some .numeralTooLong) := by
  obtain ⟨w, hw, hentered⟩ := Entered.writeAll_eq hedits (.nil h)
  obtain ⟨before, hnote, -⟩ := hentered.note_eq a
  refine ⟨w, before, hw, hentered, ?_⟩
  rw [writeAll_append, hw]
  simp only [Written.writeAll, hnote]
  rw [write_eq_of_not a (hentered.language ▸ hraw)]

end Sheet

end Spreadsheet
