import Spreadsheet.Proofs.Json.Joined
import Spreadsheet.Proofs.Sheet.Kept
import Spreadsheet.Proofs.Sheet.Reload
import Spreadsheet.Store

/-!
# Rows keep sheets

How stored cells are checked when they are read is not fixed. If texts that are admitted come from
JSON and the check gives back cells of such texts as they were stored (`Setup.Restores`), the row of
a sheet of such texts is read back as the snapshot of the sheet (`snapshot_ofSnapshot`). What is
done to a sheet with such texts keeps it a sheet of such texts (`Sheet.AllTexts`).
-/

namespace Spreadsheet

/-! ## Texts -/

namespace Text

theorem isJoined_of_not_isHigh {t : Text} (h : ∀ c ∈ t, ¬ c.IsHigh) : t.IsJoined := by
  induction t with
  | nil => exact .nil
  | cons c t ih =>
    have ht := ih fun d hd => h d (List.mem_cons_of_mem c hd)
    cases t with
    | nil => exact .singleton c
    | cons d t =>
      exact List.isChain_cons_cons.2 ⟨fun hpair => h c List.mem_cons_self hpair.1, ht⟩

theorem isJoined_ofChars (cs : List Char) : (ofChars cs).IsJoined := by
  refine isJoined_of_not_isHigh fun c hc => ?_
  obtain ⟨d, -, rfl⟩ := List.mem_map.1 hc
  exact CodePoint.not_isHigh_char d

theorem isJoined_ofString (s : String) : (ofString s).IsJoined :=
  isJoined_ofChars s.toList

end Text

theorem Address.isJoined_label (a : Address) : a.label.IsJoined := by
  refine Text.isJoined_of_not_isHigh fun c hc => ?_
  rcases List.mem_append.1 hc with hc | hc
  · obtain ⟨n, -, rfl⟩ := Column.isLetter_iff.1 (Column.isLetter_of_mem_letters hc)
    exact CodePoint.not_isHigh_char _
  · obtain ⟨d, -, rfl⟩ := List.mem_map.1 hc
    exact CodePoint.not_isHigh_char d

/-! ## Styles -/

namespace Style

/-- The texts of a style that can be any. -/
def texts (s : Style) : List Text :=
  s.background.toList ++ s.color.toList

/-- The names of the fields that a style can have. -/
def fieldNames : List Text :=
  ["bold", "italic", "underline", "align", "bg", "color", "font_size", "format"]

theorem sublist_fieldNames (s : Style) : (s.fields.map Prod.fst).Sublist fieldNames := by
  have hfield (key : Text) (v : Option Json) :
      ((Json.fieldIfSome key v).map Prod.fst).Sublist [key] := by
    cases v with
    | none => exact List.nil_sublist _
    | some v => exact List.Sublist.refl _
  simp only [fields, List.map_append]
  exact (((((((hfield _ _).append (hfield _ _)).append (hfield _ _)).append
    (hfield _ _)).append (hfield _ _)).append (hfield _ _)).append (hfield _ _)).append (hfield _ _)

theorem faithful_toJson {s : Style} (h : ∀ t ∈ s.texts, t.IsJoined) : s.toJson.Faithful := by
  have hfield {key : Text} {v : Option Json} (hv : ∀ j ∈ v, j.Faithful) :
      ∀ f ∈ Json.fieldIfSome key v, f.2.Faithful := by
    cases v with
    | none => simp [Json.fieldIfSome]
    | some j => simpa [Json.fieldIfSome] using hv j rfl
  have hmap {α : Type} {write : α → Json} {x : Option α} (hx : ∀ y ∈ x, (write y).Faithful) :
      ∀ j ∈ x.map write, j.Faithful := by
    intro j hj
    obtain ⟨y, hy, rfl⟩ := Option.map_eq_some_iff.1 hj
    exact hx y hy
  refine .object (s.sublist_fieldNames.nodup (by decide)) (fun f hf => ?_) ?_
  · have hname : f.1 ∈ fieldNames := s.sublist_fieldNames.subset (List.mem_map_of_mem hf)
    have hnames : ∀ name ∈ fieldNames, name.IsJoined := by
      simp only [fieldNames, List.forall_mem_cons]
      simp [Text.isJoined_ofString]
    exact hnames f.1 hname
  · simp only [fields, List.forall_mem_append]
    refine ⟨⟨⟨⟨⟨⟨⟨hfield (hmap ?_), hfield (hmap ?_)⟩, hfield (hmap ?_)⟩, hfield (hmap ?_)⟩,
      hfield (hmap ?_)⟩, hfield (hmap ?_)⟩, hfield (hmap ?_)⟩, hfield (hmap ?_)⟩
    · exact fun b _ => .bool b
    · exact fun b _ => .bool b
    · exact fun b _ => .bool b
    · exact fun a _ => .string (by cases a <;> exact Text.isJoined_ofString _)
    · exact fun t ht => .string (h t (by simp [texts, Option.mem_def.1 ht]))
    · exact fun t ht => .string (h t (by simp [texts, Option.mem_def.1 ht]))
    · exact fun n _ => .integer n
    · exact fun f _ => .string (by cases f <;> exact Text.isJoined_ofString _)

end Style

/-! ## Cells -/

namespace StoredCell

/-- The texts of what is kept of a cell. -/
def texts (c : StoredCell) : List Text :=
  c.raw :: c.style.texts

theorem faithful_toJson {c : StoredCell} (h : ∀ t ∈ c.texts, t.IsJoined) : c.toJson.Faithful := by
  obtain ⟨hraw, hstyle⟩ := List.forall_mem_cons.1 h
  refine .object ?_ ?_ ?_
  · show (["raw_input", "style"] : List Text).Nodup
    decide
  · exact List.forall_mem_cons.2 ⟨Text.isJoined_ofString _,
      List.forall_mem_cons.2 ⟨Text.isJoined_ofString _, by simp⟩⟩
  · exact List.forall_mem_cons.2 ⟨.string hraw,
      List.forall_mem_cons.2 ⟨Style.faithful_toJson hstyle, by simp⟩⟩

end StoredCell

/-- Cells whose names and texts are admitted pass the check as they were stored. -/
def CellsCheck.ReadsBack (check : CellsCheck) (admits : Text → Prop) : Prop :=
  ∀ cells : List (Text × StoredCell), (cells.map Prod.fst).Nodup →
    (∀ cell ∈ cells, admits cell.1 ∧ ∀ t ∈ cell.2.texts, admits t) →
      check (Json.ofCells cells) = .ok cells

theorem CellsCheck.readsBack_strict (admits : Text → Prop) : strict.ReadsBack admits :=
  fun cells _ _ => Shape.dictionary_map StoredCell.toJson StoredCell.shape_toJson cells

namespace Snapshot

variable {cells : List (Text × StoredCell)}

/-- The text of cells is read back as the same JSON value. -/
theorem read?_writeCells (hkeys : (cells.map Prod.fst).Nodup)
    (hjoined : ∀ cell ∈ cells, cell.1.IsJoined ∧ ∀ t ∈ cell.2.texts, t.IsJoined) :
    Json.read? (writeCells cells) = some (Json.ofCells cells) := by
  refine Json.read?_write (.object ?_ ?_ ?_)
  · rwa [List.map_map]
  · intro f hf
    obtain ⟨cell, hcell, rfl⟩ := List.mem_map.1 hf
    exact (hjoined cell hcell).1
  · intro f hf
    obtain ⟨cell, hcell, rfl⟩ := List.mem_map.1 hf
    exact StoredCell.faithful_toJson (hjoined cell hcell).2

theorem isEmpty_writeCells (cells : List (Text × StoredCell)) :
    (writeCells cells).isEmpty = false :=
  Json.isEmpty_write _

end Snapshot

/-! ## Sheets -/

namespace Sheet

variable {admits : Text → Prop} {s u : Sheet}

/-- Every text that is kept of a cell is admitted. -/
def AllTexts (s : Sheet) (admits : Text → Prop) : Prop :=
  ∀ a, ∀ c ∈ s.grid.stored? a, ∀ t ∈ c.texts, admits t

theorem allTexts_empty (lang : Language) (rows columns : Int) :
    (empty lang rows columns).AllTexts admits := by
  intro a c hc
  simp [empty, Grid.empty, Grid.stored?] at hc

theorem AllTexts.applyEdits (h : s.AllTexts admits) (hs : s.InSync)
    {edits : List (Address × Option Text)} (hedits : ∀ edit ∈ edits, ∀ t ∈ edit.2, admits t)
    {changed : List Address} (hok : (s.applyEdits edits).result = .ok changed) :
    (s.applyEdits edits).sheet.AllTexts admits := by
  rw [AllTexts, stored?_applyEdits hs hok]
  have hkept : ∀ a, ∀ c ∈ s.grid.stored? a, ∀ t ∈ c.texts, admits t := h
  generalize s.grid.stored? = kept at hkept
  clear hok
  induction edits generalizing kept with
  | nil => exact hkept
  | cons edit edits ih =>
    obtain ⟨hedit, hedits⟩ := List.forall_mem_cons.1 hedits
    refine ih hedits _ fun b c (hc : c ∈ keepText kept edit.1 edit.2 b) => ?_
    by_cases hb : b = edit.1
    · subst hb
      rw [keepText, Function.update_self] at hc
      obtain ⟨t, ht, rfl⟩ := Option.map_eq_some_iff.1 hc
      refine List.forall_mem_cons.2 ⟨hedit t (Option.filter_eq_some_iff.1 ht).1, ?_⟩
      cases hstyle : kept edit.1 with
      | none => exact List.forall_mem_nil admits
      | some d => exact (List.forall_mem_cons.1 (hkept _ d hstyle)).2
    · rw [keepText, Function.update_of_ne hb] at hc
      exact hkept b c hc

theorem AllTexts.setCells (h : s.AllTexts admits) (hs : s.InSync) {edits : List Edit}
    (hedits : ∀ e ∈ edits, ∀ t ∈ e.raw, admits t) {changed : List Address}
    (hok : (s.setCells edits).result = .ok changed) : (s.setCells edits).sheet.AllTexts admits := by
  rw [Sheet.setCells] at hok ⊢
  cases hresolve : resolveAll edits with
  | error f =>
    rw [hresolve] at hok
    cases hok
  | ok checked =>
    rw [hresolve] at hok
    refine h.applyEdits hs (fun edit hedit => ?_) hok
    obtain ⟨e, he, -, hraw⟩ := exists_of_forall₂ (resolveAll_eq_ok_iff.1 hresolve) hedit
    exact hraw ▸ hedits e he

theorem AllTexts.setStyle (h : s.AllTexts admits) {a : Address} {style : Style}
    (hstyle : ∀ t ∈ style.texts, admits t) (hok : s.setStyle (.placed a) style = .ok u) :
    u.AllTexts admits := by
  intro b c hc
  rw [stored?_setStyle hok] at hc
  by_cases hb : b = a
  · subst hb
    rw [Function.update_self] at hc
    obtain ⟨d, hd, rfl⟩ := Option.map_eq_some_iff.1 hc
    exact List.forall_mem_cons.2 ⟨(List.forall_mem_cons.1 (h b d hd)).1, hstyle⟩
  · rw [Function.update_of_ne hb] at hc
    exact h b c hc

end Sheet

/-! ## Rows -/

/-- What a store has to be set up with so that sheets can be made again from their rows, as long as
their texts are admitted. -/
structure Setup.Restores (setup : Setup) (admits : Text → Prop) : Prop where
  /-- Lazy functions evaluate only parts of their arguments. -/
  keepsToArguments : setup.language.KeepsToArguments
  /-- The texts that are admitted come from JSON. -/
  isRead : ∀ t, admits t → t.IsRead
  admits_label : ∀ a : Address, admits a.label
  /-- The check converts no cell whose texts are admitted. -/
  readsBack : setup.check.ReadsBack admits

/-- The row of a sheet is read back as the snapshot of the sheet. -/
theorem Row.snapshot_ofSnapshot {setup : Setup} {admits : Text → Prop}
    (hsetup : setup.Restores admits) {s : Sheet} (hs : s.Bounded) (h : s.AllTexts admits)
    (title : Text) :
    (Row.ofSnapshot title s.snapshot).snapshot setup.check = .ok s.snapshot := by
  have hkeys : (s.snapshot.cells.map Prod.fst).Nodup := by
    have hlabels : s.snapshot.cells.map Prod.fst = (s.kept.map Prod.fst).map Address.label := by
      rw [Sheet.cells_snapshot, List.map_map, List.map_map]
      rfl
    rw [hlabels]
    refine s.nodup_kept.map_on fun a ha b hb heq => ?_
    obtain ⟨⟨_, c⟩, hc, rfl⟩ := List.mem_map.1 ha
    obtain ⟨⟨_, d⟩, hd, rfl⟩ := List.mem_map.1 hb
    have hdecode := (Sheet.inBounds_of_mem_kept hs hc).decode_label
    rw [heq, (Sheet.inBounds_of_mem_kept hs hd).decode_label] at hdecode
    cases hdecode
    rfl
  have hadmits : ∀ cell ∈ s.snapshot.cells, admits cell.1 ∧ ∀ t ∈ cell.2.texts, admits t := by
    intro cell hcell
    rw [Sheet.cells_snapshot] at hcell
    obtain ⟨⟨a, c⟩, hkept, rfl⟩ := List.mem_map.1 hcell
    exact ⟨hsetup.admits_label a, h a c (Sheet.mem_kept_iff.1 hkept)⟩
  have hjoined (t : Text) (ht : admits t) : t.IsJoined := Text.isRead_iff.1 (hsetup.isRead t ht)
  have hread := Snapshot.read?_writeCells hkeys fun cell hcell =>
    ⟨hjoined _ (hadmits cell hcell).1, fun t ht => hjoined t ((hadmits cell hcell).2 t ht)⟩
  have htext : (Row.ofSnapshot title s.snapshot).cellsText =
      Snapshot.writeCells s.snapshot.cells := by
    simp [Row.cellsText, Row.ofSnapshot, Snapshot.isEmpty_writeCells]
  rw [Row.snapshot, htext, Snapshot.readCells, hread]
  simp only [hsetup.readsBack _ hkeys hadmits]
  rfl

end Spreadsheet
