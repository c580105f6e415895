import Spreadsheet.Library.Standard
import Spreadsheet.Proofs.Formula.Names
import Spreadsheet.Proofs.Sheet.Update
import Spreadsheet.Snapshot

/-!
# The sheets that operations lead to

An `Operation` is anything that a caller can do to a sheet. `Reached` are the sheets that lead from
an empty one by operations that succeeded, `Reachable` those where operations may also have failed
midway. Every reachable sheet is in sync, and all cells of a reached sheet are settled.
-/

namespace Spreadsheet

open Std (ExtTreeMap)

/-! ## Styles -/

namespace Grid

variable {g g' : Grid}

/-- Two grids differ at most in the styles of their cells. -/
structure Restyled (g g' : Grid) : Prop where
  contents : g'.contents = g.contents
  cells : ∀ a : Address, g'.cells[a]?.map (fun c : Cell => { c with style := .plain }) =
    g.cells[a]?.map fun c : Cell => { c with style := .plain }

theorem Restyled.content?_eq (h : g.Restyled g') (a : Address) :
    g'.content? a = g.content? a := by
  rw [content?, h.contents, content?]

theorem Restyled.raw?_eq (h : g.Restyled g') (a : Address) : g'.raw? a = g.raw? a := by
  have hmap := congrArg (Option.map Cell.raw) (h.cells a)
  rwa [Option.map_map, Option.map_map] at hmap

theorem Restyled.mem_iff (h : g.Restyled g') (a : Address) : a ∈ g'.cells ↔ a ∈ g.cells := by
  rw [← isSome_raw?_iff, ← isSome_raw?_iff, h.raw?_eq]

theorem Restyled.value_eq (h : g.Restyled g') (a : Address) : g'.value a = g.value a := by
  have hvalue (g : Grid) : g.value a = (g.cells[a]?.map Cell.value).getD .empty := by
    rw [value]
    cases g.cells[a]? <;> rfl
  have hmap := congrArg (Option.map Cell.value) (h.cells a)
  rw [Option.map_map, Option.map_map] at hmap
  rw [hvalue, hvalue]
  exact congrArg (Option.getD · CellValue.empty) hmap

theorem Restyled.refl (g : Grid) : g.Restyled g :=
  ⟨rfl, fun _ => rfl⟩

theorem Restyled.trans {g'' : Grid} (h : g.Restyled g') (h' : g'.Restyled g'') :
    g.Restyled g'' :=
  ⟨h'.contents.trans h.contents, fun a => (h'.cells a).trans (h.cells a)⟩

theorem restyled_change (g : Grid) (a : Address) (style : Style) :
    g.Restyled (g.change a fun c => { c with style := style }) := by
  refine ⟨contents_change _, fun b => ?_⟩
  rw [getElem?_change]
  split
  · rw [Option.map_map]
    rfl
  · rfl

end Grid

namespace Sheet

variable {s u : Sheet} {lang : Language} {edits : List Edit} {changed : List Address}
  {checked : List (Address × Option Text)}

theorem restyled_restoreStyles (cells : List (Address × StoredCell)) :
    ∀ g : Grid, g.Restyled (restoreStyles g cells) := by
  induction cells with
  | nil => exact .refl
  | cons cell cells ih =>
    exact fun g => (g.restyled_change cell.1 cell.2.style).trans (ih _)

section Restyled

variable {g : Grid}

theorem InSync.restyled (h : s.InSync) (hg : s.grid.Restyled g) :
    InSync { s with grid := g } := by
  refine ⟨⟨fun a => ?_, fun {a raw} hraw => ?_, fun {a raw content} hraw hcontent => ?_,
    fun a => ?_⟩, h.valid, fun a => ?_⟩
  · rw [hg.mem_iff, hg.contents]
    exact h.grid.paired a
  · exact h.grid.not_isBlank (hg.raw?_eq a ▸ hraw)
  · exact h.grid.read_eq (hg.raw?_eq a ▸ hraw) (hg.content?_eq a ▸ hcontent)
  · exact (hg.value_eq a).symm ▸ h.grid.displayable a
  · show s.graph.readBy a = g.reads a
    rw [h.readBy_eq, Grid.reads_congr (hg.content?_eq a).symm]

theorem settled_restyled (hg : s.grid.Restyled g) {a : Address} :
    g.Settled lang a ↔ s.grid.Settled lang a :=
  Grid.settled_congr (P := fun _ => True) (fun _ _ _ _ => trivial) (fun x _ => hg.mem_iff x)
    (fun x _ => hg.content?_eq x) (fun x _ => hg.value_eq x) trivial

end Restyled

/-! ## Batches -/

theorem resolveAll_cons (e : Edit) (edits : List Edit) :
    resolveAll (e :: edits) = (do
      let a ← e.target.resolve
      let checked ← resolveAll edits
      .ok ((a, e.raw) :: checked)) := by
  rw [resolveAll, List.mapM_cons]
  cases e.target.resolve <;> rfl

/-- A batch with an address that may not be used changes nothing. -/
theorem setCells_eq_of_error {f : Fault} (hresolve : resolveAll edits = .error f) :
    s.setCells edits = ⟨s, .error f⟩ := by
  rw [setCells, hresolve]

/-- A batch whose texts can all be read succeeds. -/
theorem setCells_eq_of_accepts (h : s.InSync) (hresolve : resolveAll edits = .ok checked)
    (hall : ∀ edit ∈ checked, s.language.Accepts edit.2) :
    ∃ u changed, s.setCells edits = ⟨u, .ok changed⟩ ∧
      s.Updated (checked.map Prod.fst) u changed ∧
        u.grid.raw? = overwrite s.grid.raw? checked := by
  rw [setCells, hresolve]
  exact applyEdits_eq h hall

/-- A batch ends at the first text that cannot be read. -/
theorem setCells_eq_of_not (h : s.InSync) (hresolve : resolveAll edits = .ok checked)
    (hnot : ¬ ∀ edit ∈ checked, s.language.Accepts edit.2) :
    ∃ accepted a raw later w, checked = accepted ++ (a, raw) :: later ∧
      (∀ edit ∈ accepted, s.language.Accepts edit.2) ∧ ¬ s.language.Accepts raw ∧
        Written.writeAll ⟨s, ∅⟩ accepted = (w, none) ∧ s.Entered accepted w ∧
          s.setCells edits = ⟨w.sheet, .error .numeralTooLong⟩ := by
  obtain ⟨accepted, a, raw, later, rfl, hacc, hraw⟩ :=
    (accepts_or_exists s.language checked).resolve_left hnot
  obtain ⟨w, hw, hentered, hfail⟩ := applyEdits_eq_of_not h a later hacc hraw
  refine ⟨accepted, a, raw, later, w, rfl, hacc, hraw, hw, hentered, ?_⟩
  rw [setCells, hresolve]
  exact hfail

/-- What a batch that succeeded has done. -/
theorem setCells_eq_ok (h : s.InSync) (hok : (s.setCells edits).result = .ok changed) :
    ∃ checked, resolveAll edits = .ok checked ∧ (∀ edit ∈ checked, s.language.Accepts edit.2) ∧
      s.Updated (checked.map Prod.fst) (s.setCells edits).sheet changed ∧
        (s.setCells edits).sheet.grid.raw? = overwrite s.grid.raw? checked := by
  cases hresolve : resolveAll edits with
  | error f => simp [setCells_eq_of_error hresolve] at hok
  | ok checked =>
    by_cases hall : ∀ edit ∈ checked, s.language.Accepts edit.2
    · obtain ⟨u, changed', heq, hupdated, hraw⟩ := setCells_eq_of_accepts h hresolve hall
      rw [heq, Except.ok.injEq] at hok
      subst hok
      rw [heq]
      exact ⟨checked, rfl, hall, hupdated, hraw⟩
    · obtain ⟨_, _, _, _, _, -, -, -, -, -, heq⟩ := setCells_eq_of_not h hresolve hall
      simp [heq] at hok

theorem inSync_applyEdits (h : s.InSync) (checked : List (Address × Option Text)) :
    (s.applyEdits checked).sheet.InSync ∧ (s.applyEdits checked).sheet.language = s.language := by
  rcases accepts_or_exists s.language checked with hall | ⟨accepted, a, raw, later, rfl, hacc, hraw⟩
  · obtain ⟨u, changed, heq, hupdated, -⟩ := applyEdits_eq h hall
    rw [heq]
    exact ⟨hupdated.inSync, hupdated.language⟩
  · obtain ⟨w, -, hentered, heq⟩ := applyEdits_eq_of_not h a later hacc hraw
    rw [heq]
    exact ⟨hentered.inSync, hentered.language⟩

theorem inSync_setCells (h : s.InSync) (edits : List Edit) :
    (s.setCells edits).sheet.InSync ∧ (s.setCells edits).sheet.language = s.language := by
  rw [setCells]
  cases resolveAll edits with
  | error f => exact ⟨h, rfl⟩
  | ok checked => exact inSync_applyEdits h checked

/-! ## Snapshots -/

theorem settled_empty (lang : Language) (rows columns : Int) (a : Address) :
    (empty lang rows columns).grid.Settled lang a :=
  Grid.paired_empty.settled_of_not_mem ExtTreeMap.not_mem_empty

/-- A sheet made from a snapshot is in sync, and its cells are settled. -/
theorem ofSnapshot_eq_ok {d : Snapshot} (h : ofSnapshot lang d = .ok u) :
    u.InSync ∧ u.language = lang ∧ ∀ a, u.grid.Settled lang a := by
  unfold ofSnapshot at h
  obtain ⟨cells, -, h⟩ := bind_eq_ok.1 h
  obtain ⟨edits, -, h⟩ := bind_eq_ok.1 h
  have hempty := inSync_empty lang d.rows d.columns
  dsimp only at h
  split at h
  · simp at h
  · next changed hresult =>
    rw [Except.ok.injEq] at h
    rcases accepts_or_exists lang edits with hall | ⟨accepted, a, raw, later, rfl, hacc, hraw⟩
    · obtain ⟨t, changed, ht, hupdated, -⟩ := applyEdits_eq hempty hall
      rw [ht] at h
      subst h
      have hrestyled := restyled_restoreStyles cells t.grid
      refine ⟨hupdated.inSync.restyled hrestyled, hupdated.language, fun a => ?_⟩
      have hsettled := hupdated.settled_all (settled_empty lang d.rows d.columns) a
      rw [hupdated.language] at hsettled
      exact (settled_restyled hrestyled).2 hsettled
    · obtain ⟨w, -, -, hfail⟩ := applyEdits_eq_of_not hempty a later hacc hraw
      simp [hfail] at hresult

/-! ## Operations -/

/-- What a caller can do to a sheet. -/
inductive Operation where
  | setCell (e : Edit)
  | setCells (edits : List Edit)
  | setStyle (target : Target) (style : Style)
  | recalculate
  /-- Goes on with a sheet made from a snapshot, of the sheet itself or of any other. -/
  | load (d : Snapshot)

/-- The sheet that an operation leaves, and the fault that it ended with. -/
def Update.ended (u : Update) : Sheet × Option Fault :=
  match u.result with
  | .ok _ => (u.sheet, none)
  | .error f => (u.sheet, some f)

/-- The sheet that an operation leaves, and the fault that it ended with. A sheet whose style could
not be set and one that could not be replaced are still there. -/
def perform (s : Sheet) : Operation → Sheet × Option Fault
  | .setCell e => (s.setCell e).ended
  | .setCells edits => (s.setCells edits).ended
  | .setStyle target style =>
    match s.setStyle target style with
    | .ok t => (t, none)
    | .error f => (s, some f)
  | .recalculate => s.recalculate.ended
  | .load d =>
    match ofSnapshot s.language d with
    | .ok t => (t, none)
    | .error f => (s, some f)

/-- The sheets that lead from an empty one by operations that all succeeded. -/
inductive Reached (lang : Language) : Sheet → Prop where
  | empty (rows columns : Int) : Reached lang (empty lang rows columns)
  | step {s : Sheet} (op : Operation) :
    Reached lang s → (s.perform op).2 = none → Reached lang (s.perform op).1

/-- The sheets that lead from an empty one by operations, some of which may have failed midway. -/
inductive Reachable (lang : Language) : Sheet → Prop where
  | empty (rows columns : Int) : Reachable lang (empty lang rows columns)
  | step {s : Sheet} (op : Operation) : Reachable lang s → Reachable lang (s.perform op).1

theorem Update.ended_fst (u : Update) : u.ended.1 = u.sheet := by
  unfold ended
  split <;> rfl

theorem Update.ended_snd {u : Update} : u.ended.2 = none ↔ ∃ changed, u.result = .ok changed := by
  unfold ended
  split <;> simp_all

theorem Reached.of_perform (op : Operation) (h : Reached lang s) (hop : s.perform op = (u, none)) :
    Reached lang u := by
  have hstep := h.step op (congrArg Prod.snd hop)
  rwa [hop] at hstep

theorem Reached.setCells (h : Reached lang s) (hok : (s.setCells edits).result = .ok changed) :
    Reached lang (s.setCells edits).sheet := by
  have hstep := h.step (.setCells edits) (Update.ended_snd.2 ⟨changed, hok⟩)
  rwa [perform, Update.ended_fst] at hstep

theorem Reached.setStyle {target : Target} {style : Style} (h : Reached lang s)
    (hok : s.setStyle target style = .ok u) : Reached lang u :=
  h.of_perform (.setStyle target style) (by rw [perform, hok])

theorem reached_of_ofSnapshot {d : Snapshot} (hok : ofSnapshot lang d = .ok u) : Reached lang u :=
  .of_perform (.load d) (.empty d.rows d.columns) (by rw [perform, empty, hok])

theorem setStyle_eq_ok {t : Target} {style : Style} (h : s.setStyle t style = .ok u) :
    ∃ g, s.grid.Restyled g ∧ u = { s with grid := g } := by
  obtain ⟨a, -, h⟩ := bind_eq_ok.1 h
  split at h
  · rw [Except.ok.injEq] at h
    exact ⟨_, s.grid.restyled_change a style, h.symm⟩
  · simp at h

theorem inSync_perform (h : s.InSync) (op : Operation) :
    (s.perform op).1.InSync ∧ (s.perform op).1.language = s.language := by
  cases op with
  | setCell e =>
    rw [perform, Update.ended_fst]
    exact inSync_setCells h [e]
  | setCells edits =>
    rw [perform, Update.ended_fst]
    exact inSync_setCells h edits
  | setStyle target style =>
    rw [perform]
    split
    · next t ht =>
      obtain ⟨g, hg, rfl⟩ := setStyle_eq_ok ht
      exact ⟨h.restyled hg, rfl⟩
    · exact ⟨h, rfl⟩
  | recalculate =>
    obtain ⟨u, changed, hu, hupdated, -⟩ := recalculate_eq h
    rw [perform, Update.ended_fst, hu]
    exact ⟨hupdated.inSync, hupdated.language⟩
  | load d =>
    rw [perform]
    split
    · next t ht =>
      obtain ⟨hsync, hlang, -⟩ := ofSnapshot_eq_ok ht
      exact ⟨hsync, hlang⟩
    · exact ⟨h, rfl⟩

theorem settled_perform (h : s.InSync) (hs : ∀ a, s.grid.Settled s.language a) {op : Operation}
    (hok : (s.perform op).2 = none) (a : Address) :
    (s.perform op).1.grid.Settled (s.perform op).1.language a := by
  have hbatch {edits : List Edit} (hok : (s.setCells edits).ended.2 = none) :
      (s.setCells edits).ended.1.grid.Settled (s.setCells edits).ended.1.language a := by
    obtain ⟨changed, hchanged⟩ := Update.ended_snd.1 hok
    obtain ⟨checked, -, -, hupdated, -⟩ := setCells_eq_ok h hchanged
    rw [Update.ended_fst]
    exact hupdated.settled_all hs a
  cases op with
  | setCell e => exact hbatch hok
  | setCells edits => exact hbatch hok
  | setStyle target style =>
    rw [perform] at hok ⊢
    cases ht : s.setStyle target style with
    | error f => simp [ht] at hok
    | ok t =>
      obtain ⟨g, hg, rfl⟩ := setStyle_eq_ok ht
      exact (settled_restyled hg).2 (hs a)
  | recalculate =>
    obtain ⟨u, changed, hu, hupdated, -⟩ := recalculate_eq h
    rw [perform, Update.ended_fst, hu]
    exact hupdated.settled_all hs a
  | load d =>
    rw [perform] at hok ⊢
    cases ht : ofSnapshot s.language d with
    | error f => simp [ht] at hok
    | ok t =>
      obtain ⟨-, hlang, hsettled⟩ := ofSnapshot_eq_ok ht
      exact hlang.symm ▸ hsettled a

theorem Reachable.inSync (h : Reachable lang s) : s.InSync ∧ s.language = lang := by
  induction h with
  | empty rows columns => exact ⟨inSync_empty lang rows columns, rfl⟩
  | step op _ ih =>
    obtain ⟨hsync, hlang⟩ := inSync_perform ih.1 op
    exact ⟨hsync, hlang.trans ih.2⟩

theorem Reached.reachable (h : Reached lang s) : Reachable lang s := by
  induction h with
  | empty rows columns => exact .empty rows columns
  | step op _ _ ih => exact ih.step op

theorem Reached.settled (h : Reached lang s) (a : Address) : s.grid.Settled lang a := by
  induction h generalizing a with
  | empty rows columns => exact settled_empty lang rows columns a
  | step op hs hok ih =>
    obtain ⟨hsync, hlang⟩ := hs.reachable.inSync
    have hsettled := settled_perform hsync (hlang ▸ ih) hok a
    rwa [(inSync_perform hsync op).2, hlang] at hsettled

/-- The text of a cell determines what the cell holds. -/
theorem Reached.content?_eq (h : Reached lang s) {a : Address} {raw : Text} {content : Content}
    (hraw : s.grid.raw? a = some raw) (hread : Content.read lang raw = .ok content) :
    s.grid.content? a = some content := by
  obtain ⟨hsync, rfl⟩ := h.reachable.inSync
  exact hsync.grid.content?_eq hraw hread

/-- A cell that reads nothing holds the value that its content calls for. -/
theorem Reached.value_eq_of_not_reads (h : Reached lang s) {a : Address}
    (hreads : ∀ b, ¬ s.grid.Reads a b) (hkeeps : s.grid.KeepsToArguments lang a) :
    s.grid.value a = s.grid.computed lang a := by
  refine (h.settled a).computed (fun hcycle => ?_) hkeeps
  obtain ⟨b, hread, -⟩ := Relation.TransGen.head'_iff.1 hcycle
  exact hreads b hread

theorem Reached.value_eq_of_literal (h : Reached lang s) {a : Address} {v : CellValue}
    (hcontent : s.grid.content? a = some (.literal v)) : s.grid.value a = v := by
  have hreads (b : Address) : ¬ s.grid.Reads a b := fun hread => by
    rw [Grid.Reads, Grid.reads, hcontent] at hread
    exact References.not_cover_empty b hread
  have hcomputed := h.value_eq_of_not_reads hreads fun f hf => by simp [hcontent] at hf
  rwa [Grid.computed, hcontent] at hcomputed

theorem Reached.value_eq_of_leaves (h : Reached lang s) {a : Address} {f : Formula}
    (hcontent : s.grid.content? a = some (.formula f)) (hleaves : f.leaves = [])
    (hkeeps : f.KeepsToArguments lang.toLibrary) : s.grid.value a = s.grid.outcome lang f := by
  have hreads (b : Address) : ¬ s.grid.Reads a b := fun hread => by
    rw [Grid.Reads, Grid.reads_eq_of_formula hcontent, Formula.cover_reads_iff] at hread
    simp [hleaves] at hread
  have hcomputed := h.value_eq_of_not_reads hreads fun g hg => by
    rw [hcontent, Option.some.injEq, Content.formula.injEq] at hg
    exact hg ▸ hkeeps
  rwa [Grid.computed, hcontent] at hcomputed

/-- A batch whose texts can all be read leads on. -/
theorem Reached.setCells_eq_of_accepts (h : Reached lang s)
    (hresolve : resolveAll edits = .ok checked) (hall : ∀ edit ∈ checked, lang.Accepts edit.2) :
    ∃ u changed, s.setCells edits = ⟨u, .ok changed⟩ ∧ Reached lang u ∧
      s.Updated (checked.map Prod.fst) u changed ∧
        u.grid.raw? = overwrite s.grid.raw? checked := by
  obtain ⟨hsync, hlang⟩ := h.reachable.inSync
  obtain ⟨u, changed, hu, hupdated, hraw⟩ :=
    Sheet.setCells_eq_of_accepts hsync hresolve (hlang ▸ hall)
  exact ⟨u, changed, hu, h.of_perform (.setCells edits) (by rw [perform, hu, Update.ended]),
    hupdated, hraw⟩

theorem accepts_of_read {raw : Text} {content : Content}
    (hread : Content.read lang raw = .ok content) : lang.Accepts (some raw) := by
  intro t ht
  cases (Option.filter_eq_some_iff.1 ht).1
  exact ⟨content, hread⟩

/-- A text that can be read can be written into a cell of any sheet. -/
theorem Reached.exists_setCells_of_read (h : Reached lang s) {a : Address} (ha : a.InBounds)
    {raw : Text} {content : Content} (hblank : ¬ raw.IsBlank)
    (hread : Content.read lang raw = .ok content) :
    ∃ u changed, s.setCells [⟨.placed a, some raw⟩] = ⟨u, .ok changed⟩ ∧ Reached lang u ∧
      u.grid.raw? = Function.update s.grid.raw? a (some raw) ∧
        u.grid.content? a = some content := by
  have hresolve : resolveAll [⟨.placed a, some raw⟩] = .ok [(a, some raw)] := by
    rw [resolveAll_cons, Target.resolve, checkAddress, if_pos ha]
    rfl
  have haccepts : ∀ edit ∈ [(a, some raw)], lang.Accepts edit.2 := by
    simpa using accepts_of_read hread
  obtain ⟨u, changed, hu, hreached, -, hraw⟩ := h.setCells_eq_of_accepts hresolve haccepts
  simp only [overwrite, List.foldl_cons, List.foldl_nil, heldText_of_not_isBlank hblank] at hraw
  exact ⟨u, changed, hu, hreached, hraw,
    hreached.content?_eq (by rw [hraw, Function.update_self]) hread⟩

/-- There is a sheet whose cell has a given content, if there is a text for it. -/
theorem exists_reached_of_read {a : Address} (ha : a.InBounds) {raw : Text} {content : Content}
    (hblank : ¬ raw.IsBlank) (hread : Content.read lang raw = .ok content) :
    ∃ s, Reached lang s ∧ s.grid.content? a = some content := by
  obtain ⟨u, changed, -, hreached, -, hcontent⟩ :=
    (Reached.empty 1 1).exists_setCells_of_read ha hblank hread
  exact ⟨u, hreached, hcontent⟩

/-! ## A cell that follows another one -/

/-- A sheet of three cells: the first one holds a literal, the second one refers to the first, and
the third one refers to itself. -/
structure Follows (s : Sheet) (v : CellValue) : Prop where
  reached : Reached (.standard .usual) s
  first : s.grid.content? ⟨0, 0⟩ = some (.literal v)
  second : s.grid.content? ⟨0, 1⟩ = some (.formula (.ref ⟨0, 0⟩))
  third : s.grid.content? ⟨0, 2⟩ = some (.formula (.ref ⟨0, 2⟩))
  other : ∀ a, a ≠ ⟨0, 0⟩ → a ≠ ⟨0, 1⟩ → a ≠ ⟨0, 2⟩ → s.grid.content? a = none

namespace Follows

variable {v : CellValue} {a b : Address}

theorem reads_iff (h : s.Follows v) :
    s.grid.Reads a b ↔ a = ⟨0, 1⟩ ∧ b = ⟨0, 0⟩ ∨ a = ⟨0, 2⟩ ∧ b = ⟨0, 2⟩ := by
  have href {a c : Address} (hcontent : s.grid.content? a = some (.formula (.ref c))) :
      s.grid.Reads a b ↔ b = c := by
    rw [Grid.Reads, Grid.reads_eq_of_formula hcontent, Formula.cover_reads_iff]
    simp [Formula.leaves]
  by_cases hsecond : a = ⟨0, 1⟩
  · subst hsecond
    simp [href h.second]
  by_cases hthird : a = ⟨0, 2⟩
  · subst hthird
    simp [href h.third]
  have hreads : s.grid.reads a = .empty := by
    by_cases hfirst : a = ⟨0, 0⟩
    · rw [Grid.reads, hfirst, h.first]
      rfl
    · rw [Grid.reads, h.other a hfirst hsecond hthird]
  simp [Grid.Reads, hreads, References.not_cover_empty, hsecond, hthird]

theorem onCycle_iff (h : s.Follows v) : s.grid.OnCycle a ↔ a = ⟨0, 2⟩ := by
  constructor
  · intro hcycle
    obtain ⟨b, hread, hback⟩ := Relation.TransGen.head'_iff.1 hcycle
    rcases h.reads_iff.1 hread with ⟨rfl, rfl⟩ | ⟨rfl, -⟩
    · -- the first cell reads nothing, so nothing leads back from it
      rcases Relation.ReflTransGen.cases_head hback with heq | ⟨c, hfirst, -⟩
      · cases heq
      · simp [h.reads_iff] at hfirst
    · rfl
  · rintro rfl
    exact Grid.onCycle_of_ref h.third

theorem value_first (h : s.Follows v) : s.grid.value ⟨0, 0⟩ = v :=
  h.reached.value_eq_of_literal h.first

theorem outcome_second {x : Float} (h : s.Follows (.number x)) (hx : x.isFinite = true) :
    s.grid.outcome (.standard .usual) (.ref ⟨0, 0⟩) = .number x := by
  have heval : evaluate (.standard .usual) s.grid.reader (.ref ⟨0, 0⟩) = .ok (.number x) := by
    have hread : s.grid.reader.value ⟨0, 0⟩ = .number x := h.value_first
    show (s.grid.reader.read ⟨0, 0⟩ >>= fun v => Except.ok (Value.scalar v)) >>= cellValue = _
    rw [CellReader.read, hread]
    show (finite x >>= fun x => Except.ok (CellValue.number x)) = _
    rw [finite, if_pos hx]
    rfl
  rw [Grid.outcome, heval]

theorem not_onCycle_second (h : s.Follows v) : ¬ s.grid.OnCycle ⟨0, 1⟩ := by
  rw [h.onCycle_iff]
  decide

/-- The second cell holds what the first one does, if that is a number that formulas can have. -/
theorem value_second {x : Float} (h : s.Follows (.number x)) (hx : x.isFinite = true) :
    s.grid.value ⟨0, 1⟩ = .number x := by
  have hkeeps : s.grid.KeepsToArguments (.standard .usual) ⟨0, 1⟩ := fun f hf => by
    rw [h.second, Option.some.injEq, Content.formula.injEq] at hf
    exact hf ▸ Formula.keepsToArguments_ref _
  rw [(h.reached.settled _).computed h.not_onCycle_second hkeeps, Grid.computed, h.second]
  exact h.outcome_second hx

theorem value_third (h : s.Follows v) : s.grid.value ⟨0, 2⟩ = .error .cycle :=
  (h.reached.settled _).cycle (h.onCycle_iff.2 rfl)

end Follows

theorem read_refFirst :
    Content.read (.standard .usual) "=A1" = .ok (.formula (.ref ⟨0, 0⟩)) := by
  have hname : ("=A1" : Text) = .char '=' :: .char 'A' :: [.char '1'] := by decide
  rw [hname]
  exact Content.read_name (by decide) (by decide) fun _ => rfl

theorem read_refThird :
    Content.read (.standard .usual) "=C1" = .ok (.formula (.ref ⟨0, 2⟩)) := by
  have hname : ("=C1" : Text) = .char '=' :: .char 'C' :: [.char '1'] := by decide
  rw [hname]
  exact Content.read_name (by decide) (by decide) fun _ => rfl

theorem follows_of_raw? {t : Text} {v : CellValue} (h : Reached (.standard .usual) s)
    (hraw : s.grid.raw? = overwrite (fun _ => none)
      [(⟨0, 0⟩, some t), (⟨0, 1⟩, some "=A1"), (⟨0, 2⟩, some "=C1")])
    (hblank : ¬ t.IsBlank) (hread : Content.read (.standard .usual) t = .ok (.literal v)) :
    s.Follows v where
  reached := h
  first := by
    refine h.content?_eq ?_ hread
    rw [hraw]
    exact heldText_of_not_isBlank hblank
  second := h.content?_eq (by rw [hraw]; rfl) read_refFirst
  third := h.content?_eq (by rw [hraw]; rfl) read_refThird
  other a hfirst hsecond hthird := by
    obtain ⟨hsync, hlang⟩ := h.reachable.inSync
    refine hsync.grid.paired.content?_eq_none fun hmem => ?_
    rw [← Grid.isSome_raw?_iff, hraw] at hmem
    simp [overwrite, hfirst, hsecond, hthird] at hmem

/-- There is such a sheet, and a later edit of the first cell leads to another one. -/
theorem exists_follows : ∃ (s u : Sheet) (changed : List Address), s.Follows (.number 2) ∧
    s.setCells [⟨.placed ⟨0, 0⟩, some "3"⟩] = ⟨u, .ok changed⟩ ∧ u.Follows (.number 3) := by
  have hnumber (t : Text) (x : Float) (hx : readNumber t = some x)
      (hmark : t.trim.head? ≠ some (.char '=')) :
      Content.read (.standard .usual) t = .ok (.literal (.number x)) := by
    rw [Content.read, if_neg hmark, hx]
  have htwo := hnumber "2" 2 (by decide +kernel) (by decide)
  have hthree := hnumber "3" 3 (by decide +kernel) (by decide)
  have hresolve : resolveAll [⟨.placed ⟨0, 0⟩, some "2"⟩, ⟨.placed ⟨0, 1⟩, some "=A1"⟩,
      ⟨.placed ⟨0, 2⟩, some "=C1"⟩] =
        .ok [(⟨0, 0⟩, some "2"), (⟨0, 1⟩, some "=A1"), (⟨0, 2⟩, some "=C1")] := rfl
  have haccepts : ∀ edit ∈ [((⟨0, 0⟩ : Address), some ("2" : Text)), (⟨0, 1⟩, some "=A1"),
      (⟨0, 2⟩, some "=C1")], (Language.standard .usual).Accepts edit.2 := by
    refine List.forall_mem_cons.2 ⟨accepts_of_read htwo, List.forall_mem_cons.2
      ⟨accepts_of_read read_refFirst, List.forall_mem_singleton.2 (accepts_of_read read_refThird)⟩⟩
  obtain ⟨s, -, -, hs, -, hraw⟩ := (Reached.empty 1 3).setCells_eq_of_accepts hresolve haccepts
  rw [raw?_empty] at hraw
  obtain ⟨u, changed, hu, hreached, huraw, -⟩ :=
    hs.exists_setCells_of_read (a := ⟨0, 0⟩) (by decide) (by decide) hthree
  refine ⟨s, u, changed, follows_of_raw? hs hraw (by decide) htwo, hu,
    follows_of_raw? hreached ?_ (by decide) hthree⟩
  rw [huraw, hraw]
  funext a
  by_cases ha : a = ⟨0, 0⟩
  · rw [ha, Function.update_self]
    rfl
  · simp [overwrite, Function.update_apply, ha]

end Sheet

end Spreadsheet
