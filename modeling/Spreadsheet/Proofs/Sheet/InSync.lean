import Spreadsheet.Proofs.Dependency.Graph
import Spreadsheet.Proofs.Formula.Faults
import Spreadsheet.Proofs.Grid
import Spreadsheet.Sheet

/-!
# Sheets in sync

A sheet is in sync if its graph records exactly what its cells read, the same addresses have a cell
and a content, every content is what the text of the cell stands for, and every value can be shown.
Writing keeps a sheet in sync (`write_eq`). It fails only for a text that cannot be read, and then
it changes nothing (`write_eq_of_not`).
-/

namespace Spreadsheet

open Std (ExtTreeMap)

/-- The text that a cell holds once a text has been written into it. -/
def heldText (raw : Option Text) : Option Text :=
  raw.filter fun t => !decide t.IsBlank

theorem heldText_of_isBlank {t : Text} (h : t.IsBlank) : heldText (some t) = none := by
  simp [heldText, h]

theorem heldText_of_not_isBlank {t : Text} (h : ¬ t.IsBlank) : heldText (some t) = some t := by
  simp [heldText, h]

/-- A text can be written into a cell: it is blank, or what it stands for can be read. -/
def Language.Accepts (lang : Language) (raw : Option Text) : Prop :=
  ∀ t ∈ heldText raw, ∃ content, Content.read lang t = .ok content

instance (lang : Language) (raw : Option Text) : Decidable (lang.Accepts raw) :=
  match h : heldText raw with
  | none => .isTrue (by simp [Language.Accepts, h])
  | some t =>
    match hread : Content.read lang t with
    | .ok content => .isTrue (by simp [Language.Accepts, h, hread])
    | .error f => .isFalse (by simp [Language.Accepts, h, hread])

namespace Grid

variable {g g' : Grid} {lang : Language} {a : Address} {raw : Text} {content : Content}

/-- The text of a cell. -/
def raw? (g : Grid) (a : Address) : Option Text :=
  g.cells[a]?.map Cell.raw

theorem raw?_congr (h : g.pair? a = g'.pair? a) : g.raw? a = g'.raw? a :=
  congrArg (fun entry => entry.1.map Cell.raw) h

theorem isSome_raw?_iff : (g.raw? a).isSome ↔ a ∈ g.cells := by
  rw [raw?, Option.isSome_map, ExtTreeMap.mem_iff_isSome_getElem?]

/-- Every cell holds a text that is not blank, has the content that the text stands for, and can be
shown. Nothing else has a content. -/
structure WellFormed (g : Grid) (lang : Language) : Prop where
  paired : g.Paired
  not_isBlank : ∀ {a : Address} {raw : Text}, g.raw? a = some raw → ¬ raw.IsBlank
  read_eq : ∀ {a : Address} {raw : Text} {content : Content}, g.raw? a = some raw →
    g.content? a = some content → Content.read lang raw = .ok content
  displayable : ∀ a, (g.value a).Displayable

namespace WellFormed

theorem exists_raw? (h : g.WellFormed lang) (hcontent : g.content? a = some content) :
    ∃ raw, g.raw? a = some raw ∧ Content.read lang raw = .ok content := by
  have hmem : a ∈ g.cells := h.paired.mem_iff.2 (by rw [hcontent]; rfl)
  obtain ⟨raw, hraw⟩ := Option.isSome_iff_exists.1 (isSome_raw?_iff.2 hmem)
  exact ⟨raw, hraw, h.read_eq hraw hcontent⟩

theorem exists_content? (h : g.WellFormed lang) (hraw : g.raw? a = some raw) :
    ∃ content, g.content? a = some content ∧ Content.read lang raw = .ok content := by
  have hmem : a ∈ g.cells := isSome_raw?_iff.1 (by rw [hraw]; rfl)
  obtain ⟨content, hcontent⟩ := Option.isSome_iff_exists.1 (h.paired.mem_iff.1 hmem)
  exact ⟨content, hcontent, h.read_eq hraw hcontent⟩

/-- The text of a cell determines its content. -/
theorem content?_eq (h : g.WellFormed lang) (hraw : g.raw? a = some raw)
    (hread : Content.read lang raw = .ok content) : g.content? a = some content := by
  obtain ⟨content', hcontent, hread'⟩ := h.exists_content? hraw
  rw [hread, Except.ok.injEq] at hread'
  rw [hcontent, hread']

/-- Cells with the same text have the same content. -/
theorem content?_congr (h : g.WellFormed lang) (h' : g'.WellFormed lang)
    (hraw : g.raw? a = g'.raw? a) : g.content? a = g'.content? a := by
  rcases ht : g.raw? a with _ | raw
  · have hnot {k : Grid} (hk : k.raw? a = none) : a ∉ k.cells := fun hmem => by
      simpa [hk] using isSome_raw?_iff.2 hmem
    rw [h.paired.content?_eq_none (hnot ht), h'.paired.content?_eq_none (hnot (hraw ▸ ht))]
  · obtain ⟨content, hcontent, hread⟩ := h.exists_content? ht
    rw [hcontent, h'.content?_eq (hraw ▸ ht) hread]

theorem heldText_raw? (h : g.WellFormed lang) (a : Address) : heldText (g.raw? a) = g.raw? a := by
  rcases hraw : g.raw? a with _ | raw
  · rfl
  · exact heldText_of_not_isBlank (h.not_isBlank hraw)

/-- A text that stands in a cell can be written again. -/
theorem accepts_raw? (h : g.WellFormed lang) (a : Address) : lang.Accepts (g.raw? a) := by
  intro t ht
  rw [h.heldText_raw?] at ht
  obtain ⟨content, -, hread⟩ := h.exists_content? ht
  exact ⟨content, hread⟩

/-- A grid that has changed at one address is well-formed if it is so there. -/
theorem of_pair? (h : g.WellFormed lang) (hpaired : g'.Paired)
    (hother : ∀ b, b ≠ a → g'.pair? b = g.pair? b)
    (hblank : ∀ raw, g'.raw? a = some raw → ¬ raw.IsBlank)
    (hread : ∀ raw content, g'.raw? a = some raw → g'.content? a = some content →
      Content.read lang raw = .ok content)
    (hvalue : (g'.value a).Displayable) : g'.WellFormed lang := by
  refine ⟨hpaired, fun {b raw} hraw => ?_, fun {b raw content} hraw hcontent => ?_, fun b => ?_⟩
  all_goals by_cases hb : b = a
  · exact hblank raw (hb ▸ hraw)
  · exact h.not_isBlank (Grid.raw?_congr (hother b hb) ▸ hraw)
  · exact hread raw content (hb ▸ hraw) (hb ▸ hcontent)
  · exact h.read_eq (Grid.raw?_congr (hother b hb) ▸ hraw)
      (Grid.content?_congr (hother b hb) ▸ hcontent)
  · exact hb ▸ hvalue
  · exact Grid.value_congr (hother b hb) ▸ h.displayable b

theorem displayable_computed (h : g.WellFormed lang) (a : Address) :
    (g.computed lang a).Displayable := by
  unfold computed
  split
  · exact ⟨_, rfl⟩
  · next v hv =>
    obtain ⟨raw, -, hread⟩ := h.exists_raw? hv
    exact Content.displayable_of_read hread
  · exact displayable_outcome _

end WellFormed

end Grid

namespace Sheet

variable {s t : Sheet} {a b : Address}

/-- The graph records what the cells read, and the cells hold what their texts stand for. -/
structure InSync (s : Sheet) : Prop where
  grid : s.grid.WellFormed s.language
  valid : s.graph.Valid
  readBy_eq : ∀ a, s.graph.readBy a = s.grid.reads a

theorem inSync_empty (lang : Language) (rows columns : Int) : (empty lang rows columns).InSync where
  grid :=
    ⟨Grid.paired_empty, fun h => by simp [empty, Grid.empty, Grid.raw?] at h,
      fun h => by simp [empty, Grid.empty, Grid.raw?] at h, fun a => ⟨_, by
        rw [Grid.value_eq_empty Std.ExtTreeMap.not_mem_empty]
        rfl⟩⟩
  valid := DependencyGraph.valid_empty
  readBy_eq a := by
    simp [empty, Grid.empty, DependencyGraph.readBy_empty, Grid.reads, Grid.content?]

theorem raw?_empty (lang : Language) (rows columns : Int) :
    (empty lang rows columns).grid.raw? = fun _ => none := by
  funext a
  simp [empty, Grid.empty, Grid.raw?]

namespace InSync

theorem reads_eq (h : s.InSync) : s.graph.Reads = s.grid.Reads := by
  funext a b
  rw [DependencyGraph.Reads, h.readBy_eq, Grid.Reads]

theorem onCycle_iff (h : s.InSync) : s.graph.OnCycle a ↔ s.grid.OnCycle a := by
  rw [DependencyGraph.OnCycle, h.reads_eq, Grid.OnCycle]

theorem content?_congr (hs : s.InSync) (ht : t.InSync) (hlang : s.language = t.language)
    (hraw : s.grid.raw? a = t.grid.raw? a) : s.grid.content? a = t.grid.content? a :=
  hs.grid.content?_congr (hlang ▸ ht.grid) hraw

/-- The texts of a sheet determine its graph. -/
theorem graph_eq (hs : s.InSync) (ht : t.InSync) (hlang : s.language = t.language)
    (hraw : ∀ a, s.grid.raw? a = t.grid.raw? a) : s.graph = t.graph := by
  refine hs.valid.ext ht.valid fun a => ?_
  rw [hs.readBy_eq, ht.readBy_eq, Grid.reads_congr (hs.content?_congr ht hlang (hraw a))]

end InSync

/-! ## Writing -/

theorem setReferences_eq {refs : References} (hgrid : s.grid.WellFormed s.language)
    (hvalid : s.graph.Valid) (ha : s.grid.reads a = refs)
    (hother : ∀ b, b ≠ a → s.graph.readBy b = s.grid.reads b) :
    ∃ graph, s.setReferences a refs = ({ s with graph := graph }, none) ∧
      InSync { s with graph := graph } := by
  obtain ⟨graph, hset, hvalid', hreadBy⟩ := DependencyGraph.setReferences_eq hvalid a refs
  refine ⟨graph, by simp only [setReferences, hset], hgrid, hvalid', fun b => ?_⟩
  rw [hreadBy]
  by_cases hb : b = a
  · rw [if_pos hb, hb, ha]
  · rw [if_neg hb, hother b hb]

/-- What writing a text into a cell has done to a sheet. -/
structure Wrote (s : Sheet) (a : Address) (raw : Option Text) (s' : Sheet) : Prop where
  inSync : s'.InSync
  language : s'.language = s.language
  rows : s'.rows = s.rows
  columns : s'.columns = s.columns
  raw?_self : s'.grid.raw? a = heldText raw
  pair?_of_ne : ∀ b, b ≠ a → s'.grid.pair? b = s.grid.pair? b

theorem clear_eq (h : s.InSync) (a : Address) {raw : Option Text} (hraw : heldText raw = none) :
    ∃ s', s.clear a = (s', none) ∧ s.Wrote a raw s' := by
  have hself : (s.grid.erase a).pair? a = (none, none) := by rw [Grid.pair?_erase, if_pos rfl]
  have hother (b : Address) (hb : b ≠ a) : (s.grid.erase a).pair? b = s.grid.pair? b := by
    rw [Grid.pair?_erase, if_neg hb]
  have hnoText : (s.grid.erase a).raw? a = none :=
    congrArg (fun entry => entry.1.map Cell.raw) hself
  have hnoContent : (s.grid.erase a).content? a = none := congrArg Prod.snd hself
  have hgrid : Grid.WellFormed (s.grid.erase a) s.language := by
    refine h.grid.of_pair? (h.grid.paired.erase a) hother
      (fun raw hc => by simp [hnoText] at hc) (fun raw _ hc => by simp [hnoText] at hc) ⟨"", ?_⟩
    rw [Grid.value_eq_empty (by simp [Grid.erase])]
    rfl
  have hreads : Grid.reads (s.grid.erase a) a = .empty := by
    rw [Grid.reads, hnoContent]
  obtain ⟨graph, hset, hsync⟩ := setReferences_eq (s := { s with grid := s.grid.erase a })
    hgrid h.valid hreads fun b hb => by
      rw [h.readBy_eq, Grid.reads_congr (Grid.content?_congr (hother b hb))]
  exact ⟨_, hset, hsync, rfl, rfl, rfl, hnoText.trans hraw.symm, hother⟩

theorem fill_eq (h : s.InSync) (a : Address) {raw : Text} {content : Content}
    (hblank : ¬ raw.IsBlank) (hread : Content.read s.language raw = .ok content) :
    ∃ s', s.fill a raw = (s', none) ∧ s.Wrote a (some raw) s' := by
  have hself := Grid.pair?_put (g := s.grid) (a := a) (b := a) raw content
  rw [if_pos rfl] at hself
  have hother (b : Address) (hb : b ≠ a) :
      (s.grid.put a raw content).pair? b = s.grid.pair? b := by
    rw [Grid.pair?_put, if_neg hb]
  have hcell : (s.grid.put a raw content).cells[a]? =
      some ⟨raw, s.grid.value a, (s.grid.cells[a]?.map Cell.style).getD .plain⟩ :=
    congrArg Prod.fst hself
  have htext : (s.grid.put a raw content).raw? a = some raw := by rw [Grid.raw?, hcell]; rfl
  have hcontent : (s.grid.put a raw content).content? a = some content := congrArg Prod.snd hself
  have hgrid : Grid.WellFormed (s.grid.put a raw content) s.language := by
    refine h.grid.of_pair? (h.grid.paired.put a raw content) hother
      (fun t ht => ?_) (fun t c ht hc => ?_) ?_
    · rw [htext, Option.some.injEq] at ht
      exact ht ▸ hblank
    · rw [htext, Option.some.injEq] at ht
      rw [hcontent, Option.some.injEq] at hc
      exact ht ▸ hc ▸ hread
    · rw [Grid.value, hcell]
      exact h.grid.displayable a
  have hreads : (s.grid.put a raw content).reads a = content.reads := by
    rw [Grid.reads, hcontent]
  obtain ⟨graph, hset, hsync⟩ := setReferences_eq (s := { s with grid := s.grid.put a raw content })
    hgrid h.valid hreads fun b hb => by
      rw [h.readBy_eq, Grid.reads_congr (Grid.content?_congr (hother b hb))]
  refine ⟨_, by rw [fill, hread]; exact hset, hsync, rfl, rfl, rfl, ?_, hother⟩
  rw [heldText_of_not_isBlank hblank]
  exact htext

/-- A text that is accepted is written. -/
theorem write_eq (h : s.InSync) (a : Address) {raw : Option Text} (hraw : s.language.Accepts raw) :
    ∃ s', s.write a raw = (s', none) ∧ s.Wrote a raw s' := by
  cases raw with
  | none => exact clear_eq h a rfl
  | some raw =>
    rw [write]
    by_cases hblank : raw.IsBlank
    · rw [if_pos hblank]
      exact clear_eq h a (heldText_of_isBlank hblank)
    · rw [if_neg hblank]
      obtain ⟨content, hread⟩ := hraw raw (heldText_of_not_isBlank hblank)
      exact fill_eq h a hblank hread

/-- A text that is not accepted changes nothing. -/
theorem write_eq_of_not (a : Address) {raw : Option Text} (hraw : ¬ s.language.Accepts raw) :
    s.write a raw = (s, some .numeralTooLong) := by
  unfold Language.Accepts at hraw
  push Not at hraw
  obtain ⟨t, ht, hread⟩ := hraw
  obtain ⟨rfl, hblank⟩ := Option.filter_eq_some_iff.1 ht
  rw [write, if_neg (by simpa using hblank), fill]
  cases hcontent : Content.read s.language t with
  | ok content => exact (hread content hcontent).elim
  | error f => rw [Content.eq_of_read_eq_error hcontent]

end Sheet

end Spreadsheet
