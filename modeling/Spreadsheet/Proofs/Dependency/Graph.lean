import Spreadsheet.Dependency
import Spreadsheet.Proofs.Dependency.Components
import Spreadsheet.Proofs.Dependency.Edges
import Spreadsheet.Proofs.Formula.Reads

/-!
# What a dependency graph says

`DependencyGraph.readBy` is what a cell reads according to the graph, and `DependencyGraph.Reads`
relates a cell to every cell that it reads, by itself or in a range. On a valid graph
`setReferences` never fails and replaces what one cell reads, `readers` is the converse of `Reads`,
and `affected` closes a set under it. `schedule` arranges the cells of a set in groups; in a closed
set, a cell lies on a cycle exactly if it reads itself or shares its group with another cell.
-/

namespace Spreadsheet

open Relation
open Std (ExtTreeMap ExtTreeSet)

namespace DependencyGraph

variable {g g' : DependencyGraph} {a b : Address}

/-- What a cell reads according to the graph. -/
def readBy (g : DependencyGraph) (a : Address) : References :=
  ⟨g.cells.readBy a, g.ranges.readBy a⟩

/-- A cell reads another one, by itself or in a range. -/
def Reads (g : DependencyGraph) (a b : Address) : Prop :=
  (g.readBy a).Cover b

/-- A cell lies on a cycle: it reads itself, directly or through others. -/
def OnCycle (g : DependencyGraph) (a : Address) : Prop :=
  TransGen g.Reads a a

/-- Both kinds of edges agree in both directions. -/
structure Valid (g : DependencyGraph) : Prop where
  cells : g.cells.Valid
  ranges : g.ranges.Valid

theorem valid_empty : empty.Valid :=
  ⟨Edges.valid_empty, Edges.valid_empty⟩

theorem readBy_empty (a : Address) : empty.readBy a = .empty := by
  simp [empty, readBy, Edges.readBy, Edges.empty, References.empty]

theorem Valid.ext (h : g.Valid) (h' : g'.Valid) (heq : ∀ a, g.readBy a = g'.readBy a) :
    g = g' := by
  have hcells := h.cells.ext h'.cells fun a => congrArg References.cells (heq a)
  have hranges := h.ranges.ext h'.ranges fun a => congrArg References.ranges (heq a)
  cases g
  cases g'
  simp_all

/-- References can always be replaced. -/
theorem setReferences_eq (h : g.Valid) (a : Address) (refs : References) :
    ∃ g', g.setReferences a refs = (g', none) ∧ g'.Valid ∧
      ∀ b, g'.readBy b = if b = a then refs else g.readBy b := by
  obtain ⟨cells, hcells, hvalid, hread⟩ := Edges.set_eq h.cells a refs.cells
  obtain ⟨ranges, hranges, hvalid', hread'⟩ := Edges.set_eq h.ranges a refs.ranges
  refine ⟨⟨cells, ranges⟩, by simp only [setReferences, hcells, hranges], ⟨hvalid, hvalid'⟩,
    fun b => ?_⟩
  rw [readBy, hread, hread']
  by_cases hb : b = a
  · rw [if_pos hb, if_pos hb, if_pos hb]
  · rw [if_neg hb, if_neg hb, if_neg hb]
    rfl

theorem mem_rangeReaders_iff :
    a ∈ g.rangeReaders b ↔ ∃ r, a ∈ g.ranges.readersOf r ∧ r.Covers b := by
  simp only [rangeReaders, List.mem_flatMap, Prod.exists,
    ExtTreeMap.mem_toList_iff_getElem?_eq_some, Edges.readersOf,
    ExtTreeMap.getD_eq_getD_getElem?]
  constructor
  · rintro ⟨r, t, hr, ha⟩
    split at ha
    · exact ⟨r, by simpa [hr] using ha, ‹_›⟩
    · simp at ha
  · rintro ⟨r, ha, hcovers⟩
    rcases hr : g.ranges.backward[r]? with _ | t
    · simp [hr] at ha
    · exact ⟨r, t, hr, by simpa [hr, hcovers] using ha⟩

/-- The readers of a cell are the cells that read it. -/
theorem mem_readers_iff (h : g.Valid) : a ∈ g.readers b ↔ g.Reads a b := by
  simp only [readers, ExtTreeSet.mem_insertMany_list, List.contains_iff_mem, mem_rangeReaders_iff,
    h.cells.mem_readersOf_iff, h.ranges.mem_readersOf_iff]
  rfl

theorem isSelfReferencing_iff : g.isSelfReferencing a = true ↔ g.Reads a a := by
  simp [isSelfReferencing, Reads, readBy, References.Cover, ExtTreeSet.contains_iff_mem]

theorem hasReferences_iff (h : g.Valid) : g.hasReferences a = true ↔ g.readBy a ≠ .empty := by
  rw [hasReferences, Bool.or_eq_true, ExtTreeMap.contains_iff_mem, ExtTreeMap.contains_iff_mem,
    h.cells.forward.mem_iff, h.ranges.forward.mem_iff, ← not_and_or]
  simp [readBy, Edges.readBy, References.empty]

/-! ## The cells that are affected -/

theorem mem_sources_of_mem_readers (h : a ∈ g.readers b) :
    a ∈ g.cells.sources ++ g.ranges.sources := by
  simp only [readers, ExtTreeSet.mem_insertMany_list, List.contains_iff_mem,
    mem_rangeReaders_iff] at h
  rw [List.mem_append, Edges.mem_sources_iff, Edges.mem_sources_iff]
  exact h.imp (fun h => ⟨b, h⟩) fun ⟨r, h, _⟩ => ⟨r, h⟩

theorem reaches_readers_iff (h : g.Valid) :
    Reaches (fun x => (g.readers x).toList) b a ↔ ReflTransGen g.Reads a b := by
  rw [← reflTransGen_swap]
  simp only [Reaches, ExtTreeSet.mem_toList, mem_readers_iff h]

/-- The given cells and the formula cells that read anything are closed under readers, and they are
no more than the bound allows for. -/
theorem exists_scope (g : DependencyGraph) (roots : List Address) : ∃ scope : Finset Address,
    (∀ x ∈ scope, ∀ y ∈ (g.readers x).toList, y ∈ scope) ∧
      (∀ r ∈ ExtTreeSet.ofList roots, r ∈ scope) ∧
        scope.card ≤ (ExtTreeSet.ofList roots).size + g.edgeCount := by
  refine ⟨(ExtTreeSet.ofList roots).toList.toFinset ∪
    (g.cells.sources ++ g.ranges.sources).toFinset, fun x _ y hy => ?_, fun r hr => ?_, ?_⟩
  · exact Finset.mem_union_right _
      (List.mem_toFinset.2 (mem_sources_of_mem_readers (ExtTreeSet.mem_toList.1 hy)))
  · exact Finset.mem_union_left _ (List.mem_toFinset.2 (ExtTreeSet.mem_toList.2 hr))
  · refine (Finset.card_union_le _ _).trans (Nat.add_le_add ?_ ?_)
    · exact (List.toFinset_card_le _).trans_eq ExtTreeSet.length_toList
    · exact (List.toFinset_card_le _).trans_eq List.length_append

theorem mem_affected_iff_reaches {roots : List Address} : a ∈ g.affected roots ↔
    ∃ r ∈ ExtTreeSet.ofList roots, Reaches (fun x => (g.readers x).toList) r a := by
  obtain ⟨scope, hscope, hroots, hbound⟩ := g.exists_scope roots
  exact mem_closure hscope hroots (fun x => nodup_toList _) hbound

/-- A cell is affected exactly if it is one of the given cells or reads one of them, directly or
through others. -/
theorem mem_affected_iff (h : g.Valid) {roots : List Address} :
    a ∈ g.affected roots ↔ ∃ r ∈ roots, ReflTransGen g.Reads a r := by
  simp only [mem_affected_iff_reaches, reaches_readers_iff h, ExtTreeSet.mem_ofList,
    List.contains_iff_mem]

/-- The queue and the set that the closure of some cells under their readers can come to in a number
of turns, whichever cells it visits first. -/
def Turns (g : DependencyGraph) (roots : List Address) : Nat → List Address → ExtTreeSet Address →
    Prop :=
  Spreadsheet.Turns (fun x => (g.readers x).toList) (ExtTreeSet.ofList roots)

theorem turns_affected (g : DependencyGraph) (roots : List Address) :
    ∃ n, g.Turns roots n [] (g.affected roots) := by
  obtain ⟨scope, hscope, hroots, hbound⟩ := g.exists_scope roots
  exact Spreadsheet.Turns.closure hscope hroots (fun x => nodup_toList _) hbound

/-- The closure ends, in whatever order it visits cells: every turn visits another of the affected
cells, and when no cell waits any more it has found all of them. -/
theorem turns_spec {roots queue : List Address} {seen : ExtTreeSet Address} {n : Nat}
    (h : g.Turns roots n queue seen) : n + queue.length = seen.size ∧
      n ≤ (g.affected roots).size ∧ (queue = [] → seen = g.affected roots) := by
  obtain ⟨scope, hscope, hroots, -⟩ := g.exists_scope roots
  have hlength := Spreadsheet.Turns.add_length_eq (fun x => nodup_toList _) h
  have hclosing := Spreadsheet.Turns.closing hscope hroots h
  have hsize : seen.size ≤ (g.affected roots).size := by
    rw [← (g.affected roots).length_toList]
    refine (Closing.size_le_card fun x hx => ?_).trans (List.toFinset_card_le _)
    rw [List.mem_toFinset, ExtTreeSet.mem_toList]
    exact mem_affected_iff_reaches.2 (hclosing.reached hx)
  refine ⟨hlength, by omega, fun hqueue => ExtTreeSet.ext_mem fun x => ?_⟩
  subst hqueue
  rw [mem_affected_iff_reaches]
  exact hclosing.mem_iff

/-! ## The schedule -/

theorem mem_readersAmong {cells : ExtTreeSet Address} :
    a ∈ g.readersAmong cells b ↔ a ∈ g.readers b ∧ a ∈ cells := by
  simp [readersAmong]

theorem mem_readersAmong_iff (h : g.Valid) {cells : ExtTreeSet Address} :
    a ∈ g.readersAmong cells b ↔ g.Reads a b ∧ a ∈ cells := by
  rw [mem_readersAmong, mem_readers_iff h]

theorem arranged_schedule (g : DependencyGraph) (cells : ExtTreeSet Address) :
    Arranged (g.readersAmong cells) cells.toList.toFinset (g.schedule cells) := by
  apply arranged_stronglyConnected
  · intro b _ a ha
    rw [List.mem_toFinset, ExtTreeSet.mem_toList]
    exact (mem_readersAmong.1 ha).2
  · exact fun a ha => List.mem_toFinset.2 ha
  · exact fun a ha => ⟨a, List.mem_toFinset.1 ha, .refl⟩
  · exact (List.toFinset_card_le _).trans_eq ExtTreeSet.length_toList

theorem mem_schedule_iff {cells : ExtTreeSet Address} :
    a ∈ (g.schedule cells).flatten ↔ a ∈ cells := by
  rw [(g.arranged_schedule cells).mem_flatten_iff, List.mem_toFinset, ExtTreeSet.mem_toList]

section Closed

variable {cells : ExtTreeSet Address}

theorem mem_of_reads (hclosed : ∀ {a b}, b ∈ cells → g.Reads a b → a ∈ cells) (hb : b ∈ cells)
    (hread : ReflTransGen g.Reads a b) : a ∈ cells := by
  induction hread using ReflTransGen.head_induction_on with
  | refl => exact hb
  | head hstep _ ih => exact hclosed ih hstep

/-- In a set that is closed under readers, the schedule leads wherever reading leads. -/
theorem reaches_readersAmong_iff (h : g.Valid)
    (hclosed : ∀ {a b}, b ∈ cells → g.Reads a b → a ∈ cells) (hb : b ∈ cells) :
    Reaches (g.readersAmong cells) b a ↔ ReflTransGen g.Reads a b := by
  constructor
  · intro hreach
    rw [← reflTransGen_swap]
    exact ReflTransGen.mono (fun _ _ hstep => ((mem_readersAmong_iff h).1 hstep).1) _ _ hreach
  · intro hread
    induction hread using ReflTransGen.head_induction_on with
    | refl => exact .refl
    | head hstep hrest ih =>
      have hx := hclosed (mem_of_reads hclosed hb hrest) hstep
      exact ih.tail ((mem_readersAmong_iff h).2 ⟨hstep, hx⟩)

/-- A cell reads itself through others exactly if it reads itself or shares its group of the
schedule with another cell. -/
theorem onCycle_iff_of_mem_schedule (h : g.Valid)
    (hclosed : ∀ {a b}, b ∈ cells → g.Reads a b → a ∈ cells) {c : List Address}
    (hc : c ∈ g.schedule cells) (ha : a ∈ c) :
    g.OnCycle a ↔ g.Reads a a ∨ ∃ b ∈ c, b ≠ a := by
  have harr := g.arranged_schedule cells
  have hcells {x : Address} (hx : x ∈ c) : x ∈ cells :=
    mem_schedule_iff.1 (List.mem_flatten.2 ⟨c, hc, hx⟩)
  constructor
  · intro hcycle
    obtain ⟨b, hab, hba⟩ := TransGen.head'_iff.1 hcycle
    by_cases hne : b = a
    · exact .inl (hne ▸ hab)
    · refine .inr ⟨b, (harr.mem_iff_of_mem hc ha).2 ⟨?_, ?_⟩, hne⟩
      · exact (reaches_readersAmong_iff h hclosed (hcells ha)).2 hba
      · have hb := mem_of_reads hclosed (hcells ha) hba
        exact (reaches_readersAmong_iff h hclosed hb).2 (.single hab)
  · rintro (hself | ⟨b, hb, hne⟩)
    · exact .single hself
    · have hmutual := (harr.mem_iff_of_mem hc ha).1 hb
      rw [reaches_readersAmong_iff h hclosed (hcells ha),
        reaches_readersAmong_iff h hclosed (hcells hb)] at hmutual
      have hab := (reflTransGen_iff_eq_or_transGen.1 hmutual.2).resolve_left hne
      exact hab.trans_left hmutual.1

end Closed

end DependencyGraph

end Spreadsheet
