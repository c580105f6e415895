import Mathlib.Order.Bounds.Defs
import Spreadsheet.Proofs.Atomicity

/-!
# An edit changes only what depends on it

`Sheet.affectedBy` are the cells that a batch affects: those that it names, and all that read them
in the graph that the batch has written. They are the least set with these cells that is closed
under readers (`isLeast_affected`), and every cell outside keeps its record, its edges and its place
outside the report.
-/

namespace Spreadsheet

open Relation
open Std (ExtTreeMap ExtTreeSet)

namespace DependencyGraph

variable {g : DependencyGraph} {roots : List Address}

/-- The affected cells are the least set that holds the roots and with every cell its readers. -/
theorem isLeast_affected (h : g.Valid) (roots : List Address) :
    IsLeast {t : Set Address | (∀ r ∈ roots, r ∈ t) ∧ ∀ a ∈ t, ∀ b ∈ g.readers a, b ∈ t}
      {a | a ∈ g.affected roots} := by
  refine ⟨⟨fun r hr => (mem_affected_iff h).2 ⟨r, hr, .refl⟩, fun a ha b hb => ?_⟩, ?_⟩
  · obtain ⟨r, hr, har⟩ := (mem_affected_iff h).1 ha
    exact (mem_affected_iff h).2 ⟨r, hr, har.head ((mem_readers_iff h).1 hb)⟩
  · rintro t ⟨hroots, hclosed⟩ a ha
    obtain ⟨r, hr, har⟩ := (mem_affected_iff h).1 ha
    induction har using ReflTransGen.head_induction_on with
    | refl => exact hroots r hr
    | head hstep hrest ih =>
      exact hclosed _ (ih ((mem_affected_iff h).2 ⟨r, hr, hrest⟩)) _ ((mem_readers_iff h).2 hstep)

end DependencyGraph

namespace Sheet

variable {lang : Language} {s u : Sheet} {edits : List Edit} {changed roots : List Address}
  {a : Address} {checked : List (Address × Option Text)}

/-- The cells that a batch affects, in the graph that it has written. -/
def affectedBy (s : Sheet) (checked : List (Address × Option Text)) : ExtTreeSet Address :=
  (s.written checked).graph.affected (checked.map Prod.fst)

/-- A cell is what it was: its record and its content, and what it reads according to the graph. -/
structure Untouched (s u : Sheet) (a : Address) : Prop where
  cell_eq : u.grid.cells[a]? = s.grid.cells[a]?
  content_eq : u.grid.contents[a]? = s.grid.contents[a]?
  cells_eq : u.graph.cells.forward[a]? = s.graph.cells.forward[a]?
  ranges_eq : u.graph.ranges.forward[a]? = s.graph.ranges.forward[a]?

theorem InSync.untouched (hs : s.InSync) (hu : u.InSync) (h : u.grid.pair? a = s.grid.pair? a) :
    s.Untouched u a := by
  have hreads : u.graph.readBy a = s.graph.readBy a := by
    rw [hu.readBy_eq, hs.readBy_eq, Grid.reads_congr (Grid.content?_congr h)]
  refine ⟨congrArg Prod.fst h, congrArg Prod.snd h, ?_, ?_⟩
  · have hcells : u.graph.cells.readBy a = s.graph.cells.readBy a :=
      congrArg References.cells hreads
    rw [Edges.readBy, Edges.readBy] at hcells
    rw [hu.valid.cells.forward.getElem?_eq, hs.valid.cells.forward.getElem?_eq, hcells]
  · have hranges : u.graph.ranges.readBy a = s.graph.ranges.readBy a :=
      congrArg References.ranges hreads
    rw [Edges.readBy, Edges.readBy] at hranges
    rw [hu.valid.ranges.forward.getElem?_eq, hs.valid.ranges.forward.getElem?_eq, hranges]

/-- What an operation does not affect, it neither changes nor reports. -/
theorem Updated.untouched (h : s.Updated roots u changed) (hs : s.InSync)
    (ha : a ∉ u.graph.affected roots) : s.Untouched u a ∧ a ∉ changed := by
  refine ⟨hs.untouched h.inSync (h.pair?_eq a ha), fun hmem => ha ?_⟩
  rw [h.changed_eq, List.mem_filter] at hmem
  exact DependencyGraph.mem_visits_iff.1 hmem.1

/-- Computing values leaves the graph as the batch has written it. -/
theorem graph_written (h : s.InSync) (hresolve : resolveAll edits = .ok checked)
    (hok : (s.setCells edits).result = .ok changed) :
    (s.written checked).graph = (s.setCells edits).sheet.graph := by
  obtain ⟨checked', hresolve', hall, hupdated, hraw⟩ := setCells_eq_ok h hok
  rw [hresolve] at hresolve'
  cases hresolve'
  obtain ⟨w, hw, hentered⟩ := Entered.writeAll_eq hall (.nil h)
  have hsheet : s.written checked = w.sheet := by rw [written, hw]
  rw [List.nil_append] at hentered
  rw [hsheet]
  refine hentered.inSync.graph_eq hupdated.inSync (hentered.language.trans hupdated.language.symm)
    fun a => ?_
  rw [hentered.raw?_eq, hraw]

/-- A batch that succeeds affects the least set of cells that holds the cells it names and is closed
under readers in the graph that it has written. The closure that finds them ends on every graph, and
every other cell is untouched and not reported. -/
theorem setCells_local (h : Reachable lang s) (hok : (s.setCells edits).result = .ok changed) :
    ∃ checked, resolveAll edits = .ok checked ∧
      IsLeast {t : Set Address | (∀ edit ∈ checked, edit.1 ∈ t) ∧
        ∀ a ∈ t, ∀ b ∈ (s.written checked).graph.readers a, b ∈ t} {a | a ∈ s.affectedBy checked} ∧
      (∃ n, (s.written checked).graph.Turns (checked.map Prod.fst) n [] (s.affectedBy checked)) ∧
      (∀ n queue seen, (s.written checked).graph.Turns (checked.map Prod.fst) n queue seen →
        n + queue.length = seen.size ∧ n ≤ (s.affectedBy checked).size ∧
          (queue = [] → seen = s.affectedBy checked)) ∧
      ∀ a, a ∉ s.affectedBy checked → s.Untouched (s.setCells edits).sheet a ∧ a ∉ changed := by
  obtain ⟨hsync, rfl⟩ := h.inSync
  obtain ⟨checked, hresolve, -, hupdated, -⟩ := setCells_eq_ok hsync hok
  have hgraph := graph_written hsync hresolve hok
  have hleast := DependencyGraph.isLeast_affected hupdated.inSync.valid (checked.map Prod.fst)
  simp only [List.forall_mem_map] at hleast
  rw [← hgraph] at hleast
  refine ⟨checked, hresolve, hleast, DependencyGraph.turns_affected _ _,
    fun n queue seen => DependencyGraph.turns_spec, fun a ha => ?_⟩
  rw [affectedBy, hgraph] at ha
  exact hupdated.untouched hsync ha

/-- An edit of the first cell affects this cell and the second one, which refers to it. The third
cell is populated, and it is untouched. -/
theorem setCells_local_follower : ∃ (s : Sheet) (changed : List Address),
    Reachable (.standard .usual) s ∧
      (s.setCells [⟨.placed ⟨0, 0⟩, some "3"⟩]).result = .ok changed ∧
      (∀ a, a ∈ s.affectedBy [(⟨0, 0⟩, some "3")] ↔ a = ⟨0, 0⟩ ∨ a = ⟨0, 1⟩) ∧
      ⟨0, 2⟩ ∈ s.grid.cells ∧
      s.Untouched (s.setCells [⟨.placed ⟨0, 0⟩, some "3"⟩]).sheet ⟨0, 2⟩ ∧ ⟨0, 2⟩ ∉ changed := by
  obtain ⟨s, u, changed, hs, hset, hu⟩ := exists_follows
  have hok : (s.setCells [⟨.placed ⟨0, 0⟩, some "3"⟩]).result = .ok changed := by rw [hset]
  have hresolve : resolveAll [⟨.placed ⟨0, 0⟩, some "3"⟩] = .ok [(⟨0, 0⟩, some "3")] := rfl
  obtain ⟨checked, hchecked, hleast, -, -, huntouched⟩ := setCells_local hs.reached.reachable hok
  rw [hresolve, Except.ok.injEq] at hchecked
  subst hchecked
  have hsync := hs.reached.reachable.inSync.1
  have hgraph : (s.written [(⟨0, 0⟩, some "3")]).graph = u.graph := by
    rw [graph_written hsync hresolve hok, hset]
  have hreader {a b : Address} : b ∈ u.graph.readers a ↔
      b = ⟨0, 1⟩ ∧ a = ⟨0, 0⟩ ∨ b = ⟨0, 2⟩ ∧ a = ⟨0, 2⟩ := by
    have husync := hu.reached.reachable.inSync.1
    rw [DependencyGraph.mem_readers_iff husync.valid, husync.reads_eq, hu.reads_iff]
  have hmem (a : Address) :
      a ∈ s.affectedBy [(⟨0, 0⟩, some "3")] ↔ a = ⟨0, 0⟩ ∨ a = ⟨0, 1⟩ := by
    rw [hgraph] at hleast
    constructor
    · -- the two cells are closed under readers, and the affected cells are the least such set
      intro ha
      have hsubset : {x | x ∈ s.affectedBy [(⟨0, 0⟩, some "3")]} ⊆
          {x : Address | x = ⟨0, 0⟩ ∨ x = ⟨0, 1⟩} := by
        refine hleast.2 ⟨by simp, fun x hx b hb => ?_⟩
        rcases hreader.1 hb with ⟨rfl, -⟩ | ⟨-, rfl⟩
        · exact .inr rfl
        · rcases hx with hx | hx <;> cases hx
      exact hsubset ha
    · have hfirst : ⟨0, 0⟩ ∈ s.affectedBy [(⟨0, 0⟩, some "3")] :=
        hleast.1.1 _ List.mem_cons_self
      rintro (rfl | rfl)
      · exact hfirst
      · exact hleast.1.2 _ hfirst _ (hreader.2 (.inl ⟨rfl, rfl⟩))
  have hother := huntouched ⟨0, 2⟩ (by rw [hmem]; decide)
  have hpopulated : ⟨0, 2⟩ ∈ s.grid.cells := hsync.grid.paired.mem_iff.2 (by rw [hs.third]; rfl)
  exact ⟨s, changed, hs.reached.reachable, hok, hmem, hpopulated, hother⟩

end Sheet

end Spreadsheet
