import Spreadsheet.Proofs.Dependency.Graph
import Spreadsheet.Sheet

/-!
# The order of a recomputation

The schedule of a set of cells that is closed under readers is `Scheduled`: its groups are the
cycles of the sheet and single cells that lie on none, and no cell reads a cell of a later group.
-/

namespace Spreadsheet

open Relation
open Std (ExtTreeSet)

namespace Sheet.Progress

theorem mem_inOrder {c : List Address} {a : Address} : a ∈ inOrder c ↔ a ∈ c := by
  rw [inOrder, ExtTreeSet.mem_toList, ExtTreeSet.mem_ofList, List.contains_iff_mem]

theorem ascending_inOrder (c : List Address) :
    (inOrder c).Pairwise fun a b => compare a b = .lt :=
  ExtTreeSet.ordered_toList

end Sheet.Progress

open Sheet.Progress (isCycle inOrder mem_inOrder ascending_inOrder)

namespace DependencyGraph

variable {g : DependencyGraph} {c : List Address} {cs : List (List Address)}

/-- Groups of cells in an order in which they can be computed. A group is a cycle, or a single cell
that lies on none. -/
structure Scheduled (g : DependencyGraph) (cs : List (List Address)) : Prop where
  nodup : cs.flatten.Nodup
  mem_iff : ∀ {c}, c ∈ cs → ∀ {a b}, a ∈ c →
    (b ∈ c ↔ ReflTransGen g.Reads a b ∧ ReflTransGen g.Reads b a)
  pairwise : cs.Pairwise fun c d => ∀ a ∈ c, ∀ b ∈ d, ¬ g.Reads a b
  onCycle : ∀ {c}, c ∈ cs → isCycle g c = true → ∀ a ∈ c, g.OnCycle a
  eq_singleton : ∀ {c}, c ∈ cs → isCycle g c = false → ∃ a, c = [a] ∧ ¬ g.OnCycle a

namespace Scheduled

theorem tail (h : g.Scheduled (c :: cs)) : g.Scheduled cs where
  nodup := (List.nodup_append.1 h.nodup).2.1
  mem_iff hc := h.mem_iff (List.mem_cons_of_mem _ hc)
  pairwise := (List.pairwise_cons.1 h.pairwise).2
  onCycle hc := h.onCycle (List.mem_cons_of_mem _ hc)
  eq_singleton hc := h.eq_singleton (List.mem_cons_of_mem _ hc)

theorem nodup_of_mem (h : g.Scheduled cs) (hc : c ∈ cs) : c.Nodup :=
  (List.nodup_flatten.1 h.nodup).1 c hc

end Scheduled

theorem scheduled_schedule (h : g.Valid) {cells : ExtTreeSet Address}
    (hclosed : ∀ {a b}, b ∈ cells → g.Reads a b → a ∈ cells) :
    g.Scheduled (g.schedule cells) := by
  have harr := g.arranged_schedule cells
  have hcells {c : List Address} {a : Address} (hc : c ∈ g.schedule cells) (ha : a ∈ c) :
      a ∈ cells :=
    mem_schedule_iff.1 (List.mem_flatten.2 ⟨c, hc, ha⟩)
  have hcycle {c : List Address} {a : Address} (hc : c ∈ g.schedule cells) (ha : a ∈ c) :=
    onCycle_iff_of_mem_schedule h hclosed hc ha
  refine ⟨harr.nodup, fun {c} hc {a b} ha => ?_, ?_, fun {c} hc htrue a ha => ?_,
    fun {c} hc hfalse => ?_⟩
  · show b ∈ c ↔ ReflTransGen g.Reads a b ∧ ReflTransGen g.Reads b a
    rw [harr.mem_iff_of_mem hc ha, reaches_readersAmong_iff h hclosed (hcells hc ha), and_comm]
    refine and_congr_left fun hreach => ?_
    exact reaches_readersAmong_iff h hclosed (mem_of_reads hclosed (hcells hc ha) hreach)
  · refine harr.pairwise_not_mem.imp_of_mem fun {c d} hc _ hlater a ha b hb => ?_
    show ¬ g.Reads a b
    intro hread
    exact hlater a ha b hb ((mem_readersAmong_iff h).2 ⟨hread, hcells hc ha⟩)
  · show g.OnCycle a
    rw [hcycle hc ha]
    match c, htrue with
    | [x], hself =>
      rw [isCycle, isSelfReferencing_iff] at hself
      rw [List.mem_singleton.1 ha]
      exact .inl hself
    | x :: y :: rest, _ =>
      have hxy : x ≠ y := fun hxy => by
        have hnodup := (List.nodup_flatten.1 harr.nodup).1 _ hc
        simp [hxy] at hnodup
      by_cases hax : a = x
      · exact .inr ⟨y, by simp, hax ▸ hxy.symm⟩
      · exact .inr ⟨x, by simp, Ne.symm hax⟩
  · match c, hfalse with
    | [x], hself =>
      refine ⟨x, rfl, fun hx => ?_⟩
      rw [hcycle hc List.mem_cons_self, ← isSelfReferencing_iff] at hx
      simp only [isCycle] at hself
      simp [hself] at hx

/-! ## The order of visits -/

/-- The order in which recomputing some cells visits what they affect. -/
def visits (g : DependencyGraph) (roots : List Address) : List Address :=
  (g.schedule (g.affected roots)).flatMap inOrder

variable {a b : Address} {roots roots' : List Address}

theorem affected_congr (h : ∀ a, a ∈ roots ↔ a ∈ roots') :
    g.affected roots = g.affected roots' := by
  have hset : ExtTreeSet.ofList roots = ExtTreeSet.ofList roots' :=
    ExtTreeSet.ext_mem fun a => by
      rw [ExtTreeSet.mem_ofList, ExtTreeSet.mem_ofList, List.contains_iff_mem,
        List.contains_iff_mem, h]
  rw [affected, affected, hset]

theorem mem_affected_of_reads (h : g.Valid) (hb : b ∈ g.affected roots) (hread : g.Reads a b) :
    a ∈ g.affected roots := by
  rw [mem_affected_iff h] at hb ⊢
  obtain ⟨r, hr, hreach⟩ := hb
  exact ⟨r, hr, .head hread hreach⟩

theorem scheduled_affected (h : g.Valid) (roots : List Address) :
    g.Scheduled (g.schedule (g.affected roots)) :=
  scheduled_schedule h (mem_affected_of_reads h)

theorem mem_visits_iff : a ∈ g.visits roots ↔ a ∈ g.affected roots := by
  rw [← mem_schedule_iff (g := g), visits, List.mem_flatMap, List.mem_flatten]
  simp only [mem_inOrder]

theorem Scheduled.nodup_visits (h : g.Scheduled cs) : (cs.flatMap inOrder).Nodup := by
  refine List.nodup_flatMap.2 ⟨fun c _ => Address.nodup_of_ascending (ascending_inOrder c), ?_⟩
  refine (List.nodup_flatten.1 h.nodup).2.imp fun {c d} hdisjoint a hc hd => ?_
  exact hdisjoint (mem_inOrder.1 hc) (mem_inOrder.1 hd)

/-- A cell that lies on no cycle is visited after what it reads. -/
theorem Scheduled.pairwise_visits (h : g.Scheduled cs) :
    (cs.flatMap inOrder).Pairwise fun a b => g.Reads a b → g.OnCycle a := by
  refine List.pairwise_flatMap.2 ⟨fun c hc => ?_, ?_⟩
  · refine List.pairwise_iff_forall_sublist.2 fun {a b} hab hread => ?_
    have ha : a ∈ c := mem_inOrder.1 (hab.subset List.mem_cons_self)
    have hb : b ∈ c := mem_inOrder.1 (hab.subset (by simp))
    exact .head' hread ((h.mem_iff hc ha).1 hb).2
  · refine h.pairwise.imp fun {c d} hcd a ha b hb hread => ?_
    exact (hcd a (mem_inOrder.1 ha) b (mem_inOrder.1 hb) hread).elim

/-- The cells of a cycle are visited together and in ascending order. -/
theorem Scheduled.visits_eq (h : g.Scheduled cs) (ha : a ∈ cs.flatMap inOrder) :
    ∃ pre mid post, cs.flatMap inOrder = pre ++ mid ++ post ∧
      (mid.Pairwise fun a b => compare a b = .lt) ∧
        ∀ b, b ∈ mid ↔ ReflTransGen g.Reads a b ∧ ReflTransGen g.Reads b a := by
  obtain ⟨c, hc, hac⟩ := List.mem_flatMap.1 ha
  obtain ⟨cs₁, cs₂, rfl⟩ := List.append_of_mem hc
  refine ⟨cs₁.flatMap inOrder, inOrder c, cs₂.flatMap inOrder, by simp, ascending_inOrder c,
    fun b => ?_⟩
  rw [mem_inOrder]
  exact h.mem_iff hc (mem_inOrder.1 hac)

end DependencyGraph

end Spreadsheet
