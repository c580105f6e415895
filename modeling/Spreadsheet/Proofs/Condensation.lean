import Mathlib.Data.Set.Finite.Basic
import Spreadsheet.Proofs.Dependency.Graph
import Spreadsheet.Proofs.Dependency.Walk

/-!
# Strongly connected components in order

`Condensed` says what a list of components has to be: every node in one group and once, two nodes in
the same group exactly if each can be reached from the other, and no group leading into a later one.
The search ends with such a list for whatever can be reached from its roots, and the schedule of a
set of cells is such a list for the cells and what they read of each other (`condensed_components`).
-/

namespace Spreadsheet

open Relation
open Std (ExtTreeSet)

variable {α : Type}

/-- The groups of a list are the strongly connected components of a set of nodes, each after those
that it leads to. -/
structure Condensed (Leads : α → α → Prop) (nodes : Set α) (cs : List (List α)) : Prop where
  mem_flatten_iff : ∀ {v}, v ∈ cs.flatten ↔ v ∈ nodes
  nodup : cs.flatten.Nodup
  nil_not_mem : [] ∉ cs
  together_iff : ∀ {v w}, v ∈ nodes → w ∈ nodes →
    ((∃ c ∈ cs, v ∈ c ∧ w ∈ c) ↔ ReflTransGen Leads v w ∧ ReflTransGen Leads w v)
  inOrder : cs.Pairwise fun c d => ∀ v ∈ c, ∀ w ∈ d, ¬ Leads v w

/-- What can be reached from a list of nodes. -/
def reachableFrom (successors : α → List α) (roots : List α) : Set α :=
  { v | ∃ r ∈ roots, Reaches successors r v }

theorem Layered.nil_not_mem {successors : α → List α} {cs : List (List α)}
    (h : Layered successors cs) : [] ∉ cs := by
  induction cs with
  | nil => exact List.not_mem_nil
  | cons c cs ih =>
    obtain ⟨hne, -, -, hcs⟩ := h
    rw [List.mem_cons, not_or]
    exact ⟨fun hnil => hne hnil.symm, ih hcs⟩

/-- Groups that are arranged are the components of the graph with all edges turned around. -/
theorem Arranged.condensed {successors : α → List α} {scope : Finset α} {cs : List (List α)}
    (h : Arranged successors scope cs) : Condensed (fun v w => v ∈ successors w) scope cs where
  mem_flatten_iff := h.mem_flatten_iff
  nodup := h.nodup
  nil_not_mem := h.layered.nil_not_mem
  together_iff {v w} hv _ := by
    rw [← reflTransGen_swap (r := fun v w => v ∈ successors w),
      ← reflTransGen_swap (r := fun v w => v ∈ successors w), and_comm]
    obtain ⟨c, hc, hvc⟩ := List.mem_flatten.1 (h.mem_flatten_iff.2 hv)
    constructor
    · rintro ⟨d, hd, hvd, hwd⟩
      exact (h.mem_iff_of_mem hd hvd).1 hwd
    · exact fun hmutual => ⟨c, hc, hvc, (h.mem_iff_of_mem hc hvc).2 hmutual⟩
  inOrder := h.pairwise_not_mem

/-- Turning all edges around turns the order of the groups around. -/
theorem Condensed.reverse {Leads : α → α → Prop} {nodes : Set α} {cs : List (List α)}
    (h : Condensed Leads nodes cs) : Condensed (fun v w => Leads w v) nodes cs.reverse where
  mem_flatten_iff := by
    intro v
    rw [← h.mem_flatten_iff]
    simp
  nodup := h.nodup.perm cs.reverse_perm.flatten.symm
  nil_not_mem := by
    rw [List.mem_reverse]
    exact h.nil_not_mem
  together_iff {v w} hv hw := by
    have hswap {x y : α} : ReflTransGen (fun v w => Leads w v) x y ↔ ReflTransGen Leads y x :=
      reflTransGen_swap
    rw [hswap, hswap, and_comm, ← h.together_iff hv hw]
    simp only [List.mem_reverse]
  inOrder := List.pairwise_reverse.2 (h.inOrder.imp fun hcd v hv w hw => hcd w hw v hv)

/-- Edges that end outside the nodes play no part if no node can be reached through them. -/
theorem Condensed.restrict {Leads : α → α → Prop} {nodes : Set α} {cs : List (List α)}
    (h : Condensed Leads nodes cs) (hback : ∀ {v w}, Leads v w → v ∈ nodes) :
    Condensed (fun v w => v ∈ nodes ∧ w ∈ nodes ∧ Leads v w) nodes cs where
  mem_flatten_iff := h.mem_flatten_iff
  nodup := h.nodup
  nil_not_mem := h.nil_not_mem
  together_iff {v w} hv hw := by
    have hreach {x y : α} (hy : y ∈ nodes) :
        ReflTransGen (fun v w => v ∈ nodes ∧ w ∈ nodes ∧ Leads v w) x y ↔
          ReflTransGen Leads x y := by
      constructor
      · exact ReflTransGen.mono (fun _ _ hstep => hstep.2.2) _ _
      · intro hpath
        induction hpath with
        | refl => exact .refl
        | tail _ hstep ih => exact (ih (hback hstep)).tail ⟨hback hstep, hy, hstep⟩
    rw [hreach hw, hreach hv, h.together_iff hv hw]
  inOrder := h.inOrder.imp fun hcd v hv w hw hstep => hcd v hv w hw hstep.2.2

theorem Condensed.congr {Leads Leads' : α → α → Prop} {nodes : Set α} {cs : List (List α)}
    (h : Condensed Leads nodes cs) (hiff : ∀ v w, Leads v w ↔ Leads' v w) :
    Condensed Leads' nodes cs := by
  obtain rfl : Leads = Leads' := funext₂ fun v w => propext (hiff v w)
  exact h

section Search

variable {successors : α → List α} {roots : List α} {scope : Finset α}

theorem mem_of_mem_successors (hscope : ∀ v, v ∈ scope ↔ v ∈ reachableFrom successors roots) :
    ∀ v ∈ scope, ∀ w ∈ successors v, w ∈ scope := by
  intro v hv w hw
  obtain ⟨r, hr, hrv⟩ := (hscope v).1 hv
  exact (hscope w).2 ⟨r, hr, hrv.tail hw⟩

theorem mem_of_mem_roots (hscope : ∀ v, v ∈ scope ↔ v ∈ reachableFrom successors roots) :
    ∀ r ∈ roots, r ∈ scope :=
  fun r hr => (hscope r).2 ⟨r, hr, .refl⟩

theorem condensed_stronglyConnected [Ord α] [Std.TransOrd α] [Std.LawfulEqOrd α] [DecidableEq α]
    (hscope : ∀ v, v ∈ scope ↔ v ∈ reachableFrom successors roots) {bound : Nat}
    (hbound : scope.card ≤ bound) :
    Condensed (fun v w => w ∈ successors v) scope (stronglyConnected successors bound roots) := by
  have h := (arranged_stronglyConnected (mem_of_mem_successors hscope) (mem_of_mem_roots hscope)
    (fun v => (hscope v).1) hbound).condensed.reverse
  rwa [List.reverse_reverse] at h

end Search

namespace DependencyGraph

/-- The schedule of a set of cells, for what they read of each other. -/
theorem condensed_schedule (g : DependencyGraph) (cells : ExtTreeSet Address) :
    Condensed (fun a b => a ∈ cells ∧ b ∈ cells ∧ a ∈ g.readers b) { a | a ∈ cells }
      (g.schedule cells) := by
  have h := (g.arranged_schedule cells).condensed
  have hnodes : (cells.toList.toFinset : Set Address) = { a | a ∈ cells } := by
    ext a
    simp
  rw [hnodes] at h
  refine (h.restrict fun hstep => (mem_readersAmong.1 hstep).2).congr fun a b => ?_
  exact and_congr_right fun ha => and_congr_right fun _ =>
    mem_readersAmong.trans (and_iff_left ha)

end DependencyGraph

/-- The search finds the strongly connected components of all that can be reached from its roots, in
the order in which they lead to each other, and it ends if only finitely many nodes can be reached.
So the schedule of a set of cells groups them by what they read of each other. -/
theorem condensed_components :
    (∀ {α : Type} [Ord α] [Std.TransOrd α] [Std.LawfulEqOrd α] [DecidableEq α]
      (successors : α → List α) (roots : List α)
      (hfinite : (reachableFrom successors roots).Finite), ∃ s : Search α,
        (Walk.turn successors)^[roots.length +
          ∑ v ∈ hfinite.toFinset, ((successors v).length + 1)] (.start roots) = ⟨[], [], s⟩ ∧
        Condensed (fun v w => w ∈ successors v) (reachableFrom successors roots)
          s.components.reverse ∧
        ∀ bound, hfinite.toFinset.card ≤ bound →
          stronglyConnected successors bound roots = s.components.reverse) ∧
    ∀ (g : DependencyGraph) (cells : ExtTreeSet Address),
      Condensed (fun a b => a ∈ cells ∧ b ∈ cells ∧ a ∈ g.readers b) { a | a ∈ cells }
        (g.schedule cells) ∧
      (g.Valid → Condensed (fun a b => a ∈ cells ∧ b ∈ cells ∧ g.Reads a b) { a | a ∈ cells }
        (g.schedule cells)) := by
  constructor
  · intro α _ _ _ _ successors roots hfinite
    have hscope (v : α) : v ∈ hfinite.toFinset ↔ v ∈ reachableFrom successors roots :=
      hfinite.mem_toFinset
    have hloop {bound : Nat} (hbound : hfinite.toFinset.card ≤ bound) :=
      Walk.iterate_turn_start (mem_of_mem_successors hscope) (mem_of_mem_roots hscope) hbound
    refine ⟨_, hloop le_rfl, ?_, fun bound hbound => ?_⟩
    · have h := condensed_stronglyConnected hscope le_rfl
      rwa [hfinite.coe_toFinset] at h
    · -- the loop knows no bound, so what it finds is found with every bound
      have hsame := (hloop hbound).symm.trans (hloop le_rfl)
      rw [Walk.mk.injEq] at hsame
      rw [stronglyConnected, hsame.2.2]
  · intro g cells
    refine ⟨g.condensed_schedule cells, fun hvalid => ?_⟩
    refine (g.condensed_schedule cells).congr fun a b => ?_
    rw [DependencyGraph.mem_readers_iff hvalid]

/-! ## Two nodes that lead to each other -/

/-- Two nodes that lead to each other, and a third that one of them leads to. -/
def ringWithTail : Nat → List Nat
  | 0 => [1]
  | 1 => [0, 2]
  | _ => []

theorem lt_of_mem_ringWithTail {v w : Nat} (h : w ∈ ringWithTail v) : w < 3 := by
  match v with
  | 0 | 1 =>
    simp [ringWithTail] at h
    omega
  | _ + 2 => cases h

theorem reachableFrom_ringWithTail_subset : reachableFrom ringWithTail [0] ⊆ Finset.range 3 := by
  rintro v ⟨r, hr, hrv⟩
  cases List.mem_singleton.1 hr
  cases hrv with
  | refl => exact Finset.mem_range.2 (by decide)
  | tail _ hw => exact Finset.mem_range.2 (lt_of_mem_ringWithTail hw)

/-- Two cells, of which the first reads the second. -/
def twoCells : ExtTreeSet Address :=
  .ofList ([⟨0, 0⟩, ⟨1, 0⟩] : List Address)

/-- The graph of the two cells. -/
def oneEdge : DependencyGraph :=
  (DependencyGraph.empty.setReferences ⟨0, 0⟩ ⟨ExtTreeSet.empty.insert ⟨1, 0⟩, ∅⟩).1

theorem valid_oneEdge : oneEdge.Valid := by
  obtain ⟨g, hset, hvalid, -⟩ := DependencyGraph.setReferences_eq DependencyGraph.valid_empty
    ⟨0, 0⟩ ⟨ExtTreeSet.empty.insert ⟨1, 0⟩, ∅⟩
  rwa [oneEdge, hset]

theorem condensed_components_ringWithTail :
    (reachableFrom ringWithTail [0]).Finite ∧
      Condensed (fun v w => w ∈ ringWithTail v) (reachableFrom ringWithTail [0]) [[2], [1, 0]] ∧
      oneEdge.Valid ∧
      Condensed (fun a b => a ∈ twoCells ∧ b ∈ twoCells ∧ oneEdge.Reads a b) { a | a ∈ twoCells }
        [[⟨1, 0⟩], [⟨0, 0⟩]] := by
  obtain ⟨hsearch, hschedule⟩ := condensed_components
  have hfinite : (reachableFrom ringWithTail [0]).Finite :=
    (Finset.finite_toSet _).subset reachableFrom_ringWithTail_subset
  obtain ⟨s, -, hcondensed, hbound⟩ := hsearch ringWithTail [0] hfinite
  have hcard : hfinite.toFinset.card ≤ 3 :=
    (Finset.card_le_card (hfinite.toFinset_subset.2 reachableFrom_ringWithTail_subset)).trans_eq
      (Finset.card_range 3)
  refine ⟨hfinite, ?_, valid_oneEdge, (hschedule oneEdge twoCells).2 valid_oneEdge⟩
  rwa [← hbound 3 hcard] at hcondensed

end Spreadsheet
