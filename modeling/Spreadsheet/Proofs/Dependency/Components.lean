import Spreadsheet.Proofs.Dependency.Explore

/-!
# The components of a graph

`stronglyConnected` arranges what can be reached from its roots: it puts every node into one group,
two nodes into the same group exactly if each can be reached from the other, and the groups in an
order in which each leads only into itself and into groups found before it.
-/

namespace Spreadsheet

variable {α : Type}

/-- Groups that hold every node of a set once, strongly connected and leading only into themselves
and into those that follow. -/
structure Arranged (successors : α → List α) (scope : Finset α) (cs : List (List α)) : Prop where
  layered : Layered successors cs
  nodup : cs.flatten.Nodup
  mem_flatten_iff : ∀ {v}, v ∈ cs.flatten ↔ v ∈ scope

namespace Arranged

variable {successors : α → List α} {scope : Finset α} {cs : List (List α)}

/-- Two nodes are in the same group exactly if each can be reached from the other. -/
theorem mem_iff_of_mem (h : Arranged successors scope cs) {c : List α} (hc : c ∈ cs) {v w : α}
    (hv : v ∈ c) : w ∈ c ↔ Reaches successors v w ∧ Reaches successors w v := by
  obtain ⟨hlayered, hnodup, -⟩ := h
  induction cs with
  | nil => simp at hc
  | cons d cs ih =>
    obtain ⟨-, hconn, -, hcs⟩ := id hlayered
    rw [List.flatten_cons, List.nodup_append] at hnodup
    rcases List.mem_cons.1 hc with rfl | hc
    · refine ⟨fun hw => ⟨hconn v hv w hw, hconn w hw v hv⟩, fun ⟨hvw, hwv⟩ => ?_⟩
      have hw := hlayered.mem_of_reaches (List.mem_append_left _ hv) hvw
      rw [List.flatten_cons, List.mem_append] at hw
      refine hw.resolve_right fun hw => ?_
      exact hnodup.2.2 v hv v (hcs.mem_of_reaches hw hwv) rfl
    · exact ih hc hcs hnodup.2.1

/-- No group leads back into one before it. -/
theorem pairwise_not_mem (h : Arranged successors scope cs) :
    cs.Pairwise fun c d => ∀ v ∈ c, ∀ w ∈ d, v ∉ successors w := by
  obtain ⟨hlayered, hnodup, -⟩ := h
  induction cs with
  | nil => exact .nil
  | cons c cs ih =>
    obtain ⟨-, -, -, hcs⟩ := hlayered
    rw [List.flatten_cons, List.nodup_append] at hnodup
    refine .cons (fun d hd v hv w hw hstep => ?_) (ih hcs hnodup.2.1)
    have hw : w ∈ cs.flatten := List.mem_flatten.2 ⟨d, hd, hw⟩
    exact hnodup.2.2 v hv v (hcs.mem_of_reaches hw (.single hstep)) rfl

end Arranged

variable [Ord α] [Std.TransOrd α] [Std.LawfulEqOrd α] [DecidableEq α] {successors : α → List α}
  {scope : Finset α}

/-- The search arranges everything that can be reached from the roots, the components found last
first. -/
theorem arranged_stronglyConnected {bound : Nat} {roots : List α}
    (hscope : ∀ v ∈ scope, ∀ w ∈ successors v, w ∈ scope) (hroots : ∀ r ∈ roots, r ∈ scope)
    (hreach : ∀ v ∈ scope, ∃ r ∈ roots, Reaches successors r v) (hbound : scope.card ≤ bound) :
    Arranged successors scope (stronglyConnected successors bound roots).reverse := by
  obtain ⟨hvalid, -, hmet⟩ := Search.valid_exploreAll hscope roots
    (Search.valid_start successors scope) hroots
    ((Finset.card_filter_le _ _).trans hbound)
  rw [stronglyConnected, List.reverse_reverse]
  generalize Search.exploreAll successors bound roots .start = s at hvalid hmet
  have hmem {v : α} : v ∈ s.components.flatten ↔ v ∈ s.marks := by
    simp [hvalid.mem_marks_iff, hvalid.stack_eq_nil]
  refine ⟨hvalid.layered, hvalid.nodup, fun {v} => ⟨fun hv => hvalid.mem_scope (hmem.1 hv), ?_⟩⟩
  intro hv
  obtain ⟨r, hr, hrv⟩ := hreach v hv
  exact hvalid.layered.mem_of_reaches (hmem.2 (hmet r hr)) hrv

end Spreadsheet
