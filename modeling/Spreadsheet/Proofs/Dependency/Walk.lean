import Mathlib.Algebra.BigOperators.Group.Finset.Basic
import Mathlib.Algebra.Order.BigOperators.Group.Finset
import Spreadsheet.Proofs.Dependency.Explore

/-!
# The search as a loop

`Walk.turn` is one turn of the search written as a loop with a stack of its own: a frame for every
node that has been entered and not left, with the successors that it has still to look at. The loop
gets to wherever the recursion gets (`leads_explore`, `leads_exploreAll`), and a turn is paid for by
a root, by a successor or by a node that is met for the first time, so it ends
(`iterate_turn_start`).
-/

namespace Spreadsheet

variable {α : Type}

/-- A node that has been entered and not left: its number, the least number of an active node that
it has met, and the successors that it has not looked at. -/
structure Frame (α : Type) where
  node : α
  number : Nat
  low : Nat
  rest : List α

/-- The state of the loop: the roots that are still to be explored, the frames with the latest
first, and the search. -/
structure Walk (α : Type) [Ord α] [Std.TransOrd α] where
  roots : List α
  frames : List (Frame α)
  search : Search α

/-- Lowers the least number that the latest node has met. -/
def Frame.lower (low : Nat) : List (Frame α) → List (Frame α)
  | [] => []
  | frame :: frames => { frame with low := min frame.low low } :: frames

namespace Walk

variable [Ord α] [Std.TransOrd α]

/-- The loop before its first turn. -/
def start (roots : List α) : Walk α :=
  ⟨roots, [], .start⟩

variable [DecidableEq α]

/-- Enters a node, with all its successors to be looked at. -/
def descend (successors : α → List α) (roots : List α) (frames : List (Frame α)) (s : Search α)
    (v : α) : Walk α :=
  ⟨roots, ⟨v, s.next, s.next, successors v⟩ :: frames, s.enter v⟩

/-- Looks at one successor of the latest node or leaves the node; without a node, goes on to the
next root. -/
def turn (successors : α → List α) : Walk α → Walk α
  | ⟨[], [], s⟩ => ⟨[], [], s⟩
  | ⟨r :: roots, [], s⟩ =>
    if s.marks.contains r then ⟨roots, [], s⟩ else descend successors roots [] s r
  | ⟨roots, ⟨node, number, low, []⟩ :: frames, s⟩ =>
    ⟨roots, Frame.lower low frames, if low = number then s.close node else s⟩
  | ⟨roots, ⟨node, number, low, v :: rest⟩ :: frames, s⟩ =>
    match s.marks[v]? with
    | none => descend successors roots (⟨node, number, low, rest⟩ :: frames) s v
    | some (.active n) => ⟨roots, ⟨node, number, min low n, rest⟩ :: frames, s⟩
    | some .done => ⟨roots, ⟨node, number, low, rest⟩ :: frames, s⟩

end Walk

/-! ## What a turn costs -/

namespace Search

variable [Ord α] [Std.TransOrd α] {successors : α → List α} {scope : Finset α} {s t : Search α}
  {v : α}

/-- The turns that the nodes not met yet will take: one to leave each of them, and one for each
successor. -/
def toll (successors : α → List α) (scope : Finset α) (s : Search α) : Nat :=
  ∑ v ∈ scope with v ∉ s.marks, ((successors v).length + 1)

theorem toll_start : (start : Search α).toll successors scope =
    ∑ v ∈ scope, ((successors v).length + 1) := by
  simp [toll, start]

theorem toll_le (h : ∀ v ∈ s.marks, v ∈ t.marks) :
    t.toll successors scope ≤ s.toll successors scope := by
  refine Finset.sum_le_sum_of_subset fun v hv => ?_
  rw [Finset.mem_filter] at hv ⊢
  exact ⟨hv.1, fun hs => hv.2 (h v hs)⟩

variable [Std.LawfulEqOrd α] [DecidableEq α]

/-- A node pays for its turns when it is entered. -/
theorem toll_enter (hv : v ∉ s.marks) (hscope : v ∈ scope) :
    (s.enter v).toll successors scope + ((successors v).length + 1) =
      s.toll successors scope := by
  have hfilter : (scope.filter fun w => w ∉ s.marks) =
      insert v (scope.filter fun w => w ∉ (s.enter v).marks) := by
    ext w
    rw [Finset.mem_insert, Finset.mem_filter, Finset.mem_filter, mem_marks_enter]
    by_cases hw : v = w
    · simp [← hw, hv, hscope]
    · simp [hw, Ne.symm hw]
  rw [toll, toll, hfilter, Finset.sum_insert (by simp [mem_marks_enter]), add_comm]

theorem mem_marks_close (s : Search α) (v : α) {w : α} (hw : w ∈ s.marks) :
    w ∈ (s.close v).marks := by
  rw [Std.ExtTreeMap.mem_iff_isSome_getElem?, close, getElem?_foldl_insert]
  split
  · rfl
  · exact Std.ExtTreeMap.mem_iff_isSome_getElem?.1 hw

end Search

namespace Walk

variable [Ord α] [Std.TransOrd α] [DecidableEq α] {successors : α → List α} {scope : Finset α}
  {roots : List α} {frames : List (Frame α)} {w w' w'' : Walk α} {s : Search α} {m n : Nat}

/-- The loop comes from one state to another, at the cost of the nodes met on the way and of `extra`
more turns. -/
def Leads (successors : α → List α) (scope : Finset α) (extra : Nat) (w w' : Walk α) : Prop :=
  ∃ n, (turn successors)^[n] w = w' ∧
    n + w'.search.toll successors scope ≤ extra + w.search.toll successors scope

namespace Leads

theorem refl (w : Walk α) : Leads successors scope 0 w w :=
  ⟨0, rfl, le_rfl⟩

theorem trans (h : Leads successors scope m w w') (h' : Leads successors scope n w' w'') :
    Leads successors scope (m + n) w w'' := by
  obtain ⟨j, hj, hcost⟩ := h
  obtain ⟨k, hk, hcost'⟩ := h'
  refine ⟨k + j, by rw [Function.iterate_add_apply, hj, hk], ?_⟩
  omega

theorem of_turn (hturn : turn successors w = w') (h : Leads successors scope m w' w'')
    (hcost : m + 1 + w'.search.toll successors scope ≤ n + w.search.toll successors scope) :
    Leads successors scope n w w'' := by
  obtain ⟨k, hk, hcost'⟩ := h
  refine ⟨k + 1, by rw [Function.iterate_succ_apply, hturn, hk], ?_⟩
  omega

/-- A turn that meets no new node. -/
theorem one (hturn : turn successors w = w')
    (hcost : w'.search.toll successors scope ≤ w.search.toll successors scope) :
    Leads successors scope 1 w w' :=
  .of_turn hturn (.refl w') (by omega)

end Leads

variable [Std.LawfulEqOrd α]

theorem mem_marks_turn (w : Walk α) {v : α} (hv : v ∈ w.search.marks) :
    v ∈ (turn successors w).search.marks := by
  have henter (u : α) : v ∈ (w.search.enter u).marks := (Search.mem_marks_enter _ _ _).2 (.inr hv)
  unfold turn
  split
  · exact hv
  · split
    · exact hv
    · exact henter _
  · dsimp only
    split
    · exact Search.mem_marks_close _ _ hv
    · exact hv
  · split
    · exact henter _
    · exact hv
    · exact hv

theorem Leads.mem_marks (h : Leads successors scope n w w') {v : α} (hv : v ∈ w.search.marks) :
    v ∈ w'.search.marks := by
  obtain ⟨k, rfl, -⟩ := h
  clear * - hv
  induction k generalizing w with
  | zero => exact hv
  | succ k ih => exact ih (mem_marks_turn w hv)

theorem Leads.unmet_le (h : Leads successors scope n w w') :
    w'.search.unmet scope ≤ w.search.unmet scope :=
  Search.unmet_le fun _ => h.mem_marks

/-- A turn that enters a node, which pays for all turns until the loop leaves it. -/
theorem Leads.of_descend {v : α} (hv : v ∉ w.search.marks) (hscope : v ∈ scope)
    (hturn : turn successors w = descend successors roots frames w.search v)
    (h : Leads successors scope ((successors v).length + 1)
      (descend successors roots frames w.search v) w') : Leads successors scope 1 w w' := by
  have hcost : (w.search.enter v).toll successors scope + ((successors v).length + 1) =
      w.search.toll successors scope := Search.toll_enter hv hscope
  refine .of_turn hturn h ?_
  show (successors v).length + 1 + 1 + (w.search.enter v).toll successors scope ≤ _
  omega

/-! ## The loop and the recursion -/

/-- The loop works off the successors of a node as the recursion does, if that is known of the
nodes that it enters on the way. -/
theorem leads_foldl {fuel : Nat} (roots : List α) (frames : List (Frame α)) (node : α)
    (number : Nat) (explore_of : ∀ {v : α} {t : Search α} (low : Nat) (rest : List α),
      v ∉ t.marks → v ∈ scope → t.unmet scope ≤ fuel →
        Leads successors scope ((successors v).length + 1)
          (descend successors roots (⟨node, number, low, rest⟩ :: frames) t v)
          ⟨roots, ⟨node, number, min low (t.explore successors fuel v).2, rest⟩ :: frames,
            (t.explore successors fuel v).1⟩) :
    ∀ (rest : List α) (p : Search α × Nat), (∀ v ∈ rest, v ∈ scope) → p.1.unmet scope ≤ fuel →
      Leads successors scope rest.length ⟨roots, ⟨node, number, p.2, rest⟩ :: frames, p.1⟩
        ⟨roots, ⟨node, number, (rest.foldl (Search.visit successors fuel) p).2, []⟩ :: frames,
          (rest.foldl (Search.visit successors fuel) p).1⟩ := by
  intro rest
  induction rest with
  | nil => exact fun p _ _ => .refl _
  | cons v rest ih =>
    intro p hrest hfuel
    have step : Leads successors scope 1 ⟨roots, ⟨node, number, p.2, v :: rest⟩ :: frames, p.1⟩
        ⟨roots, ⟨node, number, (Search.visit successors fuel p v).2, rest⟩ :: frames,
          (Search.visit successors fuel p v).1⟩ := by
      -- only a new node takes more turns than one, and it has paid for them
      rcases hmark : p.1.marks[v]? with _ | n | _
      · have hv : v ∉ p.1.marks := by simpa using hmark
        have hvs : v ∈ scope := hrest v List.mem_cons_self
        simp only [Search.visit, hmark]
        exact .of_descend hv hvs (by simp only [turn, hmark]) (explore_of p.2 rest hv hvs hfuel)
      · simp only [Search.visit, hmark]
        exact .one (by simp only [turn, hmark]) le_rfl
      · simp only [Search.visit, hmark]
        exact .one (by simp only [turn, hmark]) le_rfl
    have hunmet := step.unmet_le.trans hfuel
    rw [List.foldl_cons, List.length_cons, Nat.add_comm]
    exact step.trans (ih _ (fun u hu => hrest u (List.mem_cons_of_mem v hu)) hunmet)

/-- From entering a node to leaving it the loop does what exploring the node does. -/
theorem leads_explore (hscope : ∀ v ∈ scope, ∀ w ∈ successors v, w ∈ scope) (fuel : Nat) :
    ∀ {v : α} {s : Search α} (roots : List α) (frames : List (Frame α)), v ∉ s.marks →
      v ∈ scope → s.unmet scope ≤ fuel →
        Leads successors scope ((successors v).length + 1) (descend successors roots frames s v)
          ⟨roots, Frame.lower (s.explore successors fuel v).2 frames,
            (s.explore successors fuel v).1⟩ := by
  -- for all frames below, so that it can be used of a node that is entered on the way
  induction fuel with
  | zero =>
    intro v s roots frames hv hvs hfuel
    have := Search.unmet_enter hv hvs
    omega
  | succ fuel ih =>
    intro v s roots frames hv hvs hfuel
    have hunmet : (s.enter v).unmet scope ≤ fuel := by
      have := Search.unmet_enter hv hvs
      omega
    have hfold := leads_foldl roots frames v s.next
      (fun low rest => ih roots (⟨v, s.next, low, rest⟩ :: frames))
      (successors v) (s.enter v, s.next) (hscope v hvs) hunmet
    refine hfold.trans (.one ?_ ?_)
    · rw [Search.explore_succ, turn]
      dsimp only
      split <;> rfl
    · rw [Search.explore_succ]
      dsimp only
      split
      · exact Search.toll_le fun u => Search.mem_marks_close _ _
      · exact le_rfl

/-- The loop explores the roots one after the other. -/
theorem leads_exploreAll (hscope : ∀ v ∈ scope, ∀ w ∈ successors v, w ∈ scope) {fuel : Nat}
    (roots : List α) : ∀ {s : Search α}, (∀ r ∈ roots, r ∈ scope) → s.unmet scope ≤ fuel →
      Leads successors scope roots.length ⟨roots, [], s⟩
        ⟨[], [], s.exploreAll successors fuel roots⟩ := by
  induction roots with
  | nil => exact fun _ _ => .refl _
  | cons r roots ih =>
    intro s hroots hfuel
    have hrest : ∀ x ∈ roots, x ∈ scope := fun x hx => hroots x (List.mem_cons_of_mem _ hx)
    have step : Leads successors scope 1 ⟨r :: roots, [], s⟩
        ⟨roots, [], if s.marks.contains r then s else (s.explore successors fuel r).1⟩ := by
      by_cases hr : s.marks.contains r
      · rw [if_pos hr]
        exact .one (by rw [turn, if_pos hr]) le_rfl
      · rw [if_neg hr]
        have hnew : r ∉ s.marks := fun h => hr (Std.ExtTreeMap.mem_iff_contains.1 h)
        have hrs : r ∈ scope := hroots r List.mem_cons_self
        exact .of_descend hnew hrs (by rw [turn, if_neg hr])
          (leads_explore hscope fuel roots [] hnew hrs hfuel)
    have hunmet := step.unmet_le.trans hfuel
    rw [Search.exploreAll, List.foldl_cons, List.length_cons, Nat.add_comm]
    exact step.trans (ih hrest hunmet)

/-- The loop ends with what the recursion finds, after no more turns than there are roots, nodes and
edges. -/
theorem iterate_turn_start (hscope : ∀ v ∈ scope, ∀ w ∈ successors v, w ∈ scope)
    (hroots : ∀ r ∈ roots, r ∈ scope) {bound : Nat} (hbound : scope.card ≤ bound) :
    (turn successors)^[roots.length + ∑ v ∈ scope, ((successors v).length + 1)] (start roots) =
      ⟨[], [], Search.start.exploreAll successors bound roots⟩ := by
  have hunmet : (Search.start : Search α).unmet scope ≤ bound :=
    (Finset.card_filter_le _ _).trans hbound
  obtain ⟨n, hn, hcost⟩ := leads_exploreAll hscope roots hroots hunmet
  rw [Search.toll_start] at hcost
  obtain ⟨k, hk⟩ := Nat.exists_eq_add_of_le (Nat.le_of_add_right_le hcost)
  rw [start, hk, Nat.add_comm, Function.iterate_add_apply, hn]
  exact Function.iterate_fixed rfl k

end Walk

end Spreadsheet
