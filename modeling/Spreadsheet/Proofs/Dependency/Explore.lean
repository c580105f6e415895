import Spreadsheet.Proofs.Dependency.Search

/-!
# Exploring

`Search.Explored` is what one call of `explore` does to a valid search, and `Search.Visiting` what
holds of the search at a node while the successors of the node are visited. The fuel that a call
needs is the number of nodes that have not been met.
-/

namespace Spreadsheet

variable {α : Type}

namespace Search

variable [Ord α] [Std.TransOrd α]

/-! ## Exploring a node -/

section Explore

variable {successors : α → List α} {scope : Finset α} {path : List α} {s t : Search α} {v : α}

/-- How many nodes have not been met. -/
def unmet (scope : Finset α) (s : Search α) : Nat :=
  (scope.filter fun v => v ∉ s.marks).card

theorem unmet_le (h : ∀ v ∈ s.marks, v ∈ t.marks) : t.unmet scope ≤ s.unmet scope := by
  refine Finset.card_le_card fun w hw => ?_
  rw [Finset.mem_filter] at hw ⊢
  exact ⟨hw.1, fun hs => hw.2 (h w hs)⟩

theorem Extends.unmet_le {new : List α} (h : s.Extends t new) :
    t.unmet scope ≤ s.unmet scope :=
  Search.unmet_le fun _ => h.mem_marks

/-- No node that was put on the stack leads to a node with a number below `low` that was on the
stack before. -/
def BoundedBelow (successors : α → List α) (s : Search α) (new : List α) (low : Nat) : Prop :=
  ∀ u ∈ new, ∀ w ∈ successors u, w ∈ s.stack → low ≤ s.number w

namespace BoundedBelow

variable {new more : List α} {low low' : Nat}

theorem mono (h : s.BoundedBelow successors new low) (hle : low' ≤ low) :
    s.BoundedBelow successors new low' :=
  fun u hu w hw hws => hle.trans (h u hu w hw hws)

theorem append (h : s.BoundedBelow successors more low) (h' : s.BoundedBelow successors new low) :
    s.BoundedBelow successors (more ++ new) low := by
  intro u hu
  exact (List.mem_append.1 hu).elim (h u) (h' u)

end BoundedBelow

/-- A number is that of a node on the stack that can be reached, or the next one. -/
def Attained (successors : α → List α) (s : Search α) (v : α) (low : Nat) : Prop :=
  low = s.next ∨ ∃ w ∈ s.stack, s.number w = low ∧ Reaches successors v w

/-- The outcome of exploring a node that has not been met. -/
structure Explored (successors : α → List α) (scope : Finset α) (path : List α) (s : Search α)
    (v : α) (t : Search α) (low : Nat) : Prop where
  valid : t.Valid successors scope path
  onward : ∃ new, s.Extends t new ∧ s.BoundedBelow successors new low
  mem_marks : v ∈ t.marks
  attained : s.Attained successors v low

/-- The search at a node that was entered in the state `s`, when the successors in `seen` have
been visited. -/
structure Visiting (successors : α → List α) (scope : Finset α) (path : List α) (s : Search α)
    (v : α) (seen : List α) (t : Search α) (low : Nat) : Prop where
  valid : t.Valid successors scope (v :: path)
  onward : ∃ new, (s.enter v).Extends t new ∧ s.BoundedBelow successors new low
  mem_marks : ∀ w ∈ seen, w ∈ t.marks
  bounded : ∀ w ∈ seen, w ∈ s.stack → low ≤ s.number w
  low_le : low ≤ s.next
  attained : s.Attained successors v low

variable [DecidableEq α]

/-- Visits one successor of a node. -/
def visit (successors : α → List α) (fuel : Nat) (p : Search α × Nat) (w : α) : Search α × Nat :=
  match p.1.marks[w]? with
  | none =>
    let (t, below) := explore successors fuel w p.1
    (t, min p.2 below)
  | some (.active n) => (p.1, min p.2 n)
  | some .done => (p.1, p.2)

theorem explore_succ (successors : α → List α) (fuel : Nat) (v : α) (s : Search α) :
    explore successors (fuel + 1) v s =
      let r := (successors v).foldl (visit successors fuel) (s.enter v, s.next)
      if r.2 = s.next then (r.1.close v, r.2) else r := rfl

variable [Std.LawfulEqOrd α]

theorem unmet_enter (hv : v ∉ s.marks) (hscope : v ∈ scope) :
    (s.enter v).unmet scope < s.unmet scope := by
  refine Finset.card_lt_card (Finset.ssubset_iff_of_subset ?_ |>.2 ⟨v, ?_, ?_⟩)
  · intro w hw
    simp only [Finset.mem_filter, mem_marks_enter, not_or] at hw ⊢
    exact ⟨hw.1, hw.2.2⟩
  · simp [hscope, hv]
  · simp [mem_marks_enter]

theorem number_of_extends_enter {new : List α} (hext : (s.enter v).Extends t new) :
    t.number v = s.next := by
  rw [hext.number_eq ((mem_marks_enter s v v).2 (.inl rfl)), number_enter, if_pos rfl]

/-- A node that has a number below that of the node being explored was on the stack before. -/
theorem mem_stack_of_number_lt {new : List α} (ht : t.Valid successors scope (v :: path))
    (hext : (s.enter v).Extends t new) {w : α} (hw : w ∈ t.stack) (hlt : t.number w < s.next) :
    w ∈ s.stack := by
  have hv := number_of_extends_enter hext
  have hdesc := ht.descending
  rw [hext.stack_eq] at hw hdesc
  rcases List.mem_append.1 hw with hw | hw
  · have := (List.pairwise_append.1 hdesc).2.2 w hw v List.mem_cons_self
    omega
  · rcases List.mem_cons.1 hw with rfl | hw
    · omega
    · exact hw

/-- Visiting a successor that has not been met explores it. -/
theorem Visiting.explored (hs : s.Valid successors scope path) (hv : v ∉ s.marks)
    {seen : List α} {low : Nat} (h : Visiting successors scope path s v seen t low) {w : α}
    (hw : w ∈ successors v) (hwt : w ∉ t.marks) {u : Search α} {below : Nat}
    (hu : Explored successors scope (v :: path) t w u below) :
    Visiting successors scope path s v (seen ++ [w]) u (min low below) := by
  obtain ⟨new, hext, hbound⟩ := h.onward
  obtain ⟨more, hmore, hbelow⟩ := hu.onward
  have hold := (extends_enter hv).trans hext
  constructor
  case valid => exact hu.valid
  case onward =>
    refine ⟨more ++ new, hext.trans hmore, .append (fun x hx y hy hys => ?_)
      (hbound.mono (min_le_left _ _))⟩
    rw [← hold.number_eq_of_mem_stack hs hys]
    exact (min_le_right _ _).trans (hbelow x hx y hy (hold.mem_stack hys))
  case mem_marks =>
    exact List.forall_mem_append.2
      ⟨fun x hx => hmore.mem_marks (h.mem_marks x hx), List.forall_mem_singleton.2 hu.mem_marks⟩
  case bounded =>
    refine List.forall_mem_append.2 ⟨fun x hx hxs => (min_le_left _ _).trans (h.bounded x hx hxs),
      List.forall_mem_singleton.2 fun hws => ?_⟩
    exact (hwt (h.valid.mem_marks_iff.2 (.inl (hold.mem_stack hws)))).elim
  case low_le => exact (min_le_left _ _).trans h.low_le
  case attained =>
    rcases le_or_gt low below with hle | hlt
    · rw [min_eq_left hle]
      exact h.attained
    · rw [min_eq_right hlt.le]
      have hbelow : below < s.next := hlt.trans_le h.low_le
      rcases hu.attained with heq | ⟨x, hx, rfl, hr⟩
      · have := hold.next_le
        omega
      · have hxs := mem_stack_of_number_lt h.valid hext hx hbelow
        exact .inr ⟨x, hxs, (hold.number_eq_of_mem_stack hs hxs).symm, .head hw hr⟩

/-- Visiting a successor on the stack takes its number into account. -/
theorem Visiting.active (hs : s.Valid successors scope path) (hv : v ∉ s.marks)
    {seen : List α} {low : Nat} (h : Visiting successors scope path s v seen t low) {w : α}
    (hw : w ∈ successors v) (hwt : w ∈ t.stack) :
    Visiting successors scope path s v (seen ++ [w]) t (min low (t.number w)) := by
  obtain ⟨new, hext, hbound⟩ := h.onward
  have hold := (extends_enter hv).trans hext
  constructor
  case valid => exact h.valid
  case onward => exact ⟨new, hext, hbound.mono (min_le_left _ _)⟩
  case mem_marks =>
    exact List.forall_mem_append.2
      ⟨h.mem_marks, List.forall_mem_singleton.2 (h.valid.mem_marks_iff.2 (.inl hwt))⟩
  case bounded =>
    exact List.forall_mem_append.2 ⟨fun x hx hxs => (min_le_left _ _).trans (h.bounded x hx hxs),
      List.forall_mem_singleton.2 fun hws => (min_le_right _ _).trans
        (hold.number_eq_of_mem_stack hs hws).le⟩
  case low_le => exact (min_le_left _ _).trans h.low_le
  case attained =>
    rcases le_or_gt low (t.number w) with hle | hlt
    · rw [min_eq_left hle]
      exact h.attained
    · rw [min_eq_right hlt.le]
      have hws := mem_stack_of_number_lt h.valid hext hwt (hlt.trans_le h.low_le)
      exact .inr ⟨w, hws, (hold.number_eq_of_mem_stack hs hws).symm, .single hw⟩

/-- Visiting a successor whose component is complete changes nothing. -/
theorem Visiting.done (hv : v ∉ s.marks)
    {seen : List α} {low : Nat} (h : Visiting successors scope path s v seen t low) {w : α}
    (hwt : w ∈ t.components.flatten) :
    Visiting successors scope path s v (seen ++ [w]) t low := by
  obtain ⟨new, hext, hbound⟩ := h.onward
  constructor
  case valid => exact h.valid
  case onward => exact ⟨new, hext, hbound⟩
  case mem_marks =>
    exact List.forall_mem_append.2
      ⟨h.mem_marks, List.forall_mem_singleton.2 (h.valid.mem_marks_iff.2 (.inr hwt))⟩
  case bounded =>
    refine List.forall_mem_append.2 ⟨h.bounded, List.forall_mem_singleton.2 fun hws => ?_⟩
    have hws := ((extends_enter hv).trans hext).mem_stack hws
    exact (h.valid.not_mem_components hws hwt).elim
  case low_le => exact h.low_le
  case attained => exact h.attained

/-- Visiting the successors of a node in turn, when exploring is known to work one level below. -/
theorem Visiting.foldl {fuel : Nat} (hscope : ∀ v ∈ scope, ∀ w ∈ successors v, w ∈ scope)
    (hs : s.Valid successors scope path) (hv : v ∉ s.marks) (hvs : v ∈ scope)
    (hpath : ∀ u ∈ path, Reaches successors u v) (hfuel : s.unmet scope ≤ fuel + 1)
    (explore_of : ∀ {w : α} {t : Search α}, t.Valid successors scope (v :: path) → w ∉ t.marks →
      w ∈ scope → (∀ u ∈ v :: path, Reaches successors u w) → t.unmet scope ≤ fuel →
      Explored successors scope (v :: path) t w (explore successors fuel w t).1
        (explore successors fuel w t).2) :
    ∀ (rest seen : List α) (p : Search α × Nat), (∀ w ∈ rest, w ∈ successors v) →
      Visiting successors scope path s v seen p.1 p.2 →
      Visiting successors scope path s v (seen ++ rest)
        (rest.foldl (visit successors fuel) p).1 (rest.foldl (visit successors fuel) p).2 := by
  intro rest
  induction rest with
  | nil => simp
  | cons w rest ih =>
    intro seen p hrest h
    have hw : w ∈ successors v := hrest w List.mem_cons_self
    have step : Visiting successors scope path s v (seen ++ [w]) (visit successors fuel p w).1
        (visit successors fuel p w).2 := by
      obtain ⟨new, hext, -⟩ := h.onward
      rcases hmark : p.1.marks[w]? with _ | n | _
      · simp only [visit, hmark]
        have hwt : w ∉ p.1.marks := by simpa using hmark
        refine h.explored hs hv hw hwt (explore_of h.valid hwt (hscope v hvs w hw) ?_ ?_)
        · intro u hu
          rcases List.mem_cons.1 hu with rfl | hu
          · exact .single hw
          · exact (hpath u hu).tail hw
        · have hlt : (s.enter v).unmet scope < s.unmet scope := unmet_enter hv hvs
          have hle : p.1.unmet scope ≤ (s.enter v).unmet scope := hext.unmet_le
          omega
      · simp only [visit, hmark]
        have hwt : w ∈ p.1.stack := h.valid.mem_stack_iff.2 ⟨n, hmark⟩
        have hnumber : p.1.number w = n := by simp [number, hmark]
        exact hnumber ▸ h.active hs hv hw hwt
      · simp only [visit, hmark]
        exact h.done hv (h.valid.mem_components_iff.2 hmark)
    rw [List.foldl_cons, ← List.singleton_append, ← List.append_assoc]
    exact ih (seen ++ [w]) _ (fun x hx => hrest x (List.mem_cons_of_mem _ hx)) step

theorem visiting_enter (hs : s.Valid successors scope path) (hv : v ∉ s.marks) (hvs : v ∈ scope)
    (hpath : ∀ u ∈ path, Reaches successors u v) :
    Visiting successors scope path s v [] (s.enter v) s.next where
  valid := valid_enter hs hv hvs hpath
  onward := ⟨[], .refl _, by simp [BoundedBelow]⟩
  mem_marks := by simp
  bounded := by simp
  low_le := le_rfl
  attained := .inl rfl

/-- A node that leads to none below it closes its component. -/
theorem Visiting.explored_close (hs : s.Valid successors scope path) (hv : v ∉ s.marks)
    (h : Visiting successors scope path s v (successors v) t s.next) :
    Explored successors scope path s v (t.close v) s.next := by
  obtain ⟨new, hext, hbound⟩ := h.onward
  have hout : ∀ u ∈ new ++ [v], ∀ w ∈ successors u, w ∉ s.stack := by
    intro u hu w hw hws
    have hlt := hs.number_lt hws
    rcases List.mem_append.1 hu with hu | hu
    · have := hbound u hu w hw hws
      omega
    · have := h.bounded w (List.mem_singleton.1 hu ▸ hw) hws
      omega
  obtain ⟨hvalid, hclose, hmem⟩ := valid_close hs h.valid
    ((extends_enter hv).trans hext) h.mem_marks hout
  exact ⟨hvalid, ⟨[], hclose, by simp [BoundedBelow]⟩, hmem, .inl rfl⟩

/-- A node that leads to one below it stays on the stack. -/
theorem Visiting.explored_stay (hs : s.Valid successors scope path) (hv : v ∉ s.marks)
    {low : Nat} (h : Visiting successors scope path s v (successors v) t low)
    (hlow : low ≠ s.next) : Explored successors scope path s v t low := by
  obtain ⟨new, hext, hbound⟩ := h.onward
  have hold := (extends_enter hv).trans hext
  have hvt := number_of_extends_enter hext
  obtain ⟨x, hx, hxlow, hr⟩ := h.attained.resolve_left hlow
  obtain ⟨y, hy, hle, hry⟩ := hs.returns hx
  refine ⟨{ h.valid with mem_stack_of_path := ?_, returns := ?_, explored := ?_ },
    ⟨new ++ [v], hold, hbound.append fun u hu w hw hws => ?_⟩,
    hext.mem_marks ((mem_marks_enter s v v).2 (.inl rfl)), h.attained⟩
  · exact fun hx => h.valid.mem_stack_of_path (List.mem_cons_of_mem _ hx)
  · intro w hw
    obtain ⟨u, hu, hule, hur⟩ := h.valid.returns hw
    rcases List.mem_cons.1 hu with rfl | hu
    · refine ⟨y, hy, ?_, hur.trans (hr.trans hry)⟩
      rw [hold.number_eq_of_mem_stack hs (hs.mem_stack_of_path hy)]
      have := h.low_le
      omega
    · exact ⟨u, hu, hule, hur⟩
  · intro u hu hupath w hw
    by_cases huv : u = v
    · exact h.mem_marks w (huv ▸ hw)
    · exact h.valid.explored hu (by simp [huv, hupath]) w hw
  · exact h.bounded w (List.mem_singleton.1 hu ▸ hw) hws

/-- Exploring a node that has not been met, with fuel for the nodes that have not been met. -/
theorem explored_explore (hscope : ∀ v ∈ scope, ∀ w ∈ successors v, w ∈ scope) (fuel : Nat) :
    ∀ {v : α} {path : List α} {s : Search α}, s.Valid successors scope path → v ∉ s.marks →
      v ∈ scope → (∀ u ∈ path, Reaches successors u v) → s.unmet scope ≤ fuel →
      Explored successors scope path s v (explore successors fuel v s).1
        (explore successors fuel v s).2 := by
  induction fuel with
  | zero =>
    intro v path s _ hv hvs _ hfuel
    have := unmet_enter hv hvs
    omega
  | succ fuel ih =>
    intro v path s hs hv hvs hpath hfuel
    have h := Visiting.foldl hscope hs hv hvs hpath hfuel ih (successors v) [] (s.enter v, s.next)
      (fun _ hw => hw) (visiting_enter hs hv hvs hpath)
    rw [List.nil_append] at h
    rw [explore_succ]
    by_cases hlow : ((successors v).foldl (visit successors fuel) (s.enter v, s.next)).2 = s.next
    · simp only [hlow, if_true]
      exact (hlow ▸ h).explored_close hs hv
    · simp only [hlow, if_false]
      exact h.explored_stay hs hv hlow

/-- Exploring the roots one after the other meets them all. -/
theorem valid_exploreAll (hscope : ∀ v ∈ scope, ∀ w ∈ successors v, w ∈ scope) {fuel : Nat}
    (roots : List α) : ∀ {s : Search α}, s.Valid successors scope [] → (∀ r ∈ roots, r ∈ scope) →
      s.unmet scope ≤ fuel →
      (exploreAll successors fuel roots s).Valid successors scope [] ∧
        (∀ v ∈ s.marks, v ∈ (exploreAll successors fuel roots s).marks) ∧
        ∀ r ∈ roots, r ∈ (exploreAll successors fuel roots s).marks := by
  induction roots with
  | nil => exact fun hs _ _ => ⟨hs, fun _ hv => hv, by simp⟩
  | cons r roots ih =>
    intro s hs hroots hfuel
    have hrest : ∀ x ∈ roots, x ∈ scope := fun x hx => hroots x (List.mem_cons_of_mem _ hx)
    rw [exploreAll, List.foldl_cons]
    by_cases hr : r ∈ s.marks
    · obtain ⟨hvalid, hmarks, hmet⟩ := ih hs hrest hfuel
      rw [if_pos (Std.ExtTreeMap.mem_iff_contains.1 hr)]
      exact ⟨hvalid, hmarks, List.forall_mem_cons.2 ⟨hmarks r hr, hmet⟩⟩
    · rw [if_neg fun h => hr (Std.ExtTreeMap.mem_iff_contains.2 h)]
      have h := explored_explore hscope fuel hs hr (hroots r List.mem_cons_self) (by simp) hfuel
      obtain ⟨new, hext, -⟩ := h.onward
      obtain ⟨hvalid, hmarks, hmet⟩ := ih h.valid hrest (hext.unmet_le.trans hfuel)
      exact ⟨hvalid, fun v hv => hmarks v (hext.mem_marks hv),
        List.forall_mem_cons.2 ⟨hmarks r h.mem_marks, hmet⟩⟩

end Explore

end Search

end Spreadsheet
