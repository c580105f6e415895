import Spreadsheet.Proofs.Sheet.Operation

/-!
# The report of an operation

A batch that succeeds and a full recomputation report exactly the cells that display something else
than before, each of them once. A cell is reported after what it reads, the cells of a cycle
together and in ascending order, and every subscriber is told once, unless there is nothing to tell
or a subscriber before it does not return.
This holds of every reachable sheet, also of one that a failed batch has left half written.
-/

namespace Spreadsheet

open Relation

/-- Two cells read each other, directly or through others. -/
def Grid.SameCycle (g : Grid) (a b : Address) : Prop :=
  TransGen g.Reads a b ∧ TransGen g.Reads b a

theorem Grid.sameCycle_iff {g : Grid} {a b : Address} (ha : g.OnCycle a) :
    g.SameCycle a b ↔ ReflTransGen g.Reads a b ∧ ReflTransGen g.Reads b a := by
  refine ⟨fun h => ⟨h.1.to_reflTransGen, h.2.to_reflTransGen⟩, fun ⟨hab, hba⟩ => ?_⟩
  have ha : TransGen g.Reads a a := ha
  exact ⟨ha.trans_left hab, .trans_right hba ha⟩

namespace Sheet

variable {lang : Language} {s u : Sheet} {roots changed : List Address}

/-- A report tells exactly what is displayed differently, and in which order it came about. -/
structure Reports (s u : Sheet) (changed : List Address) : Prop where
  nodup : changed.Nodup
  mem_iff : ∀ a, a ∈ changed ↔ (s.grid.value a).display ≠ (u.grid.value a).display
  reads_before : ∀ earlier a later, changed = earlier ++ a :: later → ¬ u.grid.OnCycle a →
    ∀ b ∈ changed, u.grid.Reads a b → b ∈ earlier
  cycle : ∀ a ∈ changed, u.grid.OnCycle a → ∃ earlier cycle later,
    changed = earlier ++ cycle ++ later ∧ (cycle.Pairwise fun b c => compare b c = .lt) ∧
      ∀ b, b ∈ cycle ↔ b ∈ changed ∧ u.grid.SameCycle a b

theorem display_ne_iff (hs : s.InSync) (hu : u.InSync) {a : Address} :
    (s.grid.value a).display ≠ (u.grid.value a).display ↔
      (u.grid.value a).shown ≠ (s.grid.value a).shown := by
  rw [(hs.grid.displayable a).display_eq, (hu.grid.displayable a).display_eq, ne_eq,
    Except.ok.injEq, eq_comm]

namespace Updated

variable {a : Address}

theorem mem_changed_iff (h : s.Updated roots u changed) : a ∈ changed ↔
    a ∈ u.graph.visits roots ∧ (u.grid.value a).shown ≠ (s.grid.value a).shown := by
  rw [h.changed_eq, List.mem_filter, decide_eq_true_iff]

theorem mem_visits_of_ne (h : s.Updated roots u changed)
    (hne : (u.grid.value a).shown ≠ (s.grid.value a).shown) : a ∈ u.graph.visits roots := by
  -- a cell that is not affected is as it was
  by_contra hvisit
  rw [DependencyGraph.mem_visits_iff] at hvisit
  apply hne
  rw [Grid.value_congr (h.pair?_eq a hvisit)]

/-- A cell that is off all cycles reads no reported cell that comes after it. -/
theorem pairwise_changed (h : s.Updated roots u changed) :
    changed.Pairwise fun a b => u.grid.Reads a b → u.grid.OnCycle a := by
  have hpair : changed.Pairwise fun a b => u.graph.Reads a b → u.graph.OnCycle a := by
    rw [h.changed_eq]
    exact (DependencyGraph.scheduled_affected h.inSync.valid roots).pairwise_visits.filter _
  rw [h.inSync.reads_eq] at hpair
  simp only [h.inSync.onCycle_iff] at hpair
  exact hpair

/-- The reported cells of a cycle stand side by side and in order. -/
theorem exists_cycle (h : s.Updated roots u changed) (ha : a ∈ changed)
    (hon : u.grid.OnCycle a) : ∃ earlier cycle later,
      changed = earlier ++ cycle ++ later ∧ (cycle.Pairwise fun b c => compare b c = .lt) ∧
        ∀ b, b ∈ cycle ↔ b ∈ changed ∧ u.grid.SameCycle a b := by
  have hscheduled := DependencyGraph.scheduled_affected h.inSync.valid roots
  obtain ⟨pre, mid, post, hvisits, hascending, hmid⟩ :=
    hscheduled.visits_eq (h.mem_changed_iff.1 ha).1
  have hvisits : u.graph.visits roots = pre ++ mid ++ post := hvisits
  rw [h.inSync.reads_eq] at hmid
  have hsplit := h.changed_eq
  rw [hvisits, List.filter_append, List.filter_append] at hsplit
  refine ⟨_, _, _, hsplit, hascending.filter _, fun b => ?_⟩
  rw [List.mem_filter, decide_eq_true_iff, h.mem_changed_iff, Grid.sameCycle_iff hon, ← hmid]
  constructor
  · rintro ⟨hb, hne⟩
    refine ⟨⟨?_, hne⟩, hb⟩
    rw [hvisits, List.mem_append, List.mem_append]
    exact .inl (.inr hb)
  · rintro ⟨⟨-, hne⟩, hb⟩
    exact ⟨hb, hne⟩

theorem reports (hs : s.InSync) (h : s.Updated roots u changed) : s.Reports u changed where
  nodup := by
    rw [h.changed_eq]
    exact (DependencyGraph.scheduled_affected h.inSync.valid roots).nodup_visits.filter _
  mem_iff a := by
    rw [display_ne_iff hs h.inSync, h.mem_changed_iff]
    exact and_iff_right_of_imp h.mem_visits_of_ne
  reads_before := by
    intro earlier a later hsplit hnot b hb hread
    have hpair := h.pairwise_changed
    rw [hsplit, List.pairwise_append, List.pairwise_cons] at hpair
    rw [hsplit, List.mem_append, List.mem_cons] at hb
    rcases hb with hb | rfl | hb
    · exact hb
    · exact (hnot (.single hread)).elim
    · exact (hnot (hpair.2.1.1 b hb hread)).elim
  cycle _ := h.exists_cycle

end Updated

section Calls

variable {σ : Type} {returns : σ → List Address → Bool}

/-- If every subscriber returns, every one of them is called. -/
theorem deliver_eq {message : List Address} {subscribers : List σ}
    (h : ∀ x ∈ subscribers, returns x message = true) :
    Update.deliver returns message subscribers = subscribers.map fun x => (x, message) := by
  induction subscribers with
  | nil => rfl
  | cons x rest ih =>
    obtain ⟨hx, hrest⟩ := List.forall_mem_cons.1 h
    rw [Update.deliver, if_pos hx, ih hrest, List.map_cons]

theorem calls_eq {v : Update} (hv : v.result = .ok changed) {subscribers : List σ}
    (h : ∀ x ∈ subscribers, returns x changed = true) :
    v.calls returns subscribers =
      if changed = [] then [] else subscribers.map fun x => (x, changed) := by
  unfold Update.calls Update.notifications
  rw [hv]
  cases changed with
  | nil => rfl
  | cons a rest => simp [deliver_eq h]

end Calls

/-- Every subscriber that a report is for is called once with it, if it is not empty. All of them
have to return from the call for that: a subscriber that fails ends the calls. -/
def CallsAll (v : Update) (changed : List Address) : Prop :=
  ∀ (σ : Type) (returns : σ → List Address → Bool) (subscribers : List σ),
    (∀ x ∈ subscribers, returns x changed = true) →
      v.calls returns subscribers =
        if changed = [] then [] else subscribers.map fun x => (x, changed)

/-- Every operation that returns reports exactly what it has changed, and every subscriber is called
once with a report that is not empty. -/
theorem reports_of_reachable (h : Reachable lang s) :
    (∀ edits changed, (s.setCells edits).result = .ok changed →
      s.Reports (s.setCells edits).sheet changed ∧ CallsAll (s.setCells edits) changed) ∧
    ∃ changed, s.recalculate.result = .ok changed ∧ s.Reports s.recalculate.sheet changed ∧
      CallsAll s.recalculate changed := by
  have hsync := h.inSync.1
  constructor
  · intro edits changed hok
    obtain ⟨checked, -, -, hupdated, -⟩ := setCells_eq_ok hsync hok
    exact ⟨hupdated.reports hsync, fun σ returns subscribers => calls_eq hok⟩
  · obtain ⟨u, changed, hu, hupdated, -⟩ := recalculate_eq hsync
    have hok : s.recalculate.result = .ok changed := by rw [hu]
    refine ⟨changed, hok, ?_, fun σ returns subscribers => calls_eq hok⟩
    rw [hu]
    exact hupdated.reports hsync

/-- The first cell is edited. The second one, which refers to it, is reported after it, the third
one is not reported, and two subscribers are called. -/
theorem reports_of_follower : ∃ (s : Sheet) (changed : List Address),
    Reachable (.standard .usual) s ∧
      (s.setCells [⟨.placed ⟨0, 0⟩, some "3"⟩]).result = .ok changed ∧
      ⟨0, 0⟩ ∈ changed ∧ ⟨0, 1⟩ ∈ changed ∧ ⟨0, 2⟩ ∉ changed ∧
      (∀ earlier later, changed = earlier ++ ⟨0, 1⟩ :: later → ⟨0, 0⟩ ∈ earlier) ∧
      (s.setCells [⟨.placed ⟨0, 0⟩, some "3"⟩]).calls (fun _ _ => true) [1, 2] =
        [(1, changed), (2, changed)] := by
  obtain ⟨s, u, changed, hs, hset, hu⟩ := exists_follows
  have hok : (s.setCells [⟨.placed ⟨0, 0⟩, some "3"⟩]).result = .ok changed := by rw [hset]
  obtain ⟨hreports, hcalls⟩ := (reports_of_reachable hs.reached.reachable).1 _ changed hok
  rw [hset] at hreports
  have hdisplay : (CellValue.number 2).display ≠ (CellValue.number 3).display := by decide +kernel
  have hfirst : ⟨0, 0⟩ ∈ changed := by
    rw [hreports.mem_iff, hs.value_first, hu.value_first]
    exact hdisplay
  have hsecond : ⟨0, 1⟩ ∈ changed := by
    rw [hreports.mem_iff, hs.value_second (by decide), hu.value_second (by decide)]
    exact hdisplay
  refine ⟨s, changed, hs.reached.reachable, hok, hfirst, hsecond, ?_,
    fun earlier later hsplit => ?_, ?_⟩
  · rw [hreports.mem_iff, hs.value_third, hu.value_third]
    exact fun hne => hne rfl
  · refine hreports.reads_before earlier _ later hsplit ?_ _ hfirst
      (hu.reads_iff.2 (.inl ⟨rfl, rfl⟩))
    rw [hu.onCycle_iff]
    decide
  · rw [hcalls Nat (fun _ _ => true) [1, 2] fun _ _ => rfl, if_neg (List.ne_nil_of_mem hfirst)]
    rfl

end Sheet

end Spreadsheet
