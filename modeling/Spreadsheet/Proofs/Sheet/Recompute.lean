import Spreadsheet.Proofs.Sheet.InSync
import Spreadsheet.Proofs.Sheet.Schedule

/-!
# What a recomputation does

`Progress.Recomputed` says what storing values in the cells of a list, one after the other, has
done to a sheet in sync: nothing but the values of these cells has changed, all of them are settled,
and those whose display has changed are reported in the order of the list. It holds of a single
store (`store_eq`), and parts of a recomputation compose (`Recomputed.append`), so it holds of a
whole schedule (`run_eq`).
-/

namespace Spreadsheet

namespace Sheet

variable {s t u : Sheet} {a b : Address}

/-! ## Sheets that differ only in values -/

/-- The second sheet has the cells of the first one, with values of its own. -/
structure Revalued (s t : Sheet) : Prop where
  language : t.language = s.language
  rows : t.rows = s.rows
  columns : t.columns = s.columns
  graph : t.graph = s.graph
  contents : t.grid.contents = s.grid.contents
  getElem?_eq : ∀ a : Address,
    t.grid.cells[a]? = s.grid.cells[a]?.map fun c : Cell => { c with value := t.grid.value a }

namespace Revalued

theorem refl (s : Sheet) : s.Revalued s := by
  refine ⟨rfl, rfl, rfl, rfl, rfl, fun a => ?_⟩
  rw [Grid.value]
  cases hc : s.grid.cells[a]? <;> rfl

theorem trans (h : s.Revalued t) (h' : t.Revalued u) : s.Revalued u where
  language := h'.language.trans h.language
  rows := h'.rows.trans h.rows
  columns := h'.columns.trans h.columns
  graph := h'.graph.trans h.graph
  contents := h'.contents.trans h.contents
  getElem?_eq a := by rw [h'.getElem?_eq, h.getElem?_eq, Option.map_map]; rfl

theorem raw?_eq (h : s.Revalued t) (a : Address) : t.grid.raw? a = s.grid.raw? a := by
  rw [Grid.raw?, h.getElem?_eq, Option.map_map]
  rfl

theorem content?_eq (h : s.Revalued t) (a : Address) : t.grid.content? a = s.grid.content? a := by
  rw [Grid.content?, h.contents, Grid.content?]

theorem pair?_eq (h : s.Revalued t) (hvalue : t.grid.value a = s.grid.value a) :
    t.grid.pair? a = s.grid.pair? a := by
  rw [Grid.pair?, h.getElem?_eq, hvalue, ← (refl s).getElem?_eq a, h.content?_eq, Grid.pair?]

theorem mem_iff (h : s.Revalued t) : a ∈ t.grid.cells ↔ a ∈ s.grid.cells := by
  rw [Std.ExtTreeMap.mem_iff_isSome_getElem?, h.getElem?_eq, Option.isSome_map,
    Std.ExtTreeMap.mem_iff_isSome_getElem?]

theorem onCycle_iff (h : s.Revalued t) : t.grid.OnCycle a ↔ s.grid.OnCycle a :=
  Grid.OnCycle.congr h.content?_eq

theorem inSync (h : s.Revalued t) (hs : s.InSync)
    (hvalue : ∀ a, (t.grid.value a).Displayable) : t.InSync := by
  refine ⟨⟨fun a => ?_, fun {a raw} hraw => ?_, fun {a raw content} hraw hcontent => ?_, hvalue⟩,
    h.graph ▸ hs.valid, fun a => ?_⟩
  · rw [h.mem_iff, h.contents]
    exact hs.grid.paired a
  · exact hs.grid.not_isBlank (h.raw?_eq a ▸ hraw)
  · show Content.read t.language raw = .ok content
    rw [h.language]
    exact hs.grid.read_eq (h.raw?_eq a ▸ hraw) (h.content?_eq a ▸ hcontent)
  · show t.graph.readBy a = t.grid.reads a
    rw [h.graph, hs.readBy_eq, Grid.reads_congr (h.content?_eq a)]

end Revalued

theorem revalued_setValue (s : Sheet) (a : Address) (v : CellValue) :
    s.Revalued { s with grid := s.grid.setValue a v } := by
  refine ⟨rfl, rfl, rfl, rfl, Grid.contents_change _, fun b => ?_⟩
  have hvalue := Grid.value_setValue (g := s.grid) (a := a) (b := b) v
  rw [hvalue, Grid.setValue, Grid.getElem?_change]
  by_cases hb : b = a
  · subst hb
    cases hc : s.grid.cells[b]? with
    | none => simp
    | some c =>
      have hmem : b ∈ s.grid.cells := by rw [Std.ExtTreeMap.mem_iff_isSome_getElem?, hc]; rfl
      simp [hmem]
  · have hself := (Revalued.refl s).getElem?_eq b
    simpa [hb] using hself

/-- The value of a cell according to the cells around it can always be computed. -/
theorem compute_eq (h : s.InSync) (a : Address) :
    s.compute a = .ok (s.grid.computed s.language a) := by
  unfold compute Grid.computed Grid.content?
  cases hc : s.grid.contents[a]? with
  | none =>
    have hreads : s.graph.hasReferences a = false := by
      rw [Bool.eq_false_iff, ne_eq, DependencyGraph.hasReferences_iff h.valid, h.readBy_eq,
        Grid.reads, Grid.content?, hc, not_not]
    simp [hreads]
  | some content =>
    cases content with
    | literal v => rfl
    | formula f =>
      simp only [Grid.outcome]
      split <;> simp_all

namespace Progress

variable {before : Displays} {p q r : Progress} {order later : List Address}

/-! ## One part of a recomputation -/

/-- What a cell displayed before: what has been noted, or what it shows now. -/
def shownBefore (before : Displays) (g : Grid) (a : Address) : Text :=
  (before[a]?).getD (g.value a).shown

/-- What recomputing the cells of a list has done. -/
structure Recomputed (before : Displays) (p : Progress) (order : List Address) (q : Progress) :
    Prop where
  inSync : q.sheet.InSync
  revalued : p.sheet.Revalued q.sheet
  value_of_not_mem : ∀ b, b ∉ order → q.sheet.grid.value b = p.sheet.grid.value b
  settled : ∀ b ∈ order, q.sheet.grid.Settled q.sheet.language b
  changed : q.changed = p.changed ++
    order.filter fun b => (q.sheet.grid.value b).shown ≠ shownBefore before p.sheet.grid b

theorem Recomputed.nil (h : p.sheet.InSync) : Recomputed before p [] p :=
  ⟨h, .refl _, fun _ _ => rfl, by simp, by simp⟩

/-- Parts that have no cell in common compose, provided that the first part reads nothing of the
second. The cells of a cycle may read any cell, for their values do not depend on it. -/
theorem Recomputed.append (h : Recomputed before p order q) (h' : Recomputed before q later r)
    (hdisjoint : ∀ a ∈ order, a ∉ later)
    (hreads : ∀ a ∈ order, p.sheet.grid.OnCycle a ∨ ∀ b ∈ later, ¬ p.sheet.grid.Reads a b) :
    Recomputed before p (order ++ later) r := by
  have hreads_eq : q.sheet.grid.Reads = p.sheet.grid.Reads :=
    Grid.Reads.congr h.revalued.content?_eq
  refine ⟨h'.inSync, h.revalued.trans h'.revalued, fun b hb => ?_, fun b hb => ?_, ?_⟩
  · show r.sheet.grid.value b = p.sheet.grid.value b
    rw [List.mem_append, not_or] at hb
    rw [h'.value_of_not_mem b hb.2, h.value_of_not_mem b hb.1]
  · show r.sheet.grid.Settled r.sheet.language b
    by_cases hlater : b ∈ later
    · exact h'.settled b hlater
    · have hb := (List.mem_append.1 hb).resolve_right hlater
      rw [h'.revalued.language]
      refine (h.settled b hb).mono (fun x => h'.revalued.mem_iff.symm)
        (fun x => (h'.revalued.content?_eq x).symm) (h'.value_of_not_mem b hlater).symm ?_
      refine (hreads b hb).imp h.revalued.onCycle_iff.2 fun hnot x hx => ?_
      refine (h'.value_of_not_mem x fun hx' => ?_).symm
      exact hnot x hx' (by rwa [hreads_eq] at hx)
  · rw [h'.changed, h.changed, List.append_assoc, List.filter_append]
    congr 2
    · refine List.filter_congr fun b hb => ?_
      rw [h'.value_of_not_mem b (hdisjoint b hb)]
    · refine List.filter_congr fun b hb => ?_
      have hvalue := h.value_of_not_mem b fun hb' => hdisjoint b hb' hb
      rw [shownBefore, shownBefore, hvalue]

/-! ## Storing -/

theorem store_eq (before : Displays) {v : CellValue} (h : p.sheet.InSync) (hv : v.Displayable)
    (hcycle : p.sheet.grid.OnCycle a → v = .error .cycle)
    (hcomputed : ¬ p.sheet.grid.OnCycle a → v = p.sheet.grid.computed p.sheet.language a) :
    ∃ q, p.store before a v = (q, none) ∧ Recomputed before p [a] q := by
  have hrevalued := revalued_setValue p.sheet a v
  have hself := h.grid.paired.value_setValue_self hcomputed
  have hother (b : Address) (hb : b ≠ a) :
      (p.sheet.grid.setValue a v).value b = p.sheet.grid.value b := by
    rw [Grid.value_setValue, if_neg fun hba => hb hba.1]
  have hstore : p.store before a v = (⟨{ p.sheet with grid := p.sheet.grid.setValue a v },
      if v.shown = shownBefore before p.sheet.grid a then p.changed else p.changed ++ [a]⟩,
        none) := by
    unfold store shownBefore
    cases before[a]? with
    | none => simp [hv.display_eq, (h.grid.displayable a).display_eq]
    | some shown => simp [hv.display_eq]
  refine ⟨_, hstore, hrevalued.inSync h fun b => ?_, hrevalued, fun b hb => ?_, fun b hb => ?_, ?_⟩
  · by_cases hb : b = a
    · rw [hb, hself]
      exact hv
    · rw [hother b hb]
      exact h.grid.displayable b
  · exact hother b (by simpa using hb)
  · rw [List.mem_singleton.1 hb]
    exact h.grid.paired.settled_setValue hcycle hcomputed
  · simp only [hself, List.filter_cons, List.filter_nil]
    split <;> simp_all

theorem storeAll_eq (before : Displays) (order : List Address) : ∀ {p : Progress},
    p.sheet.InSync → order.Nodup → (∀ a ∈ order, p.sheet.grid.OnCycle a) →
      ∃ q, p.storeAll before (.error .cycle) order = (q, none) ∧
        Recomputed before p order q := by
  induction order with
  | nil => exact fun h _ _ => ⟨_, rfl, .nil h⟩
  | cons a order ih =>
    intro p h hnodup hcycle
    obtain ⟨ha, hnodup⟩ := List.nodup_cons.1 hnodup
    have hacycle := hcycle a List.mem_cons_self
    obtain ⟨q, hq, hstored⟩ := store_eq before h (CellValue.displayable_error _)
      (fun _ => rfl) fun hnot => (hnot hacycle).elim
    obtain ⟨r, hr, hrest⟩ := ih hstored.inSync hnodup fun b hb =>
      hstored.revalued.onCycle_iff.2 (hcycle b (List.mem_cons_of_mem a hb))
    refine ⟨r, by rw [storeAll, hq]; exact hr, hstored.append hrest ?_ ?_⟩
    · simpa using ha
    · simpa using .inl hacycle

/-! ## A schedule -/

theorem advance_eq (before : Displays) {c : List Address} (h : p.sheet.InSync) (hnodup : c.Nodup)
    (hcycle : isCycle p.sheet.graph c = true → ∀ a ∈ c, p.sheet.graph.OnCycle a)
    (hsingle : isCycle p.sheet.graph c = false → ∃ a, c = [a] ∧ ¬ p.sheet.graph.OnCycle a) :
    ∃ q, p.advance before c = (q, none) ∧ Recomputed before p (inOrder c) q := by
  unfold advance
  cases hc : isCycle p.sheet.graph c with
  | true =>
    have hnodup := Address.nodup_of_ascending (ascending_inOrder c)
    exact storeAll_eq before _ h hnodup fun a ha => h.onCycle_iff.1 (hcycle hc a (mem_inOrder.1 ha))
  | false =>
    obtain ⟨a, rfl, hnot⟩ := hsingle hc
    have hinOrder : inOrder [a] = [a] := rfl
    simp only [hinOrder, compute_eq h]
    exact store_eq before h (h.grid.displayable_computed a)
      (fun hcycle => (hnot (h.onCycle_iff.2 hcycle)).elim) fun _ => rfl

theorem run_eq (before : Displays) (cs : List (List Address)) : ∀ {p : Progress}, p.sheet.InSync →
    p.sheet.graph.Scheduled cs →
      ∃ q, p.run before cs = (q, none) ∧ Recomputed before p (cs.flatMap inOrder) q := by
  induction cs with
  | nil => exact fun h _ => ⟨_, rfl, .nil h⟩
  | cons c cs ih =>
    intro p h hcs
    obtain ⟨q, hq, hfirst⟩ := advance_eq before h (hcs.nodup_of_mem List.mem_cons_self)
      (hcs.onCycle List.mem_cons_self) (hcs.eq_singleton List.mem_cons_self)
    obtain ⟨r, hr, hrest⟩ := ih hfirst.inSync (hfirst.revalued.graph ▸ hcs.tail)
    have hlater {b : Address} (hb : b ∈ cs.flatMap inOrder) : ∃ d ∈ cs, b ∈ d := by
      obtain ⟨d, hd, hbd⟩ := List.mem_flatMap.1 hb
      exact ⟨d, hd, mem_inOrder.1 hbd⟩
    refine ⟨r, by rw [run, hq]; exact hr, hfirst.append hrest (fun a ha ha' => ?_) fun a ha => ?_⟩
    · obtain ⟨d, hd, had⟩ := hlater ha'
      have hnodup := hcs.nodup
      rw [List.flatten_cons, List.nodup_append] at hnodup
      exact hnodup.2.2 a (mem_inOrder.1 ha) a (List.mem_flatten.2 ⟨d, hd, had⟩) rfl
    · refine .inr fun b hb hread => ?_
      obtain ⟨d, hd, hbd⟩ := hlater hb
      rw [← h.reads_eq] at hread
      exact (List.pairwise_cons.1 hcs.pairwise).1 d hd a (mem_inOrder.1 ha) b hbd hread

end Progress

end Sheet

end Spreadsheet
