import Spreadsheet.Proofs.Library.Calls
import Spreadsheet.Proofs.Sheet.UpToDate

/-!
# The texts of a sheet determine everything else

Two sheets that were reached by operations that succeeded and that hold the same texts have the same
values and the same dependency graph, and go on alike: every batch gives both the same report. The
lazy functions have to keep to their arguments, for else a value also depends on when it was
computed. So a batch gives the values that its edits give one at a time, edits of distinct cells may
change places, and an edit that is undone has left no trace.
-/

namespace Spreadsheet

namespace Sheet

variable {lang : Language} {s t u : Sheet} {e e' : Edit} {edits : List Edit} {a a' : Address}
  {checked : List (Address × Option Text)}

/-- Applies edits one at a time. -/
def setInTurn (s : Sheet) : List Edit → Except Fault Sheet
  | [] => .ok s
  | e :: edits =>
    match s.setCell e with
    | ⟨u, .ok _⟩ => u.setInTurn edits
    | ⟨_, .error f⟩ => .error f

/-- Every address of the edits may be used, and every text can be read. -/
structure Writable (lang : Language) (edits : List Edit) (checked : List (Address × Option Text)) :
    Prop where
  resolve : resolveAll edits = .ok checked
  accepts : ∀ edit ∈ checked, lang.Accepts edit.2

theorem writable_nil : Writable lang [] [] :=
  ⟨rfl, by simp⟩

theorem writable_cons_iff : Writable lang (e :: edits) checked ↔
    ∃ a rest, e.target.resolve = .ok a ∧ lang.Accepts e.raw ∧ Writable lang edits rest ∧
      checked = (a, e.raw) :: rest := by
  constructor
  · rintro ⟨hresolve, haccepts⟩
    rw [resolveAll_cons] at hresolve
    obtain ⟨a, ha, hresolve⟩ := bind_eq_ok.1 hresolve
    obtain ⟨rest, hrest, hchecked⟩ := bind_eq_ok.1 hresolve
    cases hchecked
    exact ⟨a, rest, ha, haccepts _ List.mem_cons_self,
      ⟨hrest, fun edit hedit => haccepts edit (List.mem_cons_of_mem _ hedit)⟩, rfl⟩
  · rintro ⟨a, rest, ha, hraw, ⟨hrest, haccepts⟩, rfl⟩
    refine ⟨?_, List.forall_mem_cons.2 ⟨hraw, haccepts⟩⟩
    rw [resolveAll_cons, ha, hrest]
    rfl

/-! ## Values -/

theorem value_eq_of_raw?_eq (hkeeps : lang.KeepsToArguments) (hs : Reached lang s)
    (ht : Reached lang t) (hraw : s.grid.raw? = t.grid.raw?) (a : Address) :
    s.grid.value a = t.grid.value a := by
  obtain ⟨-, hlang⟩ := hs.reachable.inSync
  obtain ⟨-, rfl⟩ := ht.reachable.inSync
  exact ht.upToDate.value_eq_of_raw?_eq hkeeps hs.upToDate hlang hraw a

theorem graph_eq_of_raw?_eq (hs : Reached lang s) (ht : Reached lang t)
    (hraw : s.grid.raw? = t.grid.raw?) : s.graph = t.graph := by
  obtain ⟨hsync, hlang⟩ := hs.reachable.inSync
  obtain ⟨hsync', hlang'⟩ := ht.reachable.inSync
  exact hsync.graph_eq hsync' (hlang.trans hlang'.symm) (congrFun hraw)

/-! ## Batches -/

/-- A batch succeeds exactly if its addresses may be used and its texts can be read. -/
theorem setCells_eq_of_writable (hs : Reached lang s) (h : Writable lang edits checked) :
    ∃ u changed, s.setCells edits = ⟨u, .ok changed⟩ ∧ Reached lang u ∧
      s.Updated (checked.map Prod.fst) u changed ∧
        u.grid.raw? = overwrite s.grid.raw? checked := by
  exact hs.setCells_eq_of_accepts h.resolve h.accepts

theorem writable_of_setCells (hs : Reached lang s) {changed : List Address}
    (h : (s.setCells edits).result = .ok changed) : ∃ checked, Writable lang edits checked := by
  obtain ⟨hsync, hlang⟩ := hs.reachable.inSync
  obtain ⟨checked, hresolve, hall, -⟩ := setCells_eq_ok hsync h
  exact ⟨checked, hresolve, hlang ▸ hall⟩

theorem setInTurn_eq_of_writable : ∀ {edits : List Edit} {checked : List (Address × Option Text)}
    {s : Sheet}, Reached lang s → Writable lang edits checked →
      ∃ u, s.setInTurn edits = .ok u ∧ Reached lang u ∧
        u.grid.raw? = overwrite s.grid.raw? checked
  | [], checked, s, hs, h => by
    have hchecked : checked = [] := (Except.ok.inj h.resolve).symm
    exact ⟨s, rfl, hs, by rw [hchecked]; rfl⟩
  | e :: edits, checked, s, hs, h => by
    obtain ⟨a, rest, ha, hraw, hrest, rfl⟩ := writable_cons_iff.1 h
    have hfirst : Writable lang [e] [(a, e.raw)] :=
      writable_cons_iff.2 ⟨a, [], ha, hraw, writable_nil, rfl⟩
    obtain ⟨u, changed, heq, hu, -, huraw⟩ := setCells_eq_of_writable hs hfirst
    obtain ⟨v, hv, hvreached, hvraw⟩ := setInTurn_eq_of_writable hu hrest
    refine ⟨v, ?_, hvreached, ?_⟩
    · rw [setInTurn, setCell, heq]
      exact hv
    · rw [hvraw, huraw, ← overwrite_append]
      rfl

theorem writable_of_setInTurn : ∀ {edits : List Edit} {s u : Sheet}, Reached lang s →
    s.setInTurn edits = .ok u → ∃ checked, Writable lang edits checked
  | [], _, _, _, _ => ⟨[], writable_nil⟩
  | e :: edits, s, u, hs, h => by
    rw [setInTurn] at h
    split at h
    · next v changed heq =>
      have hresult : (s.setCells [e]).result = .ok changed := congrArg Update.result heq
      obtain ⟨first, hfirst⟩ := writable_of_setCells hs hresult
      obtain ⟨a, _, ha, hraw, -, -⟩ := writable_cons_iff.1 hfirst
      obtain ⟨v', changed', heq', hv, -⟩ := setCells_eq_of_writable hs hfirst
      have hvv : v' = v := congrArg Update.sheet (heq'.symm.trans heq)
      obtain ⟨rest, hrest⟩ := writable_of_setInTurn (hvv ▸ hv) h
      exact ⟨_, writable_cons_iff.2 ⟨a, rest, ha, hraw, hrest, rfl⟩⟩
    · simp at h

/-- A batch and its edits one at a time succeed alike and lead to the same texts. -/
theorem setInTurn_spec (hkeeps : lang.KeepsToArguments) (hs : Reached lang s) (edits : List Edit) :
    ((∃ changed, (s.setCells edits).result = .ok changed) ↔ ∃ u, s.setInTurn edits = .ok u) ∧
      ∀ u, s.setInTurn edits = .ok u →
        ∀ a, u.grid.value a = (s.setCells edits).sheet.grid.value a := by
  refine ⟨⟨?_, ?_⟩, fun u hu a => ?_⟩
  · rintro ⟨changed, h⟩
    obtain ⟨checked, hw⟩ := writable_of_setCells hs h
    obtain ⟨u, hu, -⟩ := setInTurn_eq_of_writable hs hw
    exact ⟨u, hu⟩
  · rintro ⟨u, h⟩
    obtain ⟨checked, hw⟩ := writable_of_setInTurn hs h
    obtain ⟨v, changed, hv, -⟩ := setCells_eq_of_writable hs hw
    exact ⟨changed, by rw [hv]⟩
  · obtain ⟨checked, hw⟩ := writable_of_setInTurn hs hu
    obtain ⟨v, changed, hv, hvreached, -, hvraw⟩ := setCells_eq_of_writable hs hw
    obtain ⟨u', hu', hureached, huraw⟩ := setInTurn_eq_of_writable hs hw
    have huu : u' = u := Except.ok.inj (hu'.symm.trans hu)
    subst huu
    rw [hv]
    exact value_eq_of_raw?_eq hkeeps hureached hvreached (huraw.trans hvraw.symm) a

/-- Sheets with the same texts report the same of every batch: what is visited depends on the graph,
and what has changed on the values before and after. -/
theorem result_eq_of_raw?_eq (hkeeps : lang.KeepsToArguments) (hs : Reached lang s)
    (ht : Reached lang t) (hraw : s.grid.raw? = t.grid.raw?) (edits : List Edit) :
    (s.setCells edits).result = (t.setCells edits).result := by
  obtain ⟨hsync, hlang⟩ := hs.reachable.inSync
  obtain ⟨hsync', hlang'⟩ := ht.reachable.inSync
  cases hresolve : resolveAll edits with
  | error f => rw [setCells_eq_of_error hresolve, setCells_eq_of_error hresolve]
  | ok checked =>
    by_cases hall : ∀ edit ∈ checked, lang.Accepts edit.2
    · have hw : Writable lang edits checked := ⟨hresolve, hall⟩
      obtain ⟨u, changed, hu, hureached, hupdated, huraw⟩ := setCells_eq_of_writable hs hw
      obtain ⟨v, changed', hv, hvreached, hvupdated, hvraw⟩ := setCells_eq_of_writable ht hw
      have huv : u.grid.raw? = v.grid.raw? := by rw [huraw, hvraw, hraw]
      have hgraph := graph_eq_of_raw?_eq hureached hvreached huv
      have hbefore := value_eq_of_raw?_eq hkeeps hs ht hraw
      have hafter := value_eq_of_raw?_eq hkeeps hureached hvreached huv
      have hchanged : changed = changed' := by
        rw [hupdated.changed_eq, hvupdated.changed_eq, hgraph]
        exact List.filter_congr fun a _ => by rw [hbefore a, hafter a]
      rw [hu, hv, hchanged]
    · obtain ⟨_, _, _, _, _, -, -, -, -, -, hfail⟩ :=
        setCells_eq_of_not hsync hresolve (hlang ▸ hall)
      obtain ⟨_, _, _, _, _, -, -, -, -, -, hfail'⟩ :=
        setCells_eq_of_not hsync' hresolve (hlang' ▸ hall)
      rw [hfail, hfail']

/-! ## Edits of distinct cells, and edits undone -/

theorem setInTurn_swap (hkeeps : lang.KeepsToArguments) (hs : Reached lang s)
    (he : e.target.resolve = .ok a) (he' : e'.target.resolve = .ok a') (hne : a ≠ a')
    (hu : s.setInTurn [e, e'] = .ok u) :
    ∃ v, s.setInTurn [e', e] = .ok v ∧ ∀ b, u.grid.value b = v.grid.value b := by
  obtain ⟨checked, hw⟩ := writable_of_setInTurn hs hu
  obtain ⟨x, rest, hx, hraw, hrest, rfl⟩ := writable_cons_iff.1 hw
  obtain ⟨y, nothing, hy, hraw', hnothing, rfl⟩ := writable_cons_iff.1 hrest
  have hnothing : nothing = [] := (Except.ok.inj hnothing.resolve).symm
  subst hnothing
  have hxa : x = a := Except.ok.inj (hx.symm.trans he)
  have hya : y = a' := Except.ok.inj (hy.symm.trans he')
  subst hxa hya
  have hw' : Writable lang [e', e] [(y, e'.raw), (x, e.raw)] :=
    writable_cons_iff.2 ⟨y, _, hy, hraw',
      writable_cons_iff.2 ⟨x, _, hx, hraw, writable_nil, rfl⟩, rfl⟩
  obtain ⟨u', hu', hureached, huraw⟩ := setInTurn_eq_of_writable hs hw
  obtain ⟨v, hv, hvreached, hvraw⟩ := setInTurn_eq_of_writable hs hw'
  have huu : u' = u := Except.ok.inj (hu'.symm.trans hu)
  subst huu
  refine ⟨v, hv, value_eq_of_raw?_eq hkeeps hureached hvreached ?_⟩
  rw [huraw, hvraw]
  exact Function.update_comm hne _ _ _

theorem resolve_placed {target : Target} (h : target.resolve = .ok a) :
    (Target.placed a).resolve = .ok a := by
  have hcheck {b : Address} (hb : checkAddress b = .ok a) : checkAddress a = .ok a := by
    unfold checkAddress at hb
    split at hb
    · next hbounds =>
      rw [Except.ok.injEq] at hb
      subst hb
      rw [checkAddress, if_pos hbounds]
    · split at hb <;> simp at hb
  cases target with
  | named name =>
    obtain ⟨b, -, hb⟩ := bind_eq_ok.1 h
    exact hcheck hb
  | placed b => exact hcheck h

theorem setInTurn_undo (hkeeps : lang.KeepsToArguments) (hs : Reached lang s)
    (he : e.target.resolve = .ok a) {changed : List Address}
    (h : (s.setCell e).result = .ok changed) :
    ∃ u, s.setInTurn [e, ⟨.placed a, s.grid.raw? a⟩] = .ok u ∧
      ∀ b, u.grid.value b = s.grid.value b := by
  obtain ⟨hsync, hlang⟩ := hs.reachable.inSync
  obtain ⟨first, hfirst⟩ := writable_of_setCells hs h
  obtain ⟨x, _, hx, hraw, -, -⟩ := writable_cons_iff.1 hfirst
  have hxa : x = a := Except.ok.inj (hx.symm.trans he)
  subst hxa
  have hw : Writable lang [e, ⟨.placed x, s.grid.raw? x⟩]
      [(x, e.raw), (x, s.grid.raw? x)] :=
    writable_cons_iff.2 ⟨x, _, hx, hraw, writable_cons_iff.2
      ⟨x, _, resolve_placed hx, hlang ▸ hsync.grid.accepts_raw? x, writable_nil, rfl⟩, rfl⟩
  obtain ⟨u, hu, hureached, huraw⟩ := setInTurn_eq_of_writable hs hw
  refine ⟨u, hu, value_eq_of_raw?_eq hkeeps hureached hs ?_⟩
  have hheld := hsync.grid.heldText_raw? x
  simp only [huraw, overwrite, List.foldl_cons, List.foldl_nil, hheld, Function.update_idem,
    Function.update_eq_self]

/-! ## Path independence -/

/-- Sheets with the same texts have the same values and the same graph and report the same of every
batch. A batch gives the values of its edits one at a time, edits of distinct cells commute, and an
edit that is undone leaves all values as they were. The lazy functions have to keep to their
arguments, as the standard ones do. -/
theorem path_independent (hkeeps : lang.KeepsToArguments) (hs : Reached lang s)
    (ht : Reached lang t) (hraw : ∀ a, s.grid.raw? a = t.grid.raw? a) :
    (∀ a, s.grid.value a = t.grid.value a) ∧ s.graph = t.graph ∧
      (∀ edits, (s.setCells edits).result = (t.setCells edits).result) ∧
      (∀ edits,
        ((∃ changed, (s.setCells edits).result = .ok changed) ↔ ∃ u, s.setInTurn edits = .ok u) ∧
          ∀ u, s.setInTurn edits = .ok u →
            ∀ a, u.grid.value a = (s.setCells edits).sheet.grid.value a) ∧
      (∀ e e' a a', e.target.resolve = .ok a → e'.target.resolve = .ok a' → a ≠ a' →
        ∀ u, s.setInTurn [e, e'] = .ok u →
          ∃ v, s.setInTurn [e', e] = .ok v ∧ ∀ b, u.grid.value b = v.grid.value b) ∧
      ∀ e a changed, e.target.resolve = .ok a → (s.setCell e).result = .ok changed →
        ∃ u, s.setInTurn [e, ⟨.placed a, s.grid.raw? a⟩] = .ok u ∧
          ∀ b, u.grid.value b = s.grid.value b := by
  have hraw : s.grid.raw? = t.grid.raw? := funext hraw
  refine ⟨value_eq_of_raw?_eq hkeeps hs ht hraw, graph_eq_of_raw?_eq hs ht hraw,
    result_eq_of_raw?_eq hkeeps hs ht hraw, setInTurn_spec hkeeps hs, ?_, ?_⟩
  · intro e e' a a' he he' hne u hu
    exact setInTurn_swap hkeeps hs he he' hne hu
  · intro e a changed he h
    exact setInTurn_undo hkeeps hs he h

/-- Writing a text beside a cell that follows another one, and clearing it again, leaves no trace.
-/
theorem path_independent_detour : (Language.standard .usual).KeepsToArguments ∧
    ∃ (s t : Sheet), s.Follows (.number 2) ∧
      s.setInTurn [⟨.placed ⟨1, 1⟩, some "x"⟩, ⟨.placed ⟨1, 1⟩, none⟩] = .ok t ∧
      (∀ a, t.grid.value a = s.grid.value a) ∧ t.graph = s.graph := by
  have hkeeps : (Language.standard .usual).KeepsToArguments :=
    Library.isStandard_standard.keepsToArguments
  obtain ⟨s, -, -, hs, -, -⟩ := exists_follows
  have hw : Writable (.standard .usual) [⟨.placed ⟨1, 1⟩, some "x"⟩, ⟨.placed ⟨1, 1⟩, none⟩]
      [(⟨1, 1⟩, some "x"), (⟨1, 1⟩, none)] := by
    have hread : Content.read (.standard .usual) "x" = .ok (.literal (.text "x")) := rfl
    refine ⟨rfl, List.forall_mem_cons.2 ⟨accepts_of_read hread, ?_⟩⟩
    simp [Language.Accepts, heldText]
  obtain ⟨t, ht, htreached, htraw⟩ := setInTurn_eq_of_writable hs.reached hw
  have hnone : s.grid.raw? ⟨1, 1⟩ = none := by
    rw [← Option.not_isSome_iff_eq_none, Grid.isSome_raw?_iff,
      hs.reached.reachable.inSync.1.grid.paired.mem_iff,
      hs.other _ (by decide) (by decide) (by decide)]
    simp
  have hraw (a : Address) : t.grid.raw? a = s.grid.raw? a := by
    rw [htraw]
    by_cases ha : a = ⟨1, 1⟩
    · subst ha
      simp [overwrite, heldText, hnone]
    · simp [overwrite, ha]
  obtain ⟨hvalue, hgraph, -⟩ := path_independent hkeeps htreached hs.reached hraw
  exact ⟨hkeeps, s, t, hs, ht, hvalue, hgraph⟩

end Sheet

end Spreadsheet
