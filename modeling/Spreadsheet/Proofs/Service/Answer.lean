import Spreadsheet.Proofs.Store.Holds
import Spreadsheet.Service

/-!
# Answers do not depend on what is live

Sound stores with the same rows give the same answers and go on with the same rows, whichever sheets
are live in them (`alike_answer`), as long as every call that writes texts into a stored sheet
returns: a call that fails midway leaves a live sheet that is not saved.
-/

namespace Spreadsheet

open Std (ExtTreeMap)

namespace Service

/-! ## Requests -/

namespace Request

/-- The texts of a request that are to be kept with cells. -/
def texts : Request → List Text
  | create (.ok d) => d.cells.map Prod.snd
  | cell _ (.ok e) => [e.value]
  | cells _ (.ok edits) => edits.map CellEdit.value
  | style _ _ (.ok s) => s.texts
  | _ => []

/-- The sheet that a request writes texts into, and the texts. -/
def edits? : Request → Option (Text × List CellEdit)
  | cell id (.ok e) => some (id, [e])
  | cells id (.ok edits) => some (id, edits)
  | _ => none

end Request

/-- The addresses and texts of edits, if all addresses can be used. -/
def checkedEdits (edits : List CellEdit) : Except Reply (List (Address × Option Text)) :=
  edits.mapM fun e => do .ok (← address e.address, some e.value)

/-- If a request makes a call that writes texts into a stored sheet, the call returns. -/
def EditsReturn (st : Store) (r : Request) : Prop :=
  ∀ id edits, r.edits? = some (id, edits) → ∀ st' s, st.load id = .ok (some (st', s)) →
    ∀ checked, checkedEdits edits = .ok checked →
      ∃ changed, (s.applyEdits checked).result = .ok changed

theorem inBounds_of_address {t : Text} {a : Address} (h : address t = .ok a) : a.InBounds := by
  unfold address at h
  split at h
  · cases h
  · cases h
  · split at h
    · next hbounds =>
      cases h
      exact hbounds
    · cases h

theorem forall_of_checkedEdits {edits : List CellEdit} {checked : List (Address × Option Text)}
    {admits : Text → Prop}
    (h : checkedEdits edits = .ok checked) (hadmits : ∀ e ∈ edits, admits e.value) :
    ∀ edit ∈ checked, edit.1.InBounds ∧ ∀ t ∈ edit.2, admits t := by
  intro edit hedit
  obtain ⟨e, he, hitem⟩ := exists_of_forall₂ (mapM_eq_ok_iff.1 h) hedit
  obtain ⟨a, ha, heq⟩ := bind_eq_ok.1 hitem
  cases heq
  refine ⟨inBounds_of_address ha, fun t ht => ?_⟩
  cases ht
  exact hadmits e he

/-! ## Sheets -/

theorem reached_applyEdits {lang : Language} {s : Sheet} (h : Sheet.Reached lang s)
    {edits : List (Address × Option Text)} (hbounds : ∀ edit ∈ edits, edit.1.InBounds)
    {changed : List Address} (hok : (s.applyEdits edits).result = .ok changed) :
    Sheet.Reached lang (s.applyEdits edits).sheet := by
  have hset : s.setCells (edits.map fun edit => ⟨.placed edit.1, edit.2⟩) = s.applyEdits edits := by
    rw [Sheet.setCells, Sheet.resolveAll_placed_iff.2 ⟨hbounds, rfl⟩]
  rw [← hset] at hok ⊢
  exact h.setCells hok

/-! ## Answers -/

variable {admits : Text → Prop} {st st' : Store} {id : Text}

/-- Two sound stores with the same rows. -/
structure Twins (admits : Text → Prop) (st st' : Store) : Prop where
  sameRows : st.SameRows st'
  sound : st.Sound admits
  sound' : st'.Sound admits

/-- Two outcomes of a request: the same answer, and sound stores with the same rows. -/
structure Alike (admits : Text → Prop) (p p' : Store × Reply) : Prop where
  reply : p.2 = p'.2
  twins : Twins admits p.1 p'.1

namespace Twins

theorem keep (h : Twins admits st st') {s : Sheet} (hs : st.Holds admits id s) :
    Twins admits (st.keep id s) (st'.keep id s) :=
  ⟨⟨h.sameRows.setup, h.sameRows.rows, h.sameRows.created⟩, h.sound.keep hs,
    h.sound'.keep (hs.congr h.sameRows)⟩

theorem save (h : Twins admits st st') {s u : Sheet} (hs : st.Holds admits id s)
    (hreached : Sheet.Reached st.setup.language u) (htexts : u.AllTexts admits) :
    Twins admits ((st.keep id u).save id) ((st'.keep id u).save id) := by
  refine ⟨?_, h.sound.save hs hreached htexts,
    h.sound'.save (hs.congr h.sameRows) (h.sameRows.setup ▸ hreached) htexts⟩
  rw [Store.save_keep, Store.save_keep]
  refine ⟨h.sameRows.setup, ?_, h.sameRows.created⟩
  show st.rows.modify id _ = st'.rows.modify id _
  rw [h.sameRows.rows]

theorem delete (h : Twins admits st st') (id : Text) :
    Twins admits (st.delete id) (st'.delete id) :=
  ⟨⟨h.sameRows.setup, congrArg (fun rows => rows.erase id) h.sameRows.rows,
    h.sameRows.created⟩, h.sound.delete id, h.sound'.delete id⟩

theorem nextId_eq (h : Twins admits st st') : st.nextId = st'.nextId := by
  rw [Store.nextId, Store.nextId, h.sameRows.created]

theorem add (h : Twins admits st st') {s : Sheet} (hreached : Sheet.Reached st.setup.language s)
    (htexts : s.AllTexts admits) (title : Text) :
    (∃ f, st.add title s = .error f ∧ st'.add title s = .error f) ∨
      ∃ t t', st.add title s = .ok t ∧ st'.add title s = .ok t' ∧ Twins admits t t' := by
  by_cases htitle : title.IsWellFormed
  · by_cases hbounds : Store.IsBound s.rows ∧ Store.IsBound s.columns
    · have hadd (st : Store) : ∃ t, st.add title s = .ok t ∧ t.setup = st.setup ∧
          t.rows = st.rows.insert st.nextId (.ofSnapshot title s.snapshot) ∧
            t.created = st.created + 1 := by
        rw [Store.add, if_neg (not_not.2 htitle), if_pos hbounds]
        exact ⟨_, rfl, rfl, rfl, rfl⟩
      obtain ⟨t, ht, hsetup, hrows, hcreated⟩ := hadd st
      obtain ⟨t', ht', hsetup', hrows', hcreated'⟩ := hadd st'
      refine .inr ⟨t, t', ht, ht', ⟨?_, ?_, ?_⟩, h.sound.add hreached htexts ht,
        h.sound'.add (h.sameRows.setup ▸ hreached) htexts ht'⟩
      · rw [hsetup, hsetup', h.sameRows.setup]
      · rw [hrows, hrows', h.sameRows.rows, h.nextId_eq]
      · rw [hcreated, hcreated', h.sameRows.created]
    · refine .inl ⟨.boundsTooLarge, ?_, ?_⟩ <;>
        rw [Store.add, if_neg (not_not.2 htitle), if_neg hbounds]
  · refine .inl ⟨.illFormedTitle, ?_, ?_⟩ <;> rw [Store.add, if_pos htitle]

theorem withBody (h : Twins admits st st') {α : Type} (body : Checked α)
    {next next' : α → Store × Reply} (hnext : ∀ x, body = .ok x → Alike admits (next x) (next' x)) :
    Alike admits (Service.withBody st body next) (Service.withBody st' body next') := by
  cases body with
  | ok x => exact hnext x rfl
  | wrong ps => exact ⟨rfl, h⟩

theorem withSheet (h : Twins admits st st') {next next' : Store → Sheet → Store × Reply}
    (hnext : ∀ s, st.Holds admits id s → Twins admits (st.keep id s) (st'.keep id s) →
      Alike admits (next (st.keep id s) s) (next' (st'.keep id s) s)) :
    Alike admits (Service.withSheet st id next) (Service.withSheet st' id next') := by
  cases hrow : st.rows[id]? with
  | none =>
    have hload := h.sound.load_eq_none hrow
    have hload' := h.sound'.load_eq_none (h.sameRows.rows ▸ hrow)
    simp only [Service.withSheet, hload, hload']
    exact ⟨rfl, h⟩
  | some row =>
    obtain ⟨s, hs⟩ := h.sound.rows id row hrow
    have hload := h.sound.load_eq hs
    have hload' := h.sound'.load_eq (hs.congr h.sameRows)
    simp only [Service.withSheet, hload, hload']
    exact hnext s hs (h.keep hs)

theorem withAddress (h : Twins admits st st') (t : Text) {next next' : Address → Store × Reply}
    (hnext : ∀ a, address t = .ok a → Alike admits (next a) (next' a)) :
    Alike admits (Service.withAddress st t next) (Service.withAddress st' t next') := by
  unfold Service.withAddress
  cases ha : address t with
  | error reply => exact ⟨rfl, h⟩
  | ok a => exact hnext a ha

theorem sheetBody_eq (h : Twins admits st st') (id : Text) (s : Sheet) :
    sheetBody st id s = sheetBody st' id s := by
  rw [sheetBody, sheetBody, h.sameRows.rows]

/-! ### One request at a time -/

theorem create (h : Twins admits st st') {d : Draft} (hd : ∀ cell ∈ d.cells, admits cell.2) :
    Alike admits (Service.create st d) (Service.create st' d) := by
  unfold Service.create
  rw [← h.sameRows.setup]
  have hempty : Sheet.Reached st.setup.language (d.sheet st.setup) := .empty _ _
  have htexts : (d.sheet st.setup).AllTexts admits := Sheet.allTexts_empty _ _ _
  generalize d.sheet st.setup = s at hempty htexts
  have hraws : ∀ e ∈ d.cells.map fun cell => (⟨.named cell.1, some cell.2⟩ : Sheet.Edit),
      ∀ t ∈ e.raw, admits t := by
    intro e he t ht
    obtain ⟨cell, hcell, rfl⟩ := List.mem_map.1 he
    cases ht
    exact hd cell hcell
  generalize (d.cells.map fun cell => (⟨.named cell.1, some cell.2⟩ : Sheet.Edit)) = edits at hraws
  cases hresult : (s.setCells edits).result with
  | error f =>
    simp only [hresult]
    exact ⟨rfl, h⟩
  | ok changed =>
    have hu := hempty.setCells hresult
    have hut := htexts.setCells hempty.reachable.inSync.1 hraws hresult
    simp only [hresult]
    rcases h.add hu hut d.title with ⟨f, hadd, hadd'⟩ | ⟨t, t', hadd, hadd', htwins⟩
    · simp only [hadd, hadd']
      exact ⟨rfl, h⟩
    · simp only [hadd, hadd', ← h.nextId_eq, ← htwins.sheetBody_eq]
      exact ⟨rfl, htwins⟩

theorem retitle (h : Twins admits st st') (id title : Text) :
    Alike admits (Service.retitle st id title) (Service.retitle st' id title) := by
  unfold Service.retitle
  dsimp only
  split
  · exact ⟨rfl, h⟩
  cases hset : st.retitle id title.trim with
  | error f =>
    have hset' : st'.retitle id title.trim = .error f := by
      unfold Store.retitle at hset ⊢
      split at hset
      · cases hset
      · next htitle => rwa [if_neg htitle]
    simp only [hset']
    exact ⟨rfl, h⟩
  | ok t =>
    obtain ⟨t', hset', hsame⟩ : ∃ t', st'.retitle id title.trim = .ok t' ∧ t.SameRows t' := by
      unfold Store.retitle at hset ⊢
      split at hset
      · next htitle =>
        cases hset
        refine ⟨_, if_pos htitle, h.sameRows.setup, ?_, h.sameRows.created⟩
        show st.rows.modify id _ = st'.rows.modify id _
        rw [h.sameRows.rows]
      · cases hset
    simp only [hset', h.sameRows.rows]
    exact ⟨rfl, hsame, h.sound.retitle hset, h.sound'.retitle hset'⟩

theorem edit (h : Twins admits st st') {edits : List CellEdit}
    (hedits : ∀ e ∈ edits, admits e.value)
    (hreturn : ∀ st₁ s, st.load id = .ok (some (st₁, s)) → ∀ checked,
      checkedEdits edits = .ok checked → ∃ changed, (s.applyEdits checked).result = .ok changed) :
    Alike admits (Service.edit st id edits) (Service.edit st' id edits) := by
  refine h.withSheet fun s hs htwins => ?_
  cases hchecked : checkedEdits edits with
  | error reply =>
    unfold checkedEdits at hchecked
    simp only [hchecked]
    exact ⟨rfl, htwins⟩
  | ok checked =>
    have hall := forall_of_checkedEdits hchecked hedits
    obtain ⟨changed, hok⟩ := hreturn _ s (h.sound.load_eq hs) checked hchecked
    have hreached := reached_applyEdits hs.reached (fun edit hedit => (hall edit hedit).1) hok
    have htexts := hs.allTexts.applyEdits hs.reached.reachable.inSync.1
      (fun edit hedit => (hall edit hedit).2) hok
    unfold checkedEdits at hchecked
    simp only [hchecked, hok]
    exact ⟨rfl, htwins.save (hs.congr ⟨rfl, rfl, rfl⟩) hreached htexts⟩

theorem recalculate (h : Twins admits st st') (id : Text) :
    Alike admits (Service.recalculate st id) (Service.recalculate st' id) := by
  refine h.withSheet fun s hs htwins => ?_
  have hlang : s.language = st.setup.language := hs.reached.reachable.inSync.2
  have hkeeps : s.language.KeepsToArguments := hlang ▸ h.sound.setup.keepsToArguments
  simp only [hs.reached.upToDate.recalculate_eq hkeeps]
  exact ⟨rfl, htwins.keep (hs.congr ⟨rfl, rfl, rfl⟩)⟩

theorem setStyle (h : Twins admits st st') (t : Text) {style : Style}
    (hstyle : ∀ t ∈ style.texts, admits t) :
    Alike admits (Service.setStyle st id t style) (Service.setStyle st' id t style) := by
  refine h.withSheet fun s hs htwins => htwins.withAddress t fun a ha => ?_
  cases hset : s.setStyle (.placed a) style with
  | error f => cases f <;> exact ⟨rfl, htwins⟩
  | ok u =>
    exact ⟨rfl, htwins.save (hs.congr ⟨rfl, rfl, rfl⟩) (hs.reached.setStyle hset)
      (hs.allTexts.setStyle hstyle hset)⟩

theorem showRange (h : Twins admits st st') (id start : Text) (stop : Option Text) :
    Alike admits (Service.showRange st id start stop) (Service.showRange st' id start stop) :=
  h.withSheet fun _ _ htwins => htwins.withAddress start fun _ _ =>
    htwins.withAddress _ fun _ _ => ⟨rfl, htwins⟩

end Twins

/-- Sound stores with the same rows answer a request alike and go on alike. -/
theorem alike_answer (h : Twins admits st st') {r : Request} (hr : ∀ t ∈ r.texts, admits t)
    (hedits : EditsReturn st r) : Alike admits (answer st r) (answer st' r) := by
  cases r with
  | create body =>
    refine h.withBody _ fun d hd => h.create ?_
    subst hd
    exact List.forall_mem_map.1 hr
  | list => exact ⟨by rw [answer, answer, Store.titles, Store.titles, h.sameRows.rows], h⟩
  | get id => exact h.withSheet fun s _ htwins => ⟨htwins.sheetBody_eq id s, htwins⟩
  | delete id =>
    refine ⟨?_, h.delete id⟩
    rw [answer, answer, delete, delete, h.sameRows.rows]
  | title id body => exact h.withBody _ fun title _ => h.retitle id title
  | cell id body =>
    refine h.withBody _ fun e he => ?_
    subst he
    exact h.edit (List.forall_mem_map.1 hr) (hedits id [e] rfl)
  | cells id body =>
    refine h.withBody _ fun edits he => ?_
    subst he
    exact h.edit (List.forall_mem_map.1 hr) (hedits id edits rfl)
  | recalculate id => exact h.recalculate id
  | getCell id text =>
    exact h.withSheet fun _ _ htwins => htwins.withAddress text fun _ _ => ⟨rfl, htwins⟩
  | style id text body =>
    refine h.withBody _ fun style hstyle => ?_
    subst hstyle
    exact h.setStyle text hr
  | range id start stop => exact h.showRange id start stop
  | formulas query => exact ⟨by rw [answer, answer, h.sameRows.setup], h⟩

end Service

end Spreadsheet
