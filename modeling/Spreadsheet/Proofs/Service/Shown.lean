import Spreadsheet.Proofs.Evaluation.Origins
import Spreadsheet.Proofs.Service.Answer
import Spreadsheet.Proofs.Sheet.Faults

/-!
# What replies show

As long as every live sheet is in sync, every cell can be shown: a request keeps the live sheets in
sync, whether it succeeds or not, and it never fails for want of a text (`shows_answer`).
-/

namespace Spreadsheet

open Std (ExtTreeMap)

/-! ## Cells -/

theorem OperationFault.not_lacksText {f : Fault} (h : OperationFault f) : ¬ f.LacksText := by
  cases h <;> simp [Fault.LacksText]

namespace Sheet

variable {s : Sheet}

theorem value_cellAt (s : Sheet) (a : Address) : (s.cellAt a).value = s.grid.value a := by
  rw [cellAt, ExtTreeMap.getD_eq_getD_getElem?, Grid.value]
  cases s.grid.cells[a]? <;> rfl

theorem InSync.exists_ofSheet (hs : s.InSync) (a : Address) :
    ∃ view, Service.CellView.ofSheet s a = .ok view := by
  obtain ⟨shown, hshown⟩ := hs.grid.displayable a
  rw [← value_cellAt] at hshown
  exact ⟨_, bind_eq_ok.2 ⟨shown, hshown, rfl⟩⟩

theorem InSync.exists_views (hs : s.InSync) (as : List Address) :
    ∃ views, as.mapM (Service.CellView.ofSheet s) = .ok views := by
  cases hviews : as.mapM (Service.CellView.ofSheet s) with
  | ok views => exact ⟨views, rfl⟩
  | error f =>
    obtain ⟨-, a, -, -, -, ha⟩ := exists_of_mapM_eq_error hviews
    obtain ⟨view, hview⟩ := hs.exists_ofSheet a
    rw [hview] at ha
    cases ha

end Sheet

/-! ## Live sheets -/

namespace Store

variable {st st' : Store} {id title : Text} {s : Sheet} {f : Fault}

/-- Every live sheet is in sync and of the language of the store. -/
def LiveInSync (st : Store) : Prop :=
  ∀ (id : Text) (s : Sheet), st.live[id]? = some s → s.InSync ∧ s.language = st.setup.language

theorem liveInSync_of_live_eq_empty (h : st.live = ∅) : st.LiveInSync := by
  intro id s hs
  simp [h] at hs

theorem LiveInSync.congr (h : st.LiveInSync) (hlive : st'.live = st.live)
    (hsetup : st'.setup = st.setup) : st'.LiveInSync := by
  intro id s hs
  rw [hlive] at hs
  exact hsetup ▸ h id s hs

theorem LiveInSync.keep (h : st.LiveInSync) (hs : s.InSync ∧ s.language = st.setup.language)
    (id : Text) : (st.keep id s).LiveInSync := by
  intro id' u hu
  by_cases hid : id' = id
  · subst hid
    rw [live_keep_self] at hu
    exact Option.some.inj hu ▸ hs
  · rw [live_keep_of_ne st s hid] at hu
    exact h id' u hu

theorem LiveInSync.evict (h : st.LiveInSync) (id : Text) : (st.evict id).LiveInSync := by
  intro id' s (hs : (st.live.erase id)[id']? = some s)
  rw [ExtTreeMap.getElem?_erase] at hs
  split at hs
  · cases hs
  · exact h id' s hs

theorem LiveInSync.delete (h : st.LiveInSync) (id : Text) : (st.delete id).LiveInSync :=
  (h.evict id).congr rfl rfl

theorem LiveInSync.save (h : st.LiveInSync) (id : Text) : (st.save id).LiveInSync := by
  unfold Store.save
  split
  · exact h
  · exact h.congr rfl rfl

theorem LiveInSync.add (h : st.LiveInSync) (hs : s.InSync ∧ s.language = st.setup.language)
    (hadd : st.add title s = .ok st') : st'.LiveInSync := by
  unfold Store.add at hadd
  split at hadd
  · cases hadd
  · split at hadd
    · cases hadd
      exact (h.keep hs st.nextId).congr rfl rfl
    · cases hadd

theorem LiveInSync.retitle (h : st.LiveInSync) (hset : st.retitle id title = .ok st') :
    st'.LiveInSync := by
  unfold Store.retitle at hset
  split at hset
  · cases hset
    exact h.congr rfl rfl
  · cases hset

/-- A sheet that is asked for is live, or it is made from its row. -/
theorem LiveInSync.load (h : st.LiveInSync) (hload : st.load id = .ok (some (st', s))) :
    st'.LiveInSync ∧ s.InSync ∧ s.language = st'.setup.language := by
  unfold Store.load at hload
  split at hload
  · next hlive =>
    cases hload
    exact ⟨h, h id s hlive⟩
  · split at hload
    · cases hload
    · obtain ⟨d, -, hload⟩ := bind_eq_ok.1 hload
      obtain ⟨u, hu, hload⟩ := bind_eq_ok.1 hload
      cases hload
      obtain ⟨hsync, hlang, -⟩ := Sheet.ofSnapshot_eq_ok hu
      exact ⟨h.keep ⟨hsync, hlang⟩ id, hsync, hlang⟩

theorem not_lacksText_of_snapshot {row : Row} {check : CellsCheck}
    (h : row.snapshot check = .error f) : ¬ f.LacksText := by
  rcases bind_eq_error.1 h with hcells | ⟨cells, -, hok⟩
  · unfold Snapshot.readCells at hcells
    split at hcells
    · cases hcells
      simp [Fault.LacksText]
    · unfold Checked.toExcept at hcells
      split at hcells
      · cases hcells
      · cases hcells
        simp [Fault.LacksText]
  · cases hok

theorem not_lacksText_of_load (h : st.load id = .error f) : ¬ f.LacksText := by
  unfold load at h
  split at h
  · cases h
  · split at h
    · cases h
    · rcases bind_eq_error.1 h with hsnapshot | ⟨d, -, h⟩
      · exact not_lacksText_of_snapshot hsnapshot
      · rcases bind_eq_error.1 h with hmade | ⟨u, -, hok⟩
        · exact (Sheet.operationFault_of_ofSnapshot hmade).not_lacksText
        · cases hok

theorem not_lacksText_of_add (h : st.add title s = .error f) : ¬ f.LacksText := by
  unfold add at h
  split at h
  · cases h
    simp [Fault.LacksText]
  · split at h
    · cases h
    · cases h
      simp [Fault.LacksText]

theorem not_lacksText_of_retitle (h : st.retitle id title = .error f) : ¬ f.LacksText := by
  unfold retitle at h
  split at h
  · cases h
  · cases h
    simp [Fault.LacksText]

end Store

namespace Service

variable {st : Store} {s : Sheet}

/-! ## Replies -/

/-- The fault that a reply tells of. -/
def Reply.fault? : Reply → Option Fault
  | .fault f | .refused (.unusable f) => some f
  | _ => none

/-- A reply does not tell of a number without a text. -/
def Reply.HasTexts (reply : Reply) : Prop :=
  ∀ f ∈ reply.fault?, ¬ f.LacksText

theorem Reply.hasTexts_of_fault?_eq_none {reply : Reply} (h : reply.fault? = none) :
    reply.HasTexts := by
  simp [HasTexts, h]

theorem Reply.hasTexts_ofFault {f : Fault} (h : ¬ f.LacksText) : (Reply.ofFault f).HasTexts := by
  intro g hg
  unfold ofFault at hg
  split at hg <;> cases hg <;> exact h

/-- A request leaves the live sheets in sync, and its reply does not tell of a number without a
text. -/
structure Shows (outcome : Store × Reply) : Prop where
  live : outcome.1.LiveInSync
  reply : outcome.2.HasTexts

theorem Shows.of_fault?_eq_none (h : st.LiveInSync) {reply : Reply} (hreply : reply.fault? = none) :
    Shows (st, reply) :=
  ⟨h, Reply.hasTexts_of_fault?_eq_none hreply⟩

theorem Shows.fault (h : st.LiveInSync) {f : Fault} (hf : ¬ f.LacksText) :
    Shows (st, .fault f) :=
  ⟨h, fun g hg => by cases hg; exact hf⟩

theorem Shows.ofFault (h : st.LiveInSync) {f : Fault} (hf : ¬ f.LacksText) :
    Shows (st, .ofFault f) :=
  ⟨h, Reply.hasTexts_ofFault hf⟩

theorem hasTexts_sheetBody (hs : s.InSync) (st : Store) (id : Text) :
    (sheetBody st id s).HasTexts := by
  obtain ⟨views, hviews⟩ := hs.exists_views s.grid.cells.keys
  refine Reply.hasTexts_of_fault?_eq_none ?_
  unfold sheetBody
  split
  · rfl
  · rw [hviews]
    rfl

theorem hasTexts_editedBody (hs : s.InSync) (changed : List Address) :
    (editedBody s changed).HasTexts := by
  obtain ⟨views, hviews⟩ := hs.exists_views changed
  refine Reply.hasTexts_of_fault?_eq_none ?_
  rw [editedBody, hviews]
  rfl

theorem hasTexts_cellBody (hs : s.InSync) (a : Address) : (cellBody s a).HasTexts := by
  obtain ⟨view, hview⟩ := hs.exists_ofSheet a
  refine Reply.hasTexts_of_fault?_eq_none ?_
  rw [cellBody, hview]
  rfl

theorem hasTexts_of_address {t : Text} {reply : Reply} (h : address t = .error reply) :
    reply.HasTexts := by
  unfold address at h
  split at h
  · next hparse =>
    cases h
    rintro f ⟨⟩
    exact (Address.operationFault_of_parse hparse).not_lacksText
  · next hparse =>
    cases h
    rintro f ⟨⟩
    exact (Address.operationFault_of_parse hparse).not_lacksText
  · split at h
    · cases h
    · cases h
      exact Reply.hasTexts_of_fault?_eq_none rfl

/-! ## Parts of requests -/

theorem Shows.withBody (h : st.LiveInSync) {α : Type} (body : Checked α) {next : α → Store × Reply}
    (hnext : ∀ x, Shows (next x)) : Shows (withBody st body next) := by
  cases body with
  | ok x => exact hnext x
  | wrong ps => exact .of_fault?_eq_none h rfl

theorem Shows.withSheet (h : st.LiveInSync) (id : Text) {next : Store → Sheet → Store × Reply}
    (hnext : ∀ st s, st.LiveInSync → s.InSync ∧ s.language = st.setup.language →
      Shows (next st s)) :
    Shows (withSheet st id next) := by
  unfold Service.withSheet
  split
  · next hload => exact .fault h (Store.not_lacksText_of_load hload)
  · exact .of_fault?_eq_none h rfl
  · next hload =>
    obtain ⟨hlive, hs⟩ := h.load hload
    exact hnext _ _ hlive hs

theorem Shows.withAddress (h : st.LiveInSync) (t : Text) {next : Address → Store × Reply}
    (hnext : ∀ a, Shows (next a)) : Shows (withAddress st t next) := by
  unfold Service.withAddress
  split
  · next haddress => exact ⟨h, hasTexts_of_address haddress⟩
  · exact hnext _

/-! ## Requests -/

theorem shows_create (h : st.LiveInSync) (d : Draft) : Shows (create st d) := by
  have hempty : (d.sheet st.setup).InSync := Sheet.inSync_empty _ _ _
  have hset := Sheet.inSync_setCells hempty
  unfold create
  dsimp only
  split
  · next hresult =>
    exact .ofFault h (Sheet.operationFault_of_setCells hempty hresult).not_lacksText
  · split
    · next hadd => exact .ofFault h (Store.not_lacksText_of_add hadd)
    · next hadd => exact ⟨h.add (hset _) hadd, hasTexts_sheetBody (hset _).1 _ _⟩

theorem shows_delete (h : st.LiveInSync) (id : Text) : Shows (delete st id) := by
  refine .of_fault?_eq_none (h.delete id) ?_
  split <;> rfl

theorem shows_retitle (h : st.LiveInSync) (id title : Text) : Shows (retitle st id title) := by
  unfold retitle
  dsimp only
  split
  · exact .of_fault?_eq_none h rfl
  · split
    · next hset => exact .fault h (Store.not_lacksText_of_retitle hset)
    · next hset =>
      refine .of_fault?_eq_none (h.retitle hset) ?_
      split <;> rfl

theorem hasTexts_of_checkedEdits {edits : List CellEdit} {reply : Reply}
    (h : checkedEdits edits = .error reply) : reply.HasTexts := by
  obtain ⟨-, e, -, -, -, he⟩ := exists_of_mapM_eq_error h
  rcases bind_eq_error.1 he with haddress | ⟨a, -, hok⟩
  · exact hasTexts_of_address haddress
  · cases hok

/-- An edit that fails midway keeps the sheet as far as it was written, which is in sync. -/
theorem shows_edit (h : st.LiveInSync) (id : Text) (edits : List CellEdit) :
    Shows (edit st id edits) := by
  refine .withSheet h id fun st s hlive hs => ?_
  split
  · next hchecked => exact ⟨hlive, hasTexts_of_checkedEdits hchecked⟩
  · next checked _ =>
    obtain ⟨hsync, hlang⟩ := Sheet.inSync_applyEdits hs.1 checked
    have hkeep := hlive.keep ⟨hsync, hlang.trans hs.2⟩ id
    dsimp only
    split
    · next hresult =>
      exact .ofFault hkeep (Sheet.operationFault_of_applyEdits hs.1 hresult).not_lacksText
    · exact ⟨hkeep.save id, hasTexts_editedBody hsync _⟩

theorem shows_recalculate (h : st.LiveInSync) (id : Text) : Shows (recalculate st id) := by
  refine .withSheet h id fun st s hlive hs => ?_
  obtain ⟨u, changed, hu, hupdated, -⟩ := Sheet.recalculate_eq hs.1
  rw [hu]
  exact ⟨hlive.keep ⟨hupdated.inSync, hupdated.language.trans hs.2⟩ id,
    hasTexts_editedBody hupdated.inSync _⟩

theorem shows_setStyle (h : st.LiveInSync) (id t : Text) (style : Style) :
    Shows (setStyle st id t style) := by
  refine .withSheet h id fun st s hlive hs => .withAddress hlive t fun a => ?_
  split
  · exact .of_fault?_eq_none hlive rfl
  · next hset => exact .fault hlive (Sheet.operationFault_of_setStyle hset).not_lacksText
  · next hset =>
    obtain ⟨g, hg, rfl⟩ := Sheet.setStyle_eq_ok hset
    have hsync := hs.1.restyled hg
    exact ⟨(hlive.keep ⟨hsync, hs.2⟩ id).save id, hasTexts_cellBody hsync a⟩

theorem shows_showRange (h : st.LiveInSync) (id start : Text) (stop : Option Text) :
    Shows (showRange st id start stop) :=
  .withSheet h id fun _ _ hlive _ => .withAddress hlive start fun _ => .withAddress hlive _ fun _ =>
    .of_fault?_eq_none hlive rfl

/-- Every request leaves the live sheets in sync, and no reply tells of a number without a text. -/
theorem shows_answer (h : st.LiveInSync) (r : Request) : Shows (answer st r) := by
  cases r with
  | create body => exact .withBody h _ (shows_create h)
  | list => exact .of_fault?_eq_none h rfl
  | get id => exact .withSheet h id fun st s hlive hs => ⟨hlive, hasTexts_sheetBody hs.1 st id⟩
  | delete id => exact shows_delete h id
  | title id body => exact .withBody h _ (shows_retitle h id)
  | cell id body => exact .withBody h _ fun e => shows_edit h id [e]
  | cells id body => exact .withBody h _ (shows_edit h id)
  | recalculate id => exact shows_recalculate h id
  | getCell id text =>
    exact .withSheet h id fun st s hlive hs => .withAddress hlive text fun a =>
      ⟨hlive, hasTexts_cellBody hs.1 a⟩
  | style id text body => exact .withBody h _ (shows_setStyle h id text)
  | range id start stop => exact shows_showRange h id start stop
  | formulas query => exact .of_fault?_eq_none h rfl

end Service

end Spreadsheet
