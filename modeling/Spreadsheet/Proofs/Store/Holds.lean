import Spreadsheet.Proofs.Snapshot.Stored

/-!
# What a store holds

A store `Holds` a sheet if a row of it keeps the sheet. A store is `Sound` if sheets can be made
again from their rows, every row keeps a sheet and every live sheet is the one of its row. Then
asking for a sheet gives the same whether it is live or not (`load_eq`), and the operations of the
store keep it sound.
-/

namespace Spreadsheet

open Std (ExtTreeMap)

namespace Store

variable {admits : Text → Prop} {st st' : Store} {id id' title : Text} {s u : Sheet}

/-- The row of an identifier keeps a sheet, whose texts are admitted. -/
structure Holds (admits : Text → Prop) (st : Store) (id : Text) (s : Sheet) : Prop where
  row : ∃ title, st.rows[id]? = some (.ofSnapshot title s.snapshot)
  reached : Sheet.Reached st.setup.language s
  allTexts : s.AllTexts admits

/-- Every row keeps a sheet, which can be made again from it, and every live sheet is the one that
its row keeps. -/
structure Sound (admits : Text → Prop) (st : Store) : Prop where
  setup : st.setup.Restores admits
  rows : ∀ id row, st.rows[id]? = some row → ∃ s, st.Holds admits id s
  live : ∀ id s, st.live[id]? = some s → st.Holds admits id s

/-- Two stores keep the same rows; other sheets may be live. -/
structure SameRows (st st' : Store) : Prop where
  setup : st.setup = st'.setup
  rows : st.rows = st'.rows
  created : st.created = st'.created

theorem SameRows.refl (st : Store) : st.SameRows st :=
  ⟨rfl, rfl, rfl⟩

theorem Holds.congr (h : st.Holds admits id s) (hsame : st.SameRows st') : st'.Holds admits id s :=
  ⟨hsame.rows ▸ h.row, hsame.setup ▸ h.reached, h.allTexts⟩

/-- The row of a sheet is read back as the snapshot of the sheet. -/
theorem Holds.snapshot_eq (h : st.Holds admits id s) (hsetup : st.setup.Restores admits) {row : Row}
    (hrow : st.rows[id]? = some row) : row.snapshot st.setup.check = .ok s.snapshot := by
  obtain ⟨title, htitle⟩ := h.row
  rw [hrow] at htitle
  cases htitle
  exact Row.snapshot_ofSnapshot hsetup h.reached.reachable.bounded h.allTexts title

/-- A row keeps one sheet. -/
theorem Holds.unique (h : st.Holds admits id s) (h' : st.Holds admits id u)
    (hsetup : st.setup.Restores admits) : s = u := by
  obtain ⟨title, hrow⟩ := h.row
  have hsnapshot := h.snapshot_eq hsetup hrow
  rw [h'.snapshot_eq hsetup hrow, Except.ok.injEq] at hsnapshot
  have hmade := Sheet.ofSnapshot_snapshot hsetup.keepsToArguments h.reached
  rw [← hsnapshot, Sheet.ofSnapshot_snapshot hsetup.keepsToArguments h'.reached,
    Except.ok.injEq] at hmade
  exact hmade.symm

/-! ## Asking for a sheet -/

theorem live_keep_self (st : Store) (id : Text) (s : Sheet) : (st.keep id s).live[id]? = some s :=
  ExtTreeMap.getElem?_insert_self

theorem live_keep_of_ne (st : Store) (s : Sheet) (h : id' ≠ id) :
    (st.keep id s).live[id']? = st.live[id']? := by
  show (st.live.insert id s)[id']? = st.live[id']?
  simp [ExtTreeMap.getElem?_insert, Ne.symm h]

theorem keep_of_live (h : st.live[id]? = some s) : st.keep id s = st := by
  have hlive : st.live.insert id s = st.live := by
    refine ExtTreeMap.ext_getElem? fun {id'} => ?_
    rw [ExtTreeMap.getElem?_insert]
    split
    · next heq => rw [← Std.LawfulEqOrd.eq_of_compare heq, h]
    · rfl
  rw [keep, hlive]

theorem Sound.load_eq (hst : st.Sound admits) (h : st.Holds admits id s) :
    st.load id = .ok (some (st.keep id s, s)) := by
  unfold load
  cases hlive : st.live[id]? with
  | some u =>
    have hu : u = s := (hst.live id u hlive).unique h hst.setup
    subst hu
    simp only [keep_of_live hlive]
  | none =>
    obtain ⟨title, hrow⟩ := h.row
    simp only [hrow]
    rw [h.snapshot_eq hst.setup hrow]
    show (Sheet.ofSnapshot st.setup.language s.snapshot >>= _) = _
    rw [Sheet.ofSnapshot_snapshot hst.setup.keepsToArguments h.reached]
    rfl

theorem Sound.load_eq_none (hst : st.Sound admits) (h : st.rows[id]? = none) :
    st.load id = .ok none := by
  unfold load
  cases hlive : st.live[id]? with
  | some u =>
    obtain ⟨title, hrow⟩ := (hst.live id u hlive).row
    rw [h] at hrow
    cases hrow
  | none => simp only [h]

/-- What a sound store gives for an identifier is what the row keeps. -/
theorem Sound.holds_of_load (hst : st.Sound admits) (h : st.load id = .ok (some (st', s))) :
    st.Holds admits id s := by
  cases hrow : st.rows[id]? with
  | none =>
    rw [hst.load_eq_none hrow] at h
    cases h
  | some row =>
    obtain ⟨u, hu⟩ := hst.rows id row hrow
    rw [hst.load_eq hu] at h
    cases h
    exact hu

/-! ## Operations -/

theorem sound_empty {setup : Setup} (h : setup.Restores admits) : (empty setup).Sound admits :=
  ⟨h, fun id row h => by simp [empty] at h, fun id s h => by simp [empty] at h⟩

/-- What is live may change as long as the rows keep it. -/
theorem Sound.of_sameRows (hst : st.Sound admits) (hsame : st.SameRows st')
    (hlive : ∀ id s, st'.live[id]? = some s → st.Holds admits id s) : st'.Sound admits := by
  refine ⟨hsame.setup ▸ hst.setup, fun id row hrow => ?_,
    fun id s hs => (hlive id s hs).congr hsame⟩
  obtain ⟨s, hs⟩ := hst.rows id row (hsame.rows ▸ hrow)
  exact ⟨s, hs.congr hsame⟩

theorem Sound.keep (hst : st.Sound admits) (h : st.Holds admits id s) :
    (st.keep id s).Sound admits := by
  refine hst.of_sameRows ⟨rfl, rfl, rfl⟩ fun id' u hu => ?_
  by_cases hid : id' = id
  · rw [hid, live_keep_self] at hu
    rw [hid, ← Option.some.inj hu]
    exact h
  · rw [live_keep_of_ne st s hid] at hu
    exact hst.live id' u hu

theorem Sound.evict (hst : st.Sound admits) (id : Text) : (st.evict id).Sound admits := by
  refine hst.of_sameRows ⟨rfl, rfl, rfl⟩ fun id' u (hu : (st.live.erase id)[id']? = some u) => ?_
  rw [ExtTreeMap.getElem?_erase] at hu
  split at hu
  · cases hu
  · exact hst.live id' u hu

/-- Keeping a sheet under an identifier, in a row and live, does not touch the others. -/
theorem Sound.put (hst : st.Sound admits) (id : Text) (hreached : Sheet.Reached st.setup.language s)
    (htexts : s.AllTexts admits) (hsetup : st'.setup = st.setup)
    (hrow : ∃ title, st'.rows[id]? = some (.ofSnapshot title s.snapshot))
    (hlive : ∀ u, st'.live[id]? = some u → u = s)
    (hother : ∀ id', id' ≠ id → st'.rows[id']? = st.rows[id']? ∧
      ∀ u, st'.live[id']? = some u → st.live[id']? = some u) : st'.Sound admits := by
  have hself : st'.Holds admits id s := ⟨hrow, hsetup ▸ hreached, htexts⟩
  have hholds {id' : Text} (hne : id' ≠ id) {u : Sheet} (h : st.Holds admits id' u) :
      st'.Holds admits id' u :=
    ⟨(hother id' hne).1 ▸ h.row, hsetup ▸ h.reached, h.allTexts⟩
  refine ⟨hsetup ▸ hst.setup, fun id' row hrow' => ?_, fun id' u hu => ?_⟩
  · by_cases hid : id' = id
    · exact ⟨s, hid ▸ hself⟩
    · rw [(hother id' hid).1] at hrow'
      obtain ⟨u, hu⟩ := hst.rows id' row hrow'
      exact ⟨u, hholds hid hu⟩
  · by_cases hid : id' = id
    · subst hid
      exact hlive u hu ▸ hself
    · exact hholds hid (hst.live id' u ((hother id' hid).2 u hu))

theorem Sound.add (hst : st.Sound admits) (hreached : Sheet.Reached st.setup.language s)
    (htexts : s.AllTexts admits) (h : st.add title s = .ok st') : st'.Sound admits := by
  unfold Store.add at h
  split at h
  · cases h
  split at h
  · cases h
    refine hst.put st.nextId hreached htexts rfl ⟨title, ?_⟩ (fun u hu => ?_)
      fun id' hid => ?_
    · exact ExtTreeMap.getElem?_insert_self
    · exact Option.some.inj (hu.symm.trans (st.live_keep_self _ s))
    · refine ⟨?_, fun u hu => (st.live_keep_of_ne s hid) ▸ hu⟩
      show (st.rows.insert st.nextId _)[id']? = _
      simp [ExtTreeMap.getElem?_insert, Ne.symm hid]
  · cases h

theorem save_keep (st : Store) (id : Text) (s : Sheet) : (st.keep id s).save id =
    { st.keep id s with rows := st.rows.modify id fun row => row.update s.snapshot } := by
  rw [save, live_keep_self]
  rfl

theorem Sound.save (hst : st.Sound admits) (h : st.Holds admits id s)
    (hreached : Sheet.Reached st.setup.language u) (htexts : u.AllTexts admits) :
    ((st.keep id u).save id).Sound admits := by
  obtain ⟨title, hrow⟩ := h.row
  rw [save_keep]
  refine hst.put id hreached htexts rfl ⟨title, ?_⟩ (fun v hv => ?_) fun id' hid => ?_
  · show (st.rows.modify id _)[id]? = _
    rw [ExtTreeMap.getElem?_modify_self, hrow]
    rfl
  · exact Option.some.inj (hv.symm.trans (st.live_keep_self id u))
  · refine ⟨?_, fun v hv => (st.live_keep_of_ne u hid) ▸ hv⟩
    show (st.rows.modify id _)[id']? = _
    simp [ExtTreeMap.getElem?_modify, Ne.symm hid]

theorem Sound.delete (hst : st.Sound admits) (id : Text) : (st.delete id).Sound admits := by
  have hother {id' : Text} (hid : id' ≠ id) : (st.delete id).rows[id']? = st.rows[id']? := by
    show (st.rows.erase id)[id']? = _
    simp [ExtTreeMap.getElem?_erase, Ne.symm hid]
  have hholds {id' : Text} (hid : id' ≠ id) {u : Sheet} (h : st.Holds admits id' u) :
      (st.delete id).Holds admits id' u :=
    ⟨hother hid ▸ h.row, h.reached, h.allTexts⟩
  refine ⟨hst.setup, fun id' row hrow => ?_,
    fun id' u (hu : (st.live.erase id)[id']? = some u) => ?_⟩
  · have hid : id' ≠ id := by
      rintro rfl
      rw [show (st.delete id').rows[id']? = none from ExtTreeMap.getElem?_erase_self] at hrow
      cases hrow
    rw [hother hid] at hrow
    obtain ⟨u, hu⟩ := hst.rows id' row hrow
    exact ⟨u, hholds hid hu⟩
  · rw [ExtTreeMap.getElem?_erase] at hu
    split at hu
    · cases hu
    · next hid =>
      refine hholds ?_ (hst.live id' u hu)
      rintro rfl
      exact hid Std.ReflCmp.compare_self

theorem Holds.retitle (hs : st.Holds admits id' s) (h : st.retitle id title = .ok st') :
    st'.Holds admits id' s := by
  unfold Store.retitle at h
  split at h
  · cases h
    obtain ⟨old, hrow⟩ := hs.row
    refine ⟨?_, hs.reached, hs.allTexts⟩
    show ∃ t, (st.rows.modify id _)[id']? = _
    rw [ExtTreeMap.getElem?_modify]
    split
    · next heq =>
      rw [Std.LawfulEqOrd.eq_of_compare heq, hrow]
      exact ⟨title, rfl⟩
    · exact ⟨old, hrow⟩
  · cases h

theorem mem_rows_retitle (h : st.retitle id title = .ok st') :
    id' ∈ st'.rows ↔ id' ∈ st.rows := by
  unfold Store.retitle at h
  split at h
  · cases h
    exact ExtTreeMap.mem_modify
  · cases h

theorem live_retitle (h : st.retitle id title = .ok st') : st'.live = st.live := by
  unfold Store.retitle at h
  split at h
  · cases h
    rfl
  · cases h

theorem setup_retitle (h : st.retitle id title = .ok st') : st'.setup = st.setup := by
  unfold Store.retitle at h
  split at h
  · cases h
    rfl
  · cases h

theorem Sound.retitle (hst : st.Sound admits) (h : st.retitle id title = .ok st') :
    st'.Sound admits := by
  refine ⟨setup_retitle h ▸ hst.setup, fun id' row hrow => ?_, fun id' s hs => ?_⟩
  · have hmem := (mem_rows_retitle h).1 (ExtTreeMap.mem_iff_isSome_getElem?.2 (by rw [hrow]; rfl))
    obtain ⟨old, hold⟩ := Option.isSome_iff_exists.1 (ExtTreeMap.mem_iff_isSome_getElem?.1 hmem)
    obtain ⟨s, hs⟩ := hst.rows id' old hold
    exact ⟨s, hs.retitle h⟩
  · rw [live_retitle h] at hs
    exact (hst.live id' s hs).retitle h

end Store

end Spreadsheet
