import Spreadsheet.Proofs.Sheet.Operation

/-!
# How an operation can fail

An operation on a sheet in sync ends with a fault only if an address may not be used or names no
cell, or if a row number is too long (`operationFault_of_perform`). Nothing that is computed fails.
-/

namespace Spreadsheet

/-- The faults that an operation on a sheet can end with. -/
inductive OperationFault : Fault → Prop where
  | badReference (t : Text) : OperationFault (.formula (.badReference (.address t)))
  | numeralTooLong : OperationFault .numeralTooLong
  | outOfBounds (a : Address) : OperationFault (.outOfBounds a)
  | emptyCell (a : Address) : OperationFault (.emptyCell a)
  | badStoredAddress (key : Text) : OperationFault (.badStoredAddress key)

/-! ## Addresses -/

theorem Address.eq_of_decode_eq_error {t : Text} {f : Fault} (h : decode t = .error f) :
    f = .numeralTooLong := by
  unfold decode at h
  split at h
  split at h
  · cases h
  · split at h
    · cases h
      rfl
    · cases h

theorem Address.operationFault_of_parse {t : Text} {f : Fault} (h : parse t = .error f) :
    OperationFault f := by
  rcases bind_eq_error.1 h with hdecode | ⟨a?, -, hnone⟩
  · rw [eq_of_decode_eq_error hdecode]
    exact .numeralTooLong
  · cases a? with
    | none =>
      cases hnone
      exact .badReference t
    | some a => cases hnone

namespace Sheet

variable {s : Sheet} {f : Fault}

theorem operationFault_of_checkAddress {a : Address} (h : checkAddress a = .error f) :
    OperationFault f := by
  unfold checkAddress at h
  split at h
  · cases h
  · split at h
    · cases h
      exact .numeralTooLong
    · cases h
      exact .outOfBounds a

theorem operationFault_of_resolve {t : Target} (h : t.resolve = .error f) : OperationFault f := by
  cases t with
  | placed a => exact operationFault_of_checkAddress h
  | named t =>
    rcases bind_eq_error.1 h with hparse | ⟨a, -, hcheck⟩
    · exact Address.operationFault_of_parse hparse
    · exact operationFault_of_checkAddress hcheck

theorem operationFault_of_resolveAll {edits : List Edit} (h : resolveAll edits = .error f) :
    OperationFault f := by
  obtain ⟨-, e, -, -, -, he⟩ := exists_of_mapM_eq_error h
  rcases bind_eq_error.1 he with hresolve | ⟨a, -, hok⟩
  · exact operationFault_of_resolve hresolve
  · cases hok

theorem operationFault_of_keyAddress {key : Text} (h : Snapshot.keyAddress key = .error f) :
    OperationFault f := by
  rcases bind_eq_error.1 h with hdecode | ⟨a?, -, hnone⟩
  · rw [Address.eq_of_decode_eq_error hdecode]
    exact .numeralTooLong
  · cases a? with
    | none =>
      cases hnone
      exact .badStoredAddress key
    | some a => cases hnone

/-! ## Operations -/

theorem operationFault_of_applyEdits (h : s.InSync) {edits : List (Address × Option Text)}
    (hf : (s.applyEdits edits).result = .error f) : OperationFault f := by
  rcases accepts_or_exists s.language edits with hall | ⟨accepted, a, raw, later, rfl, hacc, hraw⟩
  · obtain ⟨u, changed, hu, -⟩ := applyEdits_eq h hall
    rw [hu] at hf
    cases hf
  · obtain ⟨w, -, -, hfail⟩ := applyEdits_eq_of_not h a later hacc hraw
    rw [hfail] at hf
    cases hf
    exact .numeralTooLong

theorem operationFault_of_setCells (h : s.InSync) {edits : List Edit}
    (hf : (s.setCells edits).result = .error f) : OperationFault f := by
  rw [setCells] at hf
  cases hresolve : resolveAll edits with
  | error f' =>
    rw [hresolve] at hf
    cases hf
    exact operationFault_of_resolveAll hresolve
  | ok checked =>
    rw [hresolve] at hf
    exact operationFault_of_applyEdits h hf

theorem operationFault_of_setStyle {t : Target} {style : Style}
    (hf : s.setStyle t style = .error f) : OperationFault f := by
  rcases bind_eq_error.1 hf with hresolve | ⟨a, -, hempty⟩
  · exact operationFault_of_resolve hresolve
  · split at hempty
    · cases hempty
    · cases hempty
      exact .emptyCell a

theorem operationFault_of_ofSnapshot {lang : Language} {d : Snapshot}
    (hf : ofSnapshot lang d = .error f) : OperationFault f := by
  rcases bind_eq_error.1 hf with haddressed | ⟨cells, -, hf⟩
  · obtain ⟨-, cell, -, -, -, hcell⟩ := exists_of_mapM_eq_error haddressed
    rcases bind_eq_error.1 hcell with hkey | ⟨a, -, hok⟩
    · exact operationFault_of_keyAddress hkey
    · cases hok
  · rcases bind_eq_error.1 hf with hresolve | ⟨edits, -, hf⟩
    · exact operationFault_of_resolveAll hresolve
    · dsimp only at hf
      split at hf
      · next hresult =>
        cases hf
        exact operationFault_of_applyEdits (inSync_empty lang d.rows d.columns) hresult
      · cases hf

theorem Update.ended_snd_eq_some {u : Update} : u.ended.2 = some f ↔ u.result = .error f := by
  unfold ended
  split <;> simp_all

theorem operationFault_of_perform (h : s.InSync) {op : Operation}
    (hf : (s.perform op).2 = some f) : OperationFault f := by
  cases op with
  | setCell e => exact operationFault_of_setCells h (Update.ended_snd_eq_some.1 hf)
  | setCells edits => exact operationFault_of_setCells h (Update.ended_snd_eq_some.1 hf)
  | setStyle target style =>
    rw [perform] at hf
    split at hf
    · cases hf
    · next hstyle =>
      cases hf
      exact operationFault_of_setStyle hstyle
  | recalculate =>
    obtain ⟨u, changed, hu, -⟩ := recalculate_eq h
    have hresult := Update.ended_snd_eq_some.1 hf
    rw [hu] at hresult
    cases hresult
  | load d =>
    rw [perform] at hf
    split at hf
    · cases hf
    · next hload =>
      cases hf
      exact operationFault_of_ofSnapshot hload

end Sheet

end Spreadsheet
