import Spreadsheet.Proofs.Formula.Names
import Spreadsheet.Proofs.Sheet.Operation

/-!
# Batches that fail

A batch with an address that may not be used changes nothing. But its texts are read one by one
while they are written, and a text that cannot be read, which is a formula with a row number of more
than `Decimal.maxDigits` digits, ends the batch when the texts before it stand in their cells
already. `fails_and_changes_iff` says exactly when a batch that fails has changed the sheet.
-/

namespace Spreadsheet

/-! ## Row numbers that are too long -/

/-- The digits of a row number that is written with ones only. -/
def ones (n : Nat) : Text :=
  List.replicate n (.char '1')

theorem upper_ones (n : Nat) : Text.upper (ones n) = ones n := by
  induction n with
  | zero => rfl
  | succ n ih =>
    have hone : Text.upperPoint (.char '1') = [.char '1'] := by decide
    rw [ones, List.replicate_succ, Text.upper_cons, hone, ← ones, ih]
    rfl

theorem isNamePart_of_mem_ones {n : Nat} {c : CodePoint} (h : c ∈ ones n) :
    Token.isNamePart c = true := by
  rw [List.eq_of_mem_replicate h]
  decide

theorem not_isBlank_of_mem_ones {n : Nat} {c : CodePoint}
    (h : c ∈ (.char '=' :: .char 'A' :: ones n : Text)) : Text.isBlank c = false := by
  rcases List.mem_cons.1 h with rfl | h
  · decide
  · rcases List.mem_cons.1 h with rfl | h
    · decide
    · exact Token.not_isBlank_of_isNamePart (isNamePart_of_mem_ones h)

theorem splitName_ones (n : Nat) :
    Address.splitName (.char 'A' :: ones n) = ([.char 'A'], ones n) := by
  have hupper : Text.upper (.char 'A' :: ones n) = .char 'A' :: ones n := by
    rw [Text.upper_cons, upper_ones]
    rfl
  have hletter : Column.isLetter (.char 'A') = true := by decide
  have hdigit : Column.isLetter (.char '1') = false := by decide
  rw [Address.splitName, hupper]
  cases n <;> simp [Text.cut, ones, List.replicate_succ, hletter, hdigit]

theorem decode_ones {n : Nat} (hn : Decimal.maxDigits < n) :
    Address.decode (.char 'A' :: ones n) = .error .numeralTooLong := by
  have hrow : Address.isRowNumber (ones n) = true := by
    cases n with
    | zero => simp at hn
    | succ n =>
      have hdigit : Address.isRowDigit (.char '1') = true := by decide
      have hzero : (CodePoint.char '1' != CodePoint.char '0') = true := by decide
      simp [Address.isRowNumber, ones, List.replicate_succ, hdigit, hzero]
  have hlength : (ones n).length = n := List.length_replicate
  simp [Address.decode, splitName_ones, hrow, hlength, hn]

theorem named_ones {isFunction : Text → Bool} {expression : Formula.Reader} {n : Nat}
    (hn : Decimal.maxDigits < n) :
    Formula.named isFunction expression ⟨.name, .char 'A' :: ones n, 0⟩ [] =
      .error .numeralTooLong := by
  have hshape : Address.hasReferenceShape (.char 'A' :: ones n) = true := by
    have hdigit : Address.isRowDigit (.char '1') = true := by decide
    have hn : n ≠ 0 := by
      rintro rfl
      simp at hn
    rw [Address.hasReferenceShape, splitName_ones]
    simp [ones, hdigit, hn]
  have haddress : Formula.address ⟨.name, .char 'A' :: ones n, 0⟩ = .error .numeralTooLong := by
    rw [Formula.address, decode_ones hn]
  rw [Formula.named, if_neg (by simp [Formula.startsWith]), if_pos hshape, Formula.reference,
    haddress]

theorem parse_ones {limit : NestingLimit} {isFunction : Text → Bool} {n : Nat}
    (hn : Decimal.maxDigits < n) :
    Formula.parse limit isFunction (.char '=' :: .char 'A' :: ones n) =
      .error .numeralTooLong :=
  Formula.parse_name (by decide) (fun _ => isNamePart_of_mem_ones) fun _ => named_ones hn

theorem not_accepts_ones (lang : Language) {n : Nat} (hn : Decimal.maxDigits < n) :
    ¬ lang.Accepts (some (.char '=' :: .char 'A' :: ones n)) := by
  have hblank : ¬ Text.IsBlank (.char '=' :: .char 'A' :: ones n) := fun h =>
    absurd (h (.char '=') List.mem_cons_self) (by decide)
  intro h
  obtain ⟨content, hcontent⟩ := h _ (heldText_of_not_isBlank hblank)
  rw [Content.read, Text.trim_eq_self fun _ => not_isBlank_of_mem_ones, List.head?_cons,
    if_pos rfl, Content.readFormula, parse_ones hn] at hcontent
  simp at hcontent

/-! ## What a batch that fails has done -/

/-- The texts of a batch that are written before it ends. -/
def Language.readable (lang : Language) (edits : List (Address × Option Text)) :
    List (Address × Option Text) :=
  edits.takeWhile fun edit => lang.Accepts edit.2

theorem Language.readable_pair {lang : Language} {edit edit' : Address × Option Text}
    (h : lang.Accepts edit.2) (hnot : ¬ lang.Accepts edit'.2) :
    lang.readable [edit, edit'] = [edit] := by
  rw [readable, List.takeWhile_cons_of_pos (by simpa using h),
    List.takeWhile_cons_of_neg (by simpa using hnot)]

namespace Sheet

/-- The sheet into which texts have been written one after the other. Nothing is computed. -/
def written (s : Sheet) (edits : List (Address × Option Text)) : Sheet :=
  (Written.writeAll ⟨s, ∅⟩ edits).1.sheet

variable {lang : Language} {s : Sheet} {edits : List Edit} {checked : List (Address × Option Text)}

theorem raw?_written (h : s.InSync) (hall : ∀ edit ∈ checked, s.language.Accepts edit.2) :
    (s.written checked).grid.raw? = overwrite s.grid.raw? checked := by
  obtain ⟨w, hw, hentered⟩ := Entered.writeAll_eq hall (.nil h)
  rw [written, hw, hentered.raw?_eq, List.nil_append]

theorem setCells_eq_written (h : Reachable lang s) (hresolve : resolveAll edits = .ok checked)
    (hnot : ¬ ∀ edit ∈ checked, lang.Accepts edit.2) :
    s.setCells edits = ⟨s.written (lang.readable checked), .error .numeralTooLong⟩ := by
  obtain ⟨hsync, hlang⟩ := h.inSync
  obtain ⟨accepted, a, raw, later, w, rfl, hacc, hraw, hw, -, hfail⟩ :=
    setCells_eq_of_not hsync hresolve (hlang ▸ hnot)
  rw [hlang] at hacc hraw
  have hreadable : lang.readable (accepted ++ (a, raw) :: later) = accepted := by
    rw [Language.readable, List.takeWhile_append_of_pos (by simpa using hacc),
      List.takeWhile_cons_of_neg (by simpa using hraw), List.append_nil]
  rw [hfail, hreadable, written, hw]

/-- A batch that fails tells nobody, and leaves the sheet as it was unless all of its addresses may
be used. It then ended at the first text that cannot be read; what stands before that text has been
written, and the sheet has changed exactly if that changes it. -/
theorem fails_and_changes_iff (h : Reachable lang s) (edits : List Edit) :
    (∀ f, (s.setCells edits).result = .error f → (s.setCells edits).notifications = []) ∧
    (∀ f, resolveAll edits = .error f → s.setCells edits = ⟨s, .error f⟩) ∧
    (∀ checked, resolveAll edits = .ok checked → (∀ edit ∈ checked, lang.Accepts edit.2) →
      ∃ changed, (s.setCells edits).result = .ok changed) ∧
    (∀ checked, resolveAll edits = .ok checked → (¬ ∀ edit ∈ checked, lang.Accepts edit.2) →
      s.setCells edits = ⟨s.written (lang.readable checked), .error .numeralTooLong⟩) ∧
    (((∃ f, (s.setCells edits).result = .error f) ∧ (s.setCells edits).sheet ≠ s) ↔
      ∃ checked, resolveAll edits = .ok checked ∧ (¬ ∀ edit ∈ checked, lang.Accepts edit.2) ∧
        s.written (lang.readable checked) ≠ s) := by
  obtain ⟨hsync, hlang⟩ := h.inSync
  have hok {checked : List (Address × Option Text)} (hresolve : resolveAll edits = .ok checked)
      (hall : ∀ edit ∈ checked, lang.Accepts edit.2) :
      ∃ changed, (s.setCells edits).result = .ok changed := by
    obtain ⟨u, changed, heq, -⟩ := setCells_eq_of_accepts hsync hresolve (hlang ▸ hall)
    exact ⟨changed, by rw [heq]⟩
  refine ⟨fun f hf => by rw [Update.notifications, hf], fun f => setCells_eq_of_error,
    fun checked => hok, fun checked => setCells_eq_written h, ?_, ?_⟩
  · rintro ⟨⟨f, hf⟩, hne⟩
    cases hresolve : resolveAll edits with
    | error f => exact (hne (by rw [setCells_eq_of_error hresolve])).elim
    | ok checked =>
      by_cases hall : ∀ edit ∈ checked, lang.Accepts edit.2
      · obtain ⟨changed, hchanged⟩ := hok hresolve hall
        simp [hchanged] at hf
      · rw [setCells_eq_written h hresolve hall] at hne
        exact ⟨checked, rfl, hall, hne⟩
  · rintro ⟨checked, hresolve, hnot, hne⟩
    rw [setCells_eq_written h hresolve hnot]
    exact ⟨⟨_, rfl⟩, hne⟩

/-- A formula whose row number has one digit too many. -/
def tooLong : Text :=
  .char '=' :: .char 'A' :: ones (Decimal.maxDigits + 1)

/-- A batch whose second text cannot be read: the first one stays. -/
theorem fails_and_changes_tooLong :
    (∃ f, ((empty (.standard .usual) 1 1).setCells
      [⟨.placed ⟨0, 0⟩, some "x"⟩, ⟨.placed ⟨0, 1⟩, some tooLong⟩]).result = .error f) ∧
    ((empty (.standard .usual) 1 1).setCells
      [⟨.placed ⟨0, 0⟩, some "x"⟩, ⟨.placed ⟨0, 1⟩, some tooLong⟩]).sheet ≠
        empty (.standard .usual) 1 1 := by
  have hlong : ¬ (Language.standard .usual).Accepts (some tooLong) :=
    not_accepts_ones (.standard .usual) (Nat.lt_succ_self Decimal.maxDigits)
  -- from here on it only counts that the text cannot be read
  generalize tooLong = raw at hlong ⊢
  have hheld : heldText (some "x") = some ("x" : Text) := by decide
  have hread : (Language.standard .usual).Accepts (some "x") := by
    intro t ht
    rw [hheld] at ht
    cases ht
    exact ⟨_, rfl⟩
  have hresolve : resolveAll [⟨.placed ⟨0, 0⟩, some "x"⟩, ⟨.placed ⟨0, 1⟩, some raw⟩] =
      .ok [(⟨0, 0⟩, some "x"), (⟨0, 1⟩, some raw)] := rfl
  refine (fails_and_changes_iff (.empty 1 1) _).2.2.2.2.2 ⟨_, hresolve, fun hall => ?_, ?_⟩
  · exact hlong (hall _ (List.mem_cons_of_mem _ List.mem_cons_self))
  · have hall : ∀ edit ∈ [((⟨0, 0⟩ : Address), some ("x" : Text))],
        (Language.standard .usual).Accepts edit.2 := List.forall_mem_singleton.2 hread
    have hwritten := raw?_written (inSync_empty (.standard .usual) 1 1) hall
    rw [Language.readable_pair hread hlong]
    intro heq
    have hraw := congrFun hwritten ⟨0, 0⟩
    rw [heq, raw?_empty, overwrite, List.foldl_cons, List.foldl_nil, Function.update_self,
      hheld] at hraw
    simp at hraw

end Sheet

end Spreadsheet
