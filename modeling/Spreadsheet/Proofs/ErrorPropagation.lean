import Spreadsheet.Proofs.Evaluation.Origins

/-!
# Errors reach every reader

A formula that calls no lazy function reads all that it mentions, so it has no value if one of the
addresses holds an error (`read_of_evalWithin`). An error that is passed on names the address that
holds it and keeps its code (`errors_propagate`): no function swallows it, and none gives it another
label.
-/

namespace Spreadsheet

/-- Every function that a formula calls evaluates all its operands. -/
def Formula.CallsEagerly (lib : Library) (f : Formula) : Prop :=
  ∀ name args e, f.Contains (.call name args) → lib.find? name = some e →
    e.behaviour.isLazy = false

theorem Formula.CallsEagerly.of_part {lib : Library} {f g : Formula} (hf : f.CallsEagerly lib)
    (hpart : f.Contains g) : g.CallsEagerly lib := fun name args e hcall he =>
  hf name args e (hpart.trans hcall) he

/-- An error without a kind of its own: one that is passed on from a cell, or the one that a
formula that cannot be read leaves behind. -/
def FormulaError.IsBase : FormulaError → Prop
  | .inherited _ _ | .failed _ _ => True
  | .malformed _ | .badReference _ | .badOperand _ | .outOfRange _ | .unevaluable _ => False

theorem FormulaError.IsBase.not_isOwn {e : FormulaError} (h : e.IsBase) : ¬ e.IsOwn := by
  cases e with
  | inherited | failed => exact id
  | malformed | badReference | badOperand | outOfRange | unevaluable => exact h.elim

section Evaluation

variable {lib : Library} {lang : Language} {reader : CellReader} {f : Formula} {fault : Fault}

/-- A formula that has a value and calls no lazy function has read all that it mentions. -/
theorem read_of_evalWithin (depth : Nat) : ∀ {f : Formula} {v : Value}, f.CallsEagerly lib →
    evalWithin lib reader depth f = .ok v →
      ∀ x ∈ f.leaves, ∀ a ∈ reader.addresses x, ∃ w, reader.read a = .ok w := by
  -- every part has a value too, down to the leaf
  induction depth with
  | zero => exact fun _ h => by cases h
  | succ depth ih =>
    intro f v hf h x hx a ha
    cases f with
    | number | text => simp [Formula.leaves] at hx
    | ref b =>
      obtain ⟨w, hw, -⟩ := bind_eq_ok.1 h
      cases List.mem_singleton.1 hx
      cases List.mem_singleton.1 ha
      exact ⟨w, hw⟩
    | range r =>
      cases List.mem_singleton.1 hx
      obtain ⟨members, hmembers, -⟩ := exists_members_of_readRange h
      obtain ⟨w, -, hw⟩ := exists_of_forall₂ (mapM_eq_ok_iff.1 hmembers).flip ha
      exact ⟨w, hw⟩
    | call name args =>
      obtain ⟨arg, harg, hx⟩ := Formula.mem_leavesAll_iff.1 hx
      obtain ⟨e, hentry, -⟩ := bind_eq_ok.1 h
      have heager := hf name args e (.self _) (find?_of_checkCount hentry)
      cases hbehaviour : e.behaviour with
      | lazy result =>
        rw [hbehaviour] at heager
        cases heager
      | eager result =>
        rw [evalWithin_eager hentry hbehaviour] at h
        obtain ⟨vs, hvs, -⟩ := bind_eq_ok.1 h
        obtain ⟨w, -, hw⟩ := exists_of_forall₂ (mapM_eq_ok_iff.1 hvs).flip harg
        exact ih (hf.of_part (.operand harg (.self _))) hw x hx a ha
    | unary symbol operand =>
      obtain ⟨w, hw, -⟩ := bind_eq_ok.1 h
      exact ih (hf.of_part (.unary (.self _))) hw x hx a ha
    | binary symbol left right =>
      obtain ⟨w, hw, h⟩ := bind_eq_ok.1 h
      obtain ⟨u, hu, -⟩ := bind_eq_ok.1 h
      rcases List.mem_append.1 hx with hx | hx
      · exact ih (hf.of_part (.left (.self _))) hw x hx a ha
      · exact ih (hf.of_part (.right (.self _))) hu x hx a ha
    | failed | unknown => cases h

theorem exists_fault_of_consults (hf : f.CallsEagerly lang.toLibrary) {a : Address}
    {code : ErrorCode} (ha : reader.Consults f a) (hcode : reader.value a = .error code) :
    ∃ fault, eval lang reader f = .error fault ∧ evaluate lang reader f = .error fault := by
  cases heval : eval lang reader f with
  | error fault => exact ⟨fault, rfl, by rw [evaluate, heval]; rfl⟩
  | ok v =>
    obtain ⟨x, hx, hmem⟩ := CellReader.consults_iff.1 ha
    obtain ⟨w, hw⟩ := read_of_evalWithin _ hf heval x hx a hmem
    obtain ⟨hvalue, hne⟩ := eq_of_read_eq_ok hw
    exact (hne code (hvalue ▸ hcode)).elim

/-- An error without a kind of its own is one that a mentioned address holds. -/
theorem Arises.exists_source {depth : Nat}
    (hf : ∀ code message, ¬ f.Contains (.failed code message))
    {e : FormulaError} (he : e.IsBase) (h : Arises lib reader depth f (.formula e)) :
    ∃ a, reader.Consults f a ∧ reader.value a = .error e.code ∧ e = .inherited a e.code := by
  cases h with
  | read ha hcode => exact ⟨_, ha, hcode, rfl⟩
  | failed hpart => exact (hf _ _ hpart).elim
  | own hown => exact (he.not_isOwn hown).elim
  | uncalled _ hcount =>
    rcases exists_of_checkCount_eq_error hcount with ⟨name, hname⟩ | ⟨operand, hoperand⟩
    · cases hname
    · cases hoperand
      exact he.elim
  | notShown _ _ _ hdisplay =>
    rcases lacksText_of_display_eq_error hdisplay with hfault | hfault <;> cases hfault

end Evaluation

/-- A formula that calls no lazy function has no value if an address that it mentions holds an
error. An error that any formula passes on is the one that such an address holds. -/
theorem errors_propagate (lang : Language) (reader : CellReader) (f : Formula) :
    (f.CallsEagerly lang.toLibrary → ∀ a code, reader.Consults f a → reader.value a = .error code →
      ∃ fault, eval lang reader f = .error fault ∧ evaluate lang reader f = .error fault) ∧
    (lang.IsStandard → (∀ code message, ¬ f.Contains (.failed code message)) →
      ∀ e : FormulaError, e.IsBase →
        eval lang reader f = .error (.formula e) ∨ evaluate lang reader f = .error (.formula e) →
          ∃ a, reader.Consults f a ∧ reader.value a = .error e.code ∧ e = .inherited a e.code) := by
  refine ⟨fun hf a code => exists_fault_of_consults hf, fun hlib hf e he h => ?_⟩
  have harises : Arises lang.toLibrary reader lang.limit.depth f (.formula e) :=
    h.elim (arises_of_evalWithin hlib _) (arises_of_evaluate hlib)
  exact harises.exists_source hf he

/-! ## An error that is counted -/

/-- The number of two cells that are not empty. -/
def pairCount : Formula :=
  .call "COUNT" [.range ⟨⟨0, 0⟩, ⟨1, 0⟩⟩]

/-- A sheet whose second cell holds an error. -/
def secondFails : CellReader :=
  .dense fun a => if a = ⟨1, 0⟩ then .error .division else .number 1

theorem eq_of_contains_pairCount {g : Formula} (h : pairCount.Contains g) :
    g = pairCount ∨ g = .range ⟨⟨0, 0⟩, ⟨1, 0⟩⟩ := by
  cases h with
  | self => exact .inl rfl
  | operand harg h =>
    cases List.mem_singleton.1 harg
    cases h
    exact .inr rfl

theorem callsEagerly_pairCount : pairCount.CallsEagerly .standard := by
  intro name args e hpart he
  rcases eq_of_contains_pairCount hpart with heq | heq
  · cases heq
    cases he
    rfl
  · cases heq

theorem errors_propagate_pairCount :
    pairCount.CallsEagerly .standard ∧
      (∀ code message, ¬ pairCount.Contains (.failed code message)) ∧
      secondFails.Consults pairCount ⟨1, 0⟩ ∧ secondFails.value ⟨1, 0⟩ = .error .division ∧
      (∃ fault, eval (.standard .usual) secondFails pairCount = .error fault ∧
        evaluate (.standard .usual) secondFails pairCount = .error fault) ∧
      ∃ e : FormulaError, evaluate (.standard .usual) secondFails pairCount = .error (.formula e) ∧
        e.IsBase ∧ ∃ a, secondFails.Consults pairCount a ∧ secondFails.value a = .error e.code ∧
          e = .inherited a e.code := by
  obtain ⟨hraises, hsource⟩ := errors_propagate (.standard .usual) secondFails pairCount
  have hmentions : secondFails.Consults pairCount ⟨1, 0⟩ :=
    CellReader.consults_iff.2 ⟨.range ⟨⟨0, 0⟩, ⟨1, 0⟩⟩, List.mem_singleton.2 rfl, by decide⟩
  have hread : ∀ code message, ¬ pairCount.Contains (.failed code message) := by
    intro code message hpart
    rcases eq_of_contains_pairCount hpart with heq | heq <;> cases heq
  have heval : evaluate (.standard .usual) secondFails pairCount =
      .error (.formula (.inherited ⟨1, 0⟩ .division)) := rfl
  exact ⟨callsEagerly_pairCount, hread, hmentions, rfl,
    hraises callsEagerly_pairCount _ _ hmentions rfl, _, heval, trivial,
    hsource Library.isStandard_standard hread _ trivial (.inr heval)⟩

end Spreadsheet
