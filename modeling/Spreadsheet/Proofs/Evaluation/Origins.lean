import Spreadsheet.Proofs.Evaluation.Values

/-!
# Where faults come from

A fault that an evaluation ends with arises in a part that is evaluated (`arises_of_evalWithin`):
the part reads a cell that holds an error, an operator or a function refuses its operands, or a
limit is passed. Nothing on the way up changes it.
-/

namespace Spreadsheet

open Standard (Function)

/-! ## What is consulted -/

namespace CellReader

/-- The addresses that are read for a reference. -/
def addresses (reader : CellReader) : Reference → List Address
  | .cell a => [a]
  | .range r => reader.members r

/-- A formula mentions an address, by itself or as a member of a range. -/
def Consults (reader : CellReader) (f : Formula) (a : Address) : Prop :=
  ∃ x ∈ f.mentions, a ∈ reader.addresses x

end CellReader

section Consults

variable {lib : Library} {reader : CellReader} {depth n : Nat} {f g : Formula}

theorem CellReader.consults_iff {a : Address} :
    reader.Consults f a ↔ ∃ x ∈ f.leaves, a ∈ reader.addresses x := by
  rw [Consults, Formula.mentions_eq_leaves]

theorem Evaluates.consults (hpart : Evaluates lib reader depth f n g) {a : Address}
    (h : reader.Consults g a) : reader.Consults f a := by
  obtain ⟨x, hx, ha⟩ := CellReader.consults_iff.1 h
  exact CellReader.consults_iff.2 ⟨x, hpart.mem_leaves hx, ha⟩

/-- An eager function evaluates all its operands if none of them fails. -/
theorem Evaluates.of_mem_args {name : Text} {args : List Formula} {arg : Formula} {e : Entry}
    {result : List Value → Outcome} {vs : List Value}
    (hentry : lib.checkCount name args.length = .ok e) (hbehaviour : e.behaviour = .eager result)
    (hvs : List.Forall₂ (fun arg v => evalWithin lib reader depth arg = .ok v) args vs)
    (harg : arg ∈ args) : Evaluates lib reader (depth + 1) (.call name args) depth arg := by
  obtain ⟨before, after, rfl⟩ := List.append_of_mem harg
  refine .operand hentry hbehaviour (fun b hb => ?_) (.self _ _)
  obtain ⟨v, -, hv⟩ := exists_of_forall₂ hvs.flip (List.mem_append_left _ hb)
  exact ⟨v, hv⟩

end Consults

/-! ## Operators -/

/-- An error that an operator or a function raises itself. -/
def FormulaError.IsOwn : FormulaError → Prop
  | .badOperand _ | .outOfRange _ | .unevaluable _ => True
  | .malformed _ | .badReference _ | .inherited _ _ | .failed _ _ => False

/-- How an operand may be refused: by an error of the language, or because it is an integer. -/
inductive Refused (v : Value) : Fault → Prop
  | own {e : FormulaError} (h : e.IsOwn) : Refused v (.formula e)
  | integer {z : ShortInt} (h : v = .scalar (.integer z)) : Refused v .integerOperand

section Operators

variable {symbol : Text} {v w : Value} {fault : Fault}

theorem refused_of_toNumber (h : v.toNumber = .error fault) : Refused v fault := by
  unfold Value.toNumber at h
  split at h
  · cases h
  · cases h
  · cases h
    exact .integer rfl
  · split at h
    · cases h
    · split at h
      · cases h
      · cases h
        exact .own trivial
  · cases h
    exact .own trivial
  · cases h
    exact .own trivial

theorem refused_of_isTrue (h : v.isTrue = .error fault) : Refused v fault := by
  unfold Value.isTrue at h
  split at h
  · cases h
  · cases h
  · cases h
    exact .integer rfl
  · dsimp only at h
    split at h
    · cases h
    · split at h
      · cases h
      · split at h
        · cases h
        · cases h
          exact .own trivial
  · cases h
    exact .own trivial
  · cases h
    exact .own trivial

theorem refused_of_applyUnary (h : applyUnary symbol v = .error fault) : Refused v fault := by
  rcases bind_eq_error.1 h with hx | ⟨x, -, hok⟩
  · exact refused_of_toNumber hx
  · cases hok

theorem Arithmetic.eq_of_apply_eq_error {op : Arithmetic} {x y : Float}
    (h : op.apply x y = .error fault) : ∃ e, fault = .formula (.outOfRange e) := by
  cases op with
  | add | sub | mul => exact ⟨_, Standard.eq_of_finite_eq_error h⟩
  | div =>
    unfold apply at h
    dsimp only at h
    split at h
    · exact ⟨_, (Except.error.inj h).symm⟩
    · exact ⟨_, Standard.eq_of_finite_eq_error h⟩

theorem eq_of_compareBy_eq_error (h : v.compareBy symbol w = .error fault) :
    ∃ e : FormulaError, fault = .formula e ∧ e.IsOwn := by
  unfold Value.compareBy at h
  split at h
  · unfold CellValue.compareBy at h
    split at h
    · split at h
      · cases h
      · cases h
      · exact ⟨_, (Except.error.inj h).symm, trivial⟩
    · split at h
      · cases h
      · exact ⟨_, (Except.error.inj h).symm, trivial⟩
  · exact ⟨_, (Except.error.inj h).symm, trivial⟩

theorem refused_of_applyBinary (h : applyBinary symbol v w = .error fault) :
    Refused v fault ∨ Refused w fault := by
  unfold applyBinary at h
  split at h
  · rcases bind_eq_error.1 h with hx | ⟨x, -, h⟩
    · exact .inl (refused_of_toNumber hx)
    · rcases bind_eq_error.1 h with hy | ⟨y, -, h⟩
      · exact .inr (refused_of_toNumber hy)
      · rcases bind_eq_error.1 h with hz | ⟨z, -, hok⟩
        · obtain ⟨e, rfl⟩ := Arithmetic.eq_of_apply_eq_error hz
          exact .inl (.own trivial)
        · cases hok
  · rcases bind_eq_error.1 h with hz | ⟨z, -, hok⟩
    · obtain ⟨e, rfl, he⟩ := eq_of_compareBy_eq_error hz
      exact .inl (.own he)
    · cases hok

theorem eq_of_cellValue_eq_error (h : cellValue v = .error fault) :
    ∃ e : FormulaError, fault = .formula e ∧ e.IsOwn := by
  unfold cellValue at h
  split at h
  · cases h
  · rcases bind_eq_error.1 h with hx | ⟨x, -, hok⟩
    · exact ⟨_, Standard.eq_of_finite_eq_error hx, trivial⟩
    · cases hok
  · cases h
  · exact ⟨_, (Except.error.inj h).symm, trivial⟩

theorem exists_of_checkCount_eq_error {lib : Library} {name : Text} {count : Int}
    (h : lib.checkCount name count = .error fault) :
    (∃ name, fault = .unknownFunction name) ∨ ∃ e, fault = .formula (.badOperand e) := by
  rcases bind_eq_error.1 h with hget | ⟨e, -, h⟩
  · unfold Library.get at hget
    split at hget
    · cases hget
    · exact .inl ⟨_, (Except.error.inj hget).symm⟩
  · split at h
    · cases h
    · exact .inr ⟨_, (Except.error.inj h).symm⟩

/-- A number was to be shown that has no text. -/
def Fault.LacksText (fault : Fault) : Prop :=
  fault = .infiniteText ∨ fault = .undefinedText

theorem lacksText_of_display_eq_error {v : CellValue} (h : v.display = .error fault) :
    fault.LacksText := by
  cases v with
  | number x =>
    rw [CellValue.display] at h
    split at h
    · cases h
    · cases h
      cases x.isNaN with
      | true => exact .inr rfl
      | false => exact .inl rfl
  | empty | integer | text | error => cases h

end Operators

/-! ## Reading -/

section Reading

variable {reader : CellReader} {a : Address} {r : CellRange} {fault : Fault}

theorem eq_of_read_eq_error (h : reader.read a = .error fault) :
    ∃ code, reader.value a = .error code ∧ fault = .formula (.inherited a code) := by
  unfold CellReader.read at h
  split at h
  · next code hcode => exact ⟨code, hcode, (Except.error.inj h).symm⟩
  · cases h

theorem eq_of_readRange_eq_error (h : reader.readRange r = .error fault) :
    ∃ a ∈ reader.members r, ∃ code, reader.value a = .error code ∧
      fault = .formula (.inherited a code) := by
  unfold CellReader.readRange at h
  split at h
  · next hmembers =>
    cases h
    obtain ⟨before, a, after, hsplit, -, ha⟩ := exists_of_mapM_eq_error hmembers
    exact ⟨a, by simp [hsplit], eq_of_read_eq_error ha⟩
  · cases h

end Reading

/-! ## Origins -/

/-- What a fault of an evaluation comes from, in a part that is evaluated. -/
inductive Arises (lib : Library) (reader : CellReader) (depth : Nat) (f : Formula) : Fault → Prop
  /-- The limit is reached with a part still to be evaluated. -/
  | nested {g : Formula} (h : Evaluates lib reader depth f 0 g) :
    Arises lib reader depth f .nestingTooDeep
  /-- There is no such function, or it does not take so many operands. -/
  | uncalled {n : Nat} {name : Text} {args : List Formula} {fault : Fault}
    (h : Evaluates lib reader depth f n (.call name args))
    (hcount : lib.checkCount name args.length = .error fault) : Arises lib reader depth f fault
  /-- A choice lacks its condition or the branch that is taken. -/
  | unchosen {n : Nat} {name : Text} {args : List Formula} {e : Entry}
    (h : Evaluates lib reader depth f n (.call name args))
    (hentry : lib.checkCount name args.length = .ok e)
    (hchoose : e.behaviour = Function.choose.behaviour) (hfew : args.length < 3) :
    Arises lib reader depth f .missingOperand
  | own {e : FormulaError} (h : e.IsOwn) : Arises lib reader depth f (.formula e)
  | integer {n : Nat} {g : Formula} {z : ShortInt} (h : Evaluates lib reader depth f n g)
    (hv : evalWithin lib reader n g = .ok (.scalar (.integer z))) :
    Arises lib reader depth f .integerOperand
  | read {a : Address} {code : ErrorCode} (h : reader.Consults f a)
    (hcode : reader.value a = .error code) :
    Arises lib reader depth f (.formula (.inherited a code))
  | failed {code : ErrorCode} {message : Text} (h : f.Contains (.failed code message)) :
    Arises lib reader depth f (.formula (.failed code message))
  /-- An average has more operands than there are numbers. -/
  | uncounted {n : Nat} {name : Text} {args : List Formula} {vs : List Value}
    (h : Evaluates lib reader depth f (n + 1) (.call name args))
    (hvs : List.Forall₂ (fun arg v => evalWithin lib reader n arg = .ok v) args vs)
    (hinf : (nearestToInt (Standard.extent vs)).isInf) : Arises lib reader depth f .countTooLarge
  /-- A value that is to be joined to a text has no text. -/
  | notShown {n : Nat} {g : Formula} {v : Value} {w : CellValue} {fault : Fault}
    (h : Evaluates lib reader depth f n g) (hv : evalWithin lib reader n g = .ok v)
    (hw : w ∈ v.operands) (hdisplay : w.display = .error fault) : Arises lib reader depth f fault

section Evaluation

variable {lib : Library} {reader : CellReader} {depth n : Nat} {f g : Formula} {v : Value}
  {fault : Fault}

theorem Arises.of_part (hpart : Evaluates lib reader depth f n g)
    (h : Arises lib reader n g fault) : Arises lib reader depth f fault := by
  cases h with
  | nested h => exact .nested (hpart.trans h)
  | uncalled h hcount => exact .uncalled (hpart.trans h) hcount
  | unchosen h hentry hchoose hfew => exact .unchosen (hpart.trans h) hentry hchoose hfew
  | own h => exact .own h
  | integer h hv => exact .integer (hpart.trans h) hv
  | read h hcode => exact .read (hpart.consults h) hcode
  | failed h => exact .failed (hpart.contains.trans h)
  | uncounted h hvs hinf => exact .uncounted (hpart.trans h) hvs hinf
  | notShown h hv hw hdisplay => exact .notShown (hpart.trans h) hv hw hdisplay

theorem Arises.of_refused (hpart : Evaluates lib reader depth f n g)
    (hv : evalWithin lib reader n g = .ok v) (h : Refused v fault) :
    Arises lib reader depth f fault := by
  cases h with
  | own h => exact .own h
  | integer hinteger => exact .integer hpart (hinteger ▸ hv)

theorem arises_of_eager {name : Text} {args : List Formula} {e : Entry} {F : Function}
    {result : List Value → Outcome} (hentry : lib.checkCount name args.length = .ok e)
    (hF : e.behaviour = F.behaviour) (hresult : F.behaviour = .eager result)
    (hargs : ∀ arg ∈ args, ∀ fault, evalWithin lib reader depth arg = .error fault →
      Arises lib reader depth arg fault)
    (h : evalWithin lib reader (depth + 1) (.call name args) = .error fault) :
    Arises lib reader (depth + 1) (.call name args) fault := by
  have hbehaviour := hF.trans hresult
  rw [evalWithin_eager hentry hbehaviour] at h
  rcases bind_eq_error.1 h with hoperands | ⟨vs, hvs, h⟩
  · obtain ⟨before, arg, after, rfl, hbefore, harg⟩ := exists_of_mapM_eq_error hoperands
    exact (hargs arg (by simp) fault harg).of_part (.operand hentry hbehaviour hbefore (.self _ _))
  · have hvs := mapM_eq_ok_iff.1 hvs
    rcases (Standard.gives_of_eager hresult vs).finiteOutcome_eq_error h with
      rfl | ⟨rfl, hinf⟩ | ⟨w, hw, hdisplay⟩
    · exact .own trivial
    · exact .uncounted (.self _ _) hvs hinf
    · obtain ⟨v, hv, hw⟩ := List.mem_flatMap.1 hw
      obtain ⟨arg, harg, heval⟩ := exists_of_forall₂ hvs hv
      exact .notShown (.of_mem_args hentry hbehaviour hvs harg) heval hw hdisplay

theorem arises_of_choose {name : Text} {args : List Formula} {e : Entry}
    (hentry : lib.checkCount name args.length = .ok e)
    (hchoose : e.behaviour = Function.choose.behaviour)
    (hargs : ∀ arg ∈ args, ∀ fault, evalWithin lib reader depth arg = .error fault →
      Arises lib reader depth arg fault)
    (h : evalWithin lib reader (depth + 1) (.call name args) = .error fault) :
    Arises lib reader (depth + 1) (.call name args) fault := by
  rw [evalWithin_choose hentry hchoose] at h
  cases args with
  | nil =>
    cases h
    exact .unchosen (.self _ _) hentry hchoose (by simp)
  | cons condition branches =>
    rw [choose_cons] at h
    rcases bind_eq_error.1 h with hcondition | ⟨v, hv, h⟩
    · exact (hargs condition List.mem_cons_self fault hcondition).of_part
        (.condition hentry hchoose (.self _ _))
    · rcases bind_eq_error.1 h with hrefused | ⟨holds, hholds, h⟩
      · exact .of_refused (.condition hentry hchoose (.self _ _)) hv (refused_of_isTrue hrefused)
      · cases hbranch : branches[if holds then 0 else 1]? with
        | none =>
          rw [hbranch] at h
          cases h
          have hfew := List.getElem?_eq_none_iff.1 hbranch
          refine .unchosen (.self _ _) hentry hchoose ?_
          rw [List.length_cons]
          split at hfew <;> omega
        | some branch =>
          rw [hbranch] at h
          have hmem := List.mem_cons_of_mem condition (List.mem_of_getElem? hbranch)
          exact (hargs branch hmem fault h).of_part
            (.branch hentry hchoose hv hholds hbranch (.self _ _))

/-- Every fault of an evaluation comes from somewhere. -/
theorem arises_of_evalWithin (hlib : lib.IsStandard) (depth : Nat) :
    ∀ {f : Formula} {fault : Fault},
      evalWithin lib reader depth f = .error fault → Arises lib reader depth f fault := by
  -- a part fails, or all parts have values and one of these is refused
  induction depth with
  | zero =>
    intro f fault h
    cases h
    exact .nested (.self 0 f)
  | succ depth ih =>
    intro f fault h
    cases f with
    | number | text => cases h
    | ref a =>
      rcases bind_eq_error.1 h with hread | ⟨v, -, hok⟩
      · obtain ⟨code, hcode, rfl⟩ := eq_of_read_eq_error hread
        have ha : reader.Consults (.ref a) a :=
          CellReader.consults_iff.2 ⟨.cell a, by simp [Formula.leaves], List.mem_singleton.2 rfl⟩
        exact .read ha hcode
      · cases hok
    | range r =>
      obtain ⟨a, ha, code, hcode, rfl⟩ := eq_of_readRange_eq_error h
      exact .read (CellReader.consults_iff.2 ⟨.range r, by simp [Formula.leaves], ha⟩) hcode
    | call name args =>
      cases hentry : lib.checkCount name args.length with
      | error fault' =>
        rw [evalWithin_of_checkCount_error hentry] at h
        cases h
        exact .uncalled (.self _ _) hentry
      | ok e =>
        rcases hlib.eager_or_choose hentry with ⟨F, result, hF, hresult⟩ | hchoose
        · exact arises_of_eager hentry hF hresult (fun arg _ fault => ih) h
        · exact arises_of_choose hentry hchoose (fun arg _ fault => ih) h
    | unary symbol operand =>
      rcases bind_eq_error.1 h with hfails | ⟨v, hv, h⟩
      · exact (ih hfails).of_part (.unary (.self _ _))
      · exact .of_refused (.unary (.self _ _)) hv (refused_of_applyUnary h)
    | binary symbol left right =>
      rcases bind_eq_error.1 h with hfails | ⟨v, hv, h⟩
      · exact (ih hfails).of_part (.left (.self _ _))
      · rcases bind_eq_error.1 h with hfails | ⟨w, hw, h⟩
        · exact (ih hfails).of_part (.right hv (.self _ _))
        · rcases refused_of_applyBinary h with hrefused | hrefused
          · exact .of_refused (.left (.self _ _)) hv hrefused
          · exact .of_refused (.right hv (.self _ _)) hw hrefused
    | failed code message =>
      cases h
      exact .failed (.self _)
    | unknown =>
      cases h
      exact .own trivial

theorem arises_of_evaluate {lang : Language} (hlib : lang.IsStandard)
    (h : evaluate lang reader f = .error fault) :
    Arises lang.toLibrary reader lang.limit.depth f fault := by
  rcases bind_eq_error.1 h with heval | ⟨v, -, hv⟩
  · exact arises_of_evalWithin hlib _ heval
  · obtain ⟨e, rfl, he⟩ := eq_of_cellValue_eq_error hv
    exact .own he

/-- Where only finite numbers are written and read, every value that is to be shown has a text. -/
theorem Arises.not_lacksText (hlib : lib.IsStandard) (hreader : ∀ a, (reader.value a).Displayable)
    (hf : f.FiniteNumbers) (h : Arises lib reader depth f fault) : ¬ fault.LacksText := by
  cases h with
  | notShown hpart hv hw hdisplay =>
    have hpossible := possible_of_evalWithin hlib hreader _ (hf.of_part hpart.contains) hv
    obtain ⟨shown, hshown⟩ := hpossible.displayable hreader _ hw
    rw [hshown] at hdisplay
    cases hdisplay
  | uncalled _ hcount =>
    rcases exists_of_checkCount_eq_error hcount with ⟨name, rfl⟩ | ⟨e, rfl⟩ <;>
      simp [Fault.LacksText]
  | nested | unchosen | own | integer | read | failed | uncounted => simp [Fault.LacksText]

end Evaluation

end Spreadsheet
