import Spreadsheet.Proofs.Evaluation.Faults

/-!
# The domain of values

Formulas compute with nothing, finite numbers and texts. From such values a legal formula makes such
a value again or fails as expected, unless a sum of no values is evaluated on the way, which is an
integer (`endsWell_or_sumsNothing`).
-/

namespace Spreadsheet

/-- A value that formulas compute with: nothing, a finite number or a text. -/
def CellValue.InDomain : CellValue → Prop
  | .empty | .text _ => True
  | .number x => x.isFinite
  | .integer _ | .error _ => False

/-- A value that formulas compute with, or a range of them. -/
def Value.InDomain : Value → Prop
  | .scalar v => v.InDomain
  | .range members _ => ∀ v ∈ members, v.InDomain
  | .array _ => False

/-- How evaluating a formula of a certain size to a certain depth is meant to end. -/
inductive EndsWell (depth size : Nat) : Outcome → Prop
  | ok {v : Value} (h : v.InDomain) : EndsWell depth size (.ok v)
  | error {fault : Fault} (h : fault.Expected depth size) : EndsWell depth size (.error fault)

section Evaluation

variable {reader : CellReader} {depth : Nat} {f : Formula}

theorem CellValue.InDomain.displayable {v : CellValue} (h : v.InDomain) : v.Displayable := by
  cases v with
  | empty => exact ⟨_, rfl⟩
  | number x => exact displayable_number h
  | text t => exact ⟨t, rfl⟩
  | integer | error => exact h.elim

theorem inDomain_of_possible {lib : Library} {v : Value}
    (hreader : ∀ a, (reader.value a).InDomain ∨ ∃ code, reader.value a = .error code)
    (h : Possible lib reader depth f v) : v.InDomain ∨ v = .scalar (.integer 0) ∧
      ∃ n g, Evaluates lib reader depth f n g ∧ SumsNothing lib reader n g := by
  have hread {a : Address} {w : CellValue} (hw : reader.read a = .ok w) : w.InDomain := by
    obtain ⟨rfl, hne⟩ := eq_of_read_eq_ok hw
    exact (hreader a).resolve_right fun ⟨code, hcode⟩ => hne code hcode
  cases h with
  | number hx => exact .inl hx
  | text t => exact .inl trivial
  | integer hg hsum => exact .inr ⟨rfl, _, _, hg, hsum⟩
  | cell _ hw => exact .inl (hread hw)
  | range _ hmembers =>
    left
    intro w hw
    obtain ⟨a, -, ha⟩ := exists_of_forall₂ (mapM_eq_ok_iff.1 hmembers) hw
    exact hread ha

theorem endsWell_or_sumsNothing
    (hreader : ∀ a, (reader.value a).InDomain ∨ ∃ code, reader.value a = .error code)
    (hf : f.Legal Library.standard.contains) (depth : Nat) :
    EndsWell depth f.size (evalWithin .standard reader depth f) ∨
      (evalWithin .standard reader depth f = .ok (.scalar (.integer 0)) ∨
        evalWithin .standard reader depth f = .error .integerOperand) ∧
        ∃ n g, Evaluates .standard reader depth f n g ∧ SumsNothing .standard reader n g := by
  have hdisplay (a : Address) : (reader.value a).Displayable := by
    rcases hreader a with hvalue | ⟨code, hcode⟩
    · exact hvalue.displayable
    · exact hcode ▸ CellValue.displayable_error code
  cases heval : evalWithin .standard reader depth f with
  | ok v =>
    have hpossible := possible_of_evalWithin Library.isStandard_standard hdisplay depth
      hf.finiteNumbers heval
    rcases inDomain_of_possible hreader hpossible with hv | ⟨rfl, hsum⟩
    · exact .inl (.ok hv)
    · exact .inr ⟨.inl rfl, hsum⟩
  | error fault =>
    cases fails_of_evalWithin hdisplay depth hf heval with
    | expected hfault => exact .inl (.error hfault)
    | integer hpart hinteger =>
      rcases exists_source_of_integer Library.isStandard_standard hdisplay hf.finiteNumbers hpart
        hinteger with hsum | ⟨a, -, ha⟩
      · exact .inr ⟨.inr rfl, hsum⟩
      · have hvalue := hreader a
        rw [ha] at hvalue
        rcases hvalue with hvalue | ⟨code, hcode⟩
        · exact hvalue.elim
        · cases hcode

end Evaluation

end Spreadsheet
