import Mathlib.Algebra.Order.BigOperators.Group.List
import Mathlib.Algebra.Group.Int.Defs
import Spreadsheet.Library.Standard
import Spreadsheet.Proofs.Evaluation

/-!
# Results of standard functions

An eager function gives a number, a text, or the integer zero if it is the sum of no values. It
fails only if an average has too many operands to count them as a number, or if a value to be joined
has no text (`gives_of_eager`).
-/

namespace Spreadsheet

namespace Standard

variable {args : List Value} {f : Function} {o : Outcome}

/-- The number of operands that a list of arguments stands for. -/
def extent (args : List Value) : Int :=
  args.foldl (fun n arg => n + (share arg).2) 0

theorem extent_bounds {most : Int}
    (h : ∀ arg ∈ args, 0 ≤ (share arg).2 ∧ (share arg).2 ≤ most) :
    0 ≤ extent args ∧ extent args ≤ args.length * most := by
  have hsum : extent args = (args.map fun arg => (share arg).2).sum := by
    rw [extent, List.sum_eq_foldl, List.foldl_map]
  have hmost := List.sum_le_card_nsmul (args.map fun arg => (share arg).2) most
    (List.forall_mem_map.2 fun arg harg => (h arg harg).2)
  rw [List.length_map, Int.nsmul_eq_mul] at hmost
  rw [hsum]
  exact ⟨List.sum_nonneg (List.forall_mem_map.2 fun arg harg => (h arg harg).1), hmost⟩

/-- What an eager function may give for some arguments. -/
inductive Gives (args : List Value) : Function → Outcome → Prop where
  | number (f : Function) (x : Float) : Gives args f (.ok (.number x))
  | text (t : Text) : Gives args .concat (.ok (.scalar (.text t)))
  | emptySum (h : flatten args = []) : Gives args .sum (.ok (.scalar (.integer 0)))
  | countTooLarge (h : (nearestToInt (extent args)).isInf) :
    Gives args .average (.error .countTooLarge)
  | notShown {v : CellValue} {fault : Fault} (hv : v ∈ flatten args)
    (h : v.display = .error fault) : Gives args .concat (.error fault)

theorem gives_sum (args : List Value) : Gives args .sum (sum args) := by
  unfold sum
  split
  · next hnil => exact .emptySum hnil
  · exact .number _ _

theorem gives_average (args : List Value) : Gives args .average (average args) := by
  unfold average
  dsimp only
  split
  · exact .number _ _
  · split
    · next hinf => exact .countTooLarge hinf
    · exact .number _ _

theorem gives_concat (args : List Value) : Gives args .concat (concat args) := by
  unfold concat
  cases htexts : (flatten args).mapM CellValue.display with
  | ok texts => exact .text _
  | error fault =>
    obtain ⟨before, v, after, hargs, -, hv⟩ := exists_of_mapM_eq_error htexts
    exact .notShown (by simp [hargs]) hv

theorem gives_of_eager {result : List Value → Outcome} (h : f.behaviour = .eager result)
    (args : List Value) : Gives args f (result args) := by
  cases f with
  | choose => cases h
  | sum =>
    cases h
    exact gives_sum args
  | average =>
    cases h
    exact gives_average args
  | concat =>
    cases h
    exact gives_concat args
  | minimum | maximum | count =>
    cases h
    exact .number _ _

theorem Gives.finiteOutcome_eq_ok {v : Value} (h : Gives args f o) (hv : finiteOutcome o = .ok v) :
    (∃ x : Float, x.isFinite ∧ v = .number x) ∨ (∃ t, v = .scalar (.text t)) ∨
      f = .sum ∧ v = .scalar (.integer 0) := by
  cases h with
  | number f x =>
    obtain ⟨y, hy, hv⟩ := bind_eq_ok.1 hv
    cases hv
    exact .inl ⟨y, isFinite_of_finite hy, rfl⟩
  | text t =>
    cases hv
    exact .inr (.inl ⟨t, rfl⟩)
  | emptySum =>
    cases hv
    exact .inr (.inr ⟨rfl, rfl⟩)
  | countTooLarge | notShown => cases hv

theorem eq_of_finite_eq_error {x : Float} {fault : Fault} (h : finite x = .error fault) :
    fault = .formula (.outOfRange .result) := by
  unfold finite at h
  split at h
  · cases h
  · exact (Except.error.inj h).symm

theorem Gives.finiteOutcome_eq_error {fault : Fault} (h : Gives args f o)
    (hfault : finiteOutcome o = .error fault) : fault = .formula (.outOfRange .result) ∨
      fault = .countTooLarge ∧ (nearestToInt (extent args)).isInf ∨
      ∃ v ∈ flatten args, v.display = .error fault := by
  cases h with
  | number f x =>
    rcases bind_eq_error.1 hfault with hx | ⟨y, -, hok⟩
    · exact .inl (eq_of_finite_eq_error hx)
    · cases hok
  | countTooLarge hinf =>
    cases hfault
    exact .inr (.inl ⟨rfl, hinf⟩)
  | notShown hv hdisplay =>
    cases hfault
    exact .inr (.inr ⟨_, hv, hdisplay⟩)
  | text | emptySum => cases hfault

end Standard

end Spreadsheet
