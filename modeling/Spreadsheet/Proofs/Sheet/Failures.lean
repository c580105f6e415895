import Spreadsheet.Proofs.Evaluation.Faults
import Spreadsheet.Proofs.Formula.Soundness
import Spreadsheet.Proofs.Sheet.InSync
import Spreadsheet.Proofs.Solution

/-!
# Failures that cells show

An integer that a cell holds can be followed along the cells that are read to a formula that
evaluates a sum of no values (`exists_sumsNothingAt`). So a cell shows a failure because its formula
fails as expected, or because there is such a sum behind it (`expected_of_value_eq_failure`).
-/

namespace Spreadsheet

open Relation

/-- The formula of a cell evaluates a sum of no values on the way. -/
def Grid.SumsNothingAt (g : Grid) (lang : Language) (a : Address) : Prop :=
  ∃ f n h, g.content? a = some (.formula f) ∧
    Evaluates lang.toLibrary g.reader lang.limit.depth f n h ∧
      SumsNothing lang.toLibrary g.reader n h

/-! ## Contents -/

namespace Content

variable {lang : Language} {raw : Text}

theorem ne_integer_of_read {v : CellValue} (h : read lang raw = .ok (.literal v)) (z : ShortInt) :
    v ≠ .integer z := by
  unfold read at h
  split at h
  · split at h <;> cases h
  · split at h
    · cases h
      nofun
    · cases h
      nofun

theorem finiteNumbers_of_read {f : Formula} (h : read lang raw = .ok (.formula f)) :
    f.FiniteNumbers := by
  unfold read at h
  split at h
  · split at h
    · next hf =>
      cases h
      unfold readFormula at hf
      split at hf
      · next hparse =>
        cases hf
        exact (Formula.legal_of_parse hparse).finiteNumbers
      · cases hf
        exact .failed _ _
      · cases hf
        exact .failed _ _
      · cases hf
    · cases h
  · split at h <;> cases h

end Content

/-! ## Grids -/

namespace Grid

variable {g : Grid} {lang : Language} {limit : NestingLimit} {a : Address} {f : Formula}

/-- The formula of a cell fails as expected, or because of an integer, its own or one of a cell that
it reads. -/
theorem expected_of_evaluate_eq_error (hg : g.WellFormed (.standard limit))
    (hcontent : g.content? a = some (.formula f)) (hf : f.Legal Library.standard.contains)
    {fault : Fault} (h : evaluate (.standard limit) g.reader f = .error fault) :
    fault.Expected limit.depth f.size ∨ fault = .integerOperand ∧
      (g.SumsNothingAt (.standard limit) a ∨ ∃ b z, g.Reads a b ∧ g.value b = .integer z) := by
  rcases evalWithin_of_evaluate_eq_error h with ⟨e, rfl⟩ | heval
  · exact .inl (.formula e)
  · cases fails_of_evalWithin hg.displayable _ hf heval with
    | expected hfault => exact .inl hfault
    | integer hpart hinteger =>
      refine .inr ⟨rfl, ?_⟩
      rcases exists_source_of_integer Library.isStandard_standard hg.displayable hf.finiteNumbers
        hpart hinteger with ⟨n, h, hh, hsum⟩ | ⟨b, hb, hvalue⟩
      · exact .inl ⟨f, n, h, hcontent, hh, hsum⟩
      · exact .inr ⟨b, _, reads_of_mem_leaves hcontent hb, hvalue⟩

theorem acyclic_of_integer (hsettled : ∀ a, g.Settled lang a) {z : ShortInt}
    (h : g.value a = .integer z) : a ∈ g.cells ∧ ¬ g.OnCycle a := by
  constructor
  · by_contra ha
    rw [value_eq_empty ha] at h
    cases h
  · intro hcycle
    rw [(hsettled a).cycle hcycle] at h
    cases h

/-- An integer that a cell holds comes from a sum of no values, through the cells that are read. -/
theorem exists_sumsNothingAt (hlib : lang.IsStandard) (hg : g.WellFormed lang)
    (hsettled : ∀ a, g.Settled lang a) {z : ShortInt} (h : g.value a = .integer z) :
    ∃ b, ReflTransGen g.Reads a b ∧ g.SumsNothingAt lang b := by
  -- along the cells that are read: there are finitely many, and none of them lies on a cycle
  suffices hacyclic : ∀ x : g.Acyclic, ∀ z, g.value x.1 = .integer z →
      ∃ b, ReflTransGen g.Reads x.1 b ∧ g.SumsNothingAt lang b from
    hacyclic ⟨a, acyclic_of_integer hsettled h⟩ z h
  intro x
  induction x using g.wellFounded_reads.induction with
  | _ x ih =>
    intro z hz
    rw [(hsettled x.1).computed x.2.2 (keepsToArguments hlib.keepsToArguments g x.1)] at hz
    unfold computed at hz
    split at hz
    · cases hz
    · next v hv =>
      obtain ⟨raw, -, hread⟩ := hg.exists_raw? hv
      exact (Content.ne_integer_of_read hread z hz).elim
    · next f hf =>
      obtain ⟨raw, -, hread⟩ := hg.exists_raw? hf
      unfold outcome at hz
      split at hz
      · next v heval =>
        subst hz
        cases possible_of_evaluate hlib hg.displayable (Content.finiteNumbers_of_read hread)
          heval with
        | integer hh hsum => exact ⟨x.1, .refl, f, _, _, hf, hh, hsum⟩
        | @cell b _ hb hvalue =>
          have hvalue : g.value b = .integer z := (eq_of_read_eq_ok hvalue).1
          have hstep := reads_of_mem_leaves hf hb
          obtain ⟨c, hreach, hsum⟩ :=
            ih ⟨b, acyclic_of_integer hsettled hvalue⟩ (.single hstep) z hvalue
          exact ⟨c, .head hstep hreach, hsum⟩
      · cases hz
      · cases hz

/-- A cell with a formula shows a failure because the formula fails as expected, or because a sum of
no values is evaluated by the cell or by one that it reads, directly or through others. -/
theorem expected_of_value_eq_failure (hg : g.WellFormed (.standard limit))
    (hsettled : ∀ a, g.Settled (.standard limit) a) (hcontent : g.content? a = some (.formula f))
    (hf : f.Legal Library.standard.contains) (h : g.value a = .error .failure) :
    (∃ fault, evaluate (.standard limit) g.reader f = .error fault ∧
      fault.Expected limit.depth f.size) ∨
      ∃ b, ReflTransGen g.Reads a b ∧ g.SumsNothingAt (.standard limit) b := by
  have hcycle : ¬ g.OnCycle a := fun hcycle => by
    rw [(hsettled a).cycle hcycle] at h
    cases h
  have hlib : (Language.standard limit).IsStandard := Library.isStandard_standard
  rw [(hsettled a).computed hcycle (keepsToArguments hlib.keepsToArguments g a), computed,
    hcontent] at h
  cases heval : evaluate (.standard limit) g.reader f with
  | ok v =>
    -- an error that is read ends the evaluation, so it is no value of a formula
    have hv : v = .error .failure := by simpa [outcome, heval] using h
    subst hv
    have hpossible := possible_of_evaluate hlib hg.displayable
      hf.finiteNumbers heval
    cases hpossible with
    | cell _ hread => exact ((eq_of_read_eq_ok hread).2 _ rfl).elim
  | error fault =>
    rcases expected_of_evaluate_eq_error hg hcontent hf heval with
      hexpected | ⟨rfl, hsum | ⟨b, z, hread, hvalue⟩⟩
    · exact .inl ⟨fault, rfl, hexpected⟩
    · exact .inr ⟨a, .refl, hsum⟩
    · obtain ⟨c, hreach, hsum⟩ :=
        exists_sumsNothingAt hlib hg hsettled hvalue
      exact .inr ⟨c, .head hread hreach, hsum⟩

end Grid

end Spreadsheet
