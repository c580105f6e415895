import Spreadsheet.Proofs.Evaluation.Domain
import Spreadsheet.Proofs.Sheet.Failures
import Spreadsheet.Proofs.Sheet.Operation

/-!
# Evaluation stays among the values of a sheet

A formula that was read evaluates to nothing, a finite number, a text or a range of those, or it
fails as expected. The sum of no values is the one way out: it is an integer, which no arithmetic
and no condition takes (`inDomain_or_sumsNothing`). So if a formula that was read fails in any other
way, it or a formula behind it evaluates such a sum.
-/

namespace Spreadsheet

open Relation

/-- A formula that was read ends well, or a sum of no values is evaluated on the way, whichever
members of a range are read. In a cell of a sheet in sync, an integer that another cell holds can be
in the way too. If the values are up to date and the cell shows a failure, then its formula fails as
expected, or the cell or one that it reads, directly or through others, evaluates such a sum. -/
theorem inDomain_or_sumsNothing {reader : CellReader}
    (hreader : ∀ a, (reader.value a).InDomain ∨ ∃ code, reader.value a = .error code)
    {readDepth : Nat} {ts : List Token} {f : Formula}
    (hf : Formula.ofTokensWithin readDepth Library.standard.contains ts = .ok f) (depth : Nat) :
    (EndsWell depth f.size (evalWithin .standard reader depth f) ∨
      (evalWithin .standard reader depth f = .ok (.scalar (.integer 0)) ∨
        evalWithin .standard reader depth f = .error .integerOperand) ∧
        ∃ n g, Evaluates .standard reader depth f n g ∧ SumsNothing .standard reader n g) ∧
      (∀ limit (s : Sheet) a, s.InSync → s.language = .standard limit →
        s.grid.content? a = some (.formula f) →
          ∀ fault, evaluate (.standard limit) s.grid.reader f = .error fault →
            fault.Expected limit.depth f.size ∨ fault = .integerOperand ∧
              (s.grid.SumsNothingAt (.standard limit) a ∨
                ∃ b z, s.grid.Reads a b ∧ s.grid.value b = .integer z)) ∧
      ∀ limit s a, Sheet.Reached (.standard limit) s → s.grid.content? a = some (.formula f) →
        s.grid.value a = .error .failure →
          (∃ fault, evaluate (.standard limit) s.grid.reader f = .error fault ∧
            fault.Expected limit.depth f.size) ∨
            ∃ b, ReflTransGen s.grid.Reads a b ∧ s.grid.SumsNothingAt (.standard limit) b := by
  have hlegal := Formula.legal_of_ofTokensWithin hf
  refine ⟨endsWell_or_sumsNothing hreader hlegal depth, ?_, ?_⟩
  · intro limit s a hs hlang hcontent fault h
    exact Grid.expected_of_evaluate_eq_error (hlang ▸ hs.grid) hcontent hlegal h
  · intro limit s a hs hcontent h
    obtain ⟨hsync, hlang⟩ := hs.reachable.inSync
    exact Grid.expected_of_value_eq_failure (hlang ▸ hsync.grid) hs.settled hcontent hlegal h

/-! ## A sum of no values -/

/-- The tokens of `SUM()+1`. -/
def sumTokens : List Token :=
  [⟨.name, "SUM", 0⟩, ⟨.operator, "(", 3⟩, ⟨.operator, ")", 4⟩, ⟨.operator, "+", 5⟩,
    ⟨.number, "1", 6⟩]

/-- One is added to a sum of no values. -/
def emptySumPlusOne : Formula :=
  .binary "+" (.call "SUM" []) (.number 1)

theorem evaluate_emptySumPlusOne (reader : CellReader) :
    evaluate (.standard .usual) reader emptySumPlusOne = .error .integerOperand := rfl

theorem not_expected_integerOperand {depth size : Nat} :
    ¬ Fault.integerOperand.Expected depth size := nofun

/-- A sheet with this formula in its first cell, which shows a failure. -/
theorem exists_reached_emptySumPlusOne : ∃ s, Sheet.Reached (.standard .usual) s ∧
    s.grid.content? ⟨0, 0⟩ = some (.formula emptySumPlusOne) ∧
      s.grid.value ⟨0, 0⟩ = .error .failure := by
  have htrim : Text.trim "=SUM()+1" = "=SUM()+1" := by decide
  have hmark : Formula.dropMark "=SUM()+1" = "SUM()+1" := by decide
  have htokens : tokenize "SUM()+1" = .ok sumTokens := by decide +kernel
  have hread : Content.read (.standard .usual) "=SUM()+1" =
      .ok (.formula emptySumPlusOne) := by
    rw [Content.read, htrim, if_pos (by decide), Content.readFormula, Formula.parse, htrim, hmark,
      htokens]
    rfl
  obtain ⟨s, hs, hcontent⟩ :=
    Sheet.exists_reached_of_read (a := ⟨0, 0⟩) (by decide) (by decide) hread
  have hcycle : ¬ s.grid.OnCycle ⟨0, 0⟩ := fun hcycle => by
    obtain ⟨b, hb, -⟩ := TransGen.head'_iff.1 hcycle
    rw [Grid.Reads, Grid.reads_eq_of_formula hcontent] at hb
    simpa [emptySumPlusOne, Formula.leaves, Formula.leavesAll] using Formula.cover_reads_iff.1 hb
  refine ⟨s, hs, hcontent, ?_⟩
  have hlib : (Language.standard .usual).IsStandard := Library.isStandard_standard
  rw [(hs.settled _).computed hcycle (Grid.keepsToArguments hlib.keepsToArguments _ _),
    Grid.computed, hcontent]
  rfl

theorem sumsNothing_emptySumPlusOne :
    (∃ n g, Evaluates .standard (.dense fun _ => .empty) 3 emptySumPlusOne n g ∧
      SumsNothing .standard (.dense fun _ => .empty) n g) ∧
      ∃ s, Sheet.Reached (.standard .usual) s ∧ s.grid.value ⟨0, 0⟩ = .error .failure ∧
        (s.grid.SumsNothingAt (.standard .usual) ⟨0, 0⟩ ∨
          ∃ b z, s.grid.Reads ⟨0, 0⟩ b ∧ s.grid.value b = .integer z) ∧
        ∃ b, ReflTransGen s.grid.Reads ⟨0, 0⟩ b ∧ s.grid.SumsNothingAt (.standard .usual) b := by
  have hread : Formula.ofTokensWithin 5 Library.standard.contains sumTokens =
      .ok emptySumPlusOne := rfl
  have hempty (a : Address) : ((CellReader.dense fun _ => .empty).value a).InDomain ∨
      ∃ code, (CellReader.dense fun _ => .empty).value a = .error code := .inl trivial
  obtain ⟨hends, hfault, hfailure⟩ := inDomain_or_sumsNothing hempty hread 3
  obtain ⟨s, hs, hcontent, hvalue⟩ := exists_reached_emptySumPlusOne
  obtain ⟨hsync, hlang⟩ := hs.reachable.inSync
  have heval := evaluate_emptySumPlusOne s.grid.reader
  refine ⟨?_, s, hs, hvalue, ?_, ?_⟩
  · refine (hends.resolve_left fun hwell => ?_).2
    change EndsWell 3 _ (.error .integerOperand) at hwell
    cases hwell with
    | error h => exact not_expected_integerOperand h
  · exact
      ((hfault .usual s _ hsync hlang hcontent _ heval).resolve_left not_expected_integerOperand).2
  · refine (hfailure .usual s _ hs hcontent hvalue).resolve_left
      fun ⟨fault, hfault, hexpected⟩ => ?_
    rw [heval] at hfault
    cases hfault
    exact not_expected_integerOperand hexpected

end Spreadsheet
