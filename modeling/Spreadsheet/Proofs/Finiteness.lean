import Spreadsheet.Proofs.Service.Shown
import Spreadsheet.Proofs.Sheet.Failures
import Spreadsheet.Proofs.WriteThrough

/-!
# No number is infinite or undefined

A formula whose numbers are finite, and that reads finite numbers only, evaluates to finite numbers
only. So the numbers of every sheet that operations lead to are finite, and every cell can be shown:
to find out what has changed, to join it to a text, and to answer a request
(`finite_and_shown`).
-/

namespace Spreadsheet

namespace Sheet

variable {s : Sheet}

/-- The numbers of a sheet are finite, and none of its values lacks a text when it is shown. -/
structure ShowsAll (s : Sheet) : Prop where
  isFinite : ∀ a, (s.grid.value a).IsFinite
  display : ∀ a, ∃ shown, (s.grid.value a).display = .ok shown
  view : ∀ a, ∃ view, Service.CellView.ofSheet s a = .ok view
  /-- An operation compares what cells show before and after it. -/
  perform : ∀ op f, (s.perform op).2 = some f → ¬ f.LacksText
  /-- A formula can join what cells show. -/
  evaluate : s.language.IsStandard → ∀ a f, s.grid.content? a = some (.formula f) →
    ∀ fault, evaluate s.language s.grid.reader f = .error fault → ¬ fault.LacksText

theorem InSync.showsAll (hs : s.InSync) : s.ShowsAll where
  isFinite a := CellValue.isFinite_iff.2 (hs.grid.displayable a)
  display a := hs.grid.displayable a
  view a := hs.exists_ofSheet a
  perform _ _ hf := (operationFault_of_perform hs hf).not_lacksText
  evaluate hlib a f hcontent fault h := by
    obtain ⟨raw, -, hread⟩ := hs.grid.exists_raw? hcontent
    exact (arises_of_evaluate hlib h).not_lacksText hlib hs.grid.displayable
      (Content.finiteNumbers_of_read hread)

end Sheet

/-- Events leave the live sheets in sync, and no reply tells of a number without a text. -/
theorem Service.shows_run (events : List Event) : ∀ {st : Store}, st.LiveInSync →
    (run st events).1.LiveInSync ∧ ∀ reply ∈ (run st events).2, reply.HasTexts := by
  induction events with
  | nil => exact fun h => ⟨h, by simp [run]⟩
  | cons event events ih =>
    intro st h
    cases event with
    | request r =>
      obtain ⟨hlive, hreply⟩ := shows_answer h r
      obtain ⟨hlive, hreplies⟩ := ih hlive
      exact ⟨hlive, List.forall_mem_cons.2 ⟨hreply, hreplies⟩⟩
    | evict id => exact ih (h.evict id)

/-- From finite numbers formulas make finite numbers, and nothing that is joined to a text on the
way lacks one. So it is with every sheet that operations lead to from an empty one, also if some of
them failed midway, and with every live sheet and every reply of a store, whatever its rows hold. -/
theorem finite_and_shown :
    (∀ (lib : Library) (reader : CellReader) (depth : Nat) (f : Formula), lib.IsStandard →
      f.FiniteNumbers → (∀ a, (reader.value a).IsFinite) →
        (∀ v, evalWithin lib reader depth f = .ok v → ∀ w ∈ v.operands, w.IsFinite) ∧
          ∀ fault, evalWithin lib reader depth f = .error fault → ¬ fault.LacksText) ∧
      (∀ (lang : Language) (s : Sheet), Sheet.Reachable lang s → s.ShowsAll) ∧
      ∀ (st : Store) (events : List Service.Event), st.live = ∅ →
        (∀ (id : Text) (s : Sheet), (Service.run st events).1.live[id]? = some s → s.ShowsAll) ∧
          ∀ reply ∈ (Service.run st events).2, reply.HasTexts := by
  refine ⟨fun lib reader depth f hlib hf hreader => ?_, fun lang s hs => hs.inSync.1.showsAll,
    fun st events hnone => ?_⟩
  · have hdisplay (a : Address) : (reader.value a).Displayable :=
      CellValue.isFinite_iff.1 (hreader a)
    refine ⟨fun v heval w hw => ?_, fun fault heval => ?_⟩
    · have hpossible := possible_of_evalWithin hlib hdisplay depth hf heval
      exact CellValue.isFinite_iff.2 (hpossible.displayable hdisplay w hw)
    · exact (arises_of_evalWithin hlib depth heval).not_lacksText hlib hdisplay hf
  · obtain ⟨hlive, hreplies⟩ := Service.shows_run events (Store.liveInSync_of_live_eq_empty hnone)
    exact ⟨fun id s hs => (hlive id s hs).1.showsAll, hreplies⟩

/-! ## A negated cell -/

/-- The negation of the first cell. -/
def negatedFirst : Formula :=
  .unary "-" (.ref ⟨0, 0⟩)

/-- Every cell holds a one. -/
def allOnes : CellReader :=
  .dense fun _ => .number 1

theorem finite_and_shown_negatedFirst :
    negatedFirst.FiniteNumbers ∧ (∀ a, (allOnes.value a).IsFinite) ∧
      (∃ v, eval (.standard .usual) allOnes negatedFirst = .ok v ∧ ∀ w ∈ v.operands, w.IsFinite) ∧
      (∃ s : Sheet, s.Follows (.number 2) ∧ s.ShowsAll) ∧
      (Store.empty Service.usualSetup).live = ∅ ∧
      ∀ reply ∈ (Service.run (.empty Service.usualSetup) Service.visit).2, reply.HasTexts := by
  obtain ⟨hformula, hsheet, hstore⟩ := finite_and_shown
  have hf : negatedFirst.FiniteNumbers := .unary _ (.ref _)
  have hreader : ∀ a, (allOnes.value a).IsFinite := by
    intro a
    show (1 : Float).isFinite
    decide
  obtain ⟨hvalue, -⟩ := hformula .standard allOnes NestingLimit.usual.depth negatedFirst
    Library.isStandard_standard hf hreader
  obtain ⟨s, -, -, hs, -, -⟩ := Sheet.exists_follows
  refine ⟨hf, hreader, ⟨_, rfl, hvalue _ rfl⟩, ⟨s, hs, hsheet _ s hs.reached.reachable⟩, rfl, ?_⟩
  exact (hstore (.empty Service.usualSetup) Service.visit rfl).2

end Spreadsheet
