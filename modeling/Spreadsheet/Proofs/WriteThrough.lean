import Spreadsheet.Proofs.Library.Calls
import Spreadsheet.Proofs.Service.Answer

/-!
# The store is written through

After every request the row of each live sheet is read back as the snapshot of the sheet, and
letting go of live sheets between requests changes no answer (`write_through`). How bodies and
stored cells are checked is not fixed: requests come with the data that a check has found in their
bodies, and what a store is set up with has to restore the texts that requests can have. The calls
that write texts into stored sheets have to return; a call that fails midway changes a live sheet
without saving it.
-/

namespace Spreadsheet.Service

/-- What happens to a store. -/
inductive Event where
  | request (r : Request)
  /-- The store lets go of a live sheet. -/
  | evict (id : Text)

/-- The requests among events. -/
def requestsOf (events : List Event) : List Request :=
  events.filterMap fun
    | .request r => some r
    | .evict _ => none

/-- The store that events leave, and the answers to the requests among them. -/
def run : Store → List Event → Store × List Reply
  | st, [] => (st, [])
  | st, .request r :: events =>
    let (st, reply) := answer st r
    let (st, replies) := run st events
    (st, reply :: replies)
  | st, .evict id :: events => run (st.evict id) events

/-- The row of every live sheet is read back as the snapshot of the sheet. -/
def WrittenThrough (st : Store) : Prop :=
  ∀ (id : Text) (s : Sheet), st.live[id]? = some s →
    ∃ row : Row, st.rows[id]? = some row ∧ row.snapshot st.setup.check = .ok s.snapshot

/-- Along requests, every call that writes texts into a stored sheet returns. -/
def EditsReturnAlong : Store → List Request → Prop
  | _, [] => True
  | st, r :: requests => EditsReturn st r ∧ EditsReturnAlong (answer st r).1 requests

theorem writtenThrough_of_sound {admits : Text → Prop} {st : Store} (h : st.Sound admits) :
    WrittenThrough st := by
  intro id s hs
  have hholds := h.live id s hs
  obtain ⟨title, hrow⟩ := hholds.row
  exact ⟨_, hrow, hholds.snapshot_eq h.setup hrow⟩

theorem EditsReturnAlong.of_append {requests later : List Request} :
    ∀ {st : Store}, EditsReturnAlong st (requests ++ later) → EditsReturnAlong st requests := by
  induction requests with
  | nil => exact fun _ => trivial
  | cons r requests ih => exact fun h => ⟨h.1, ih h.2⟩

/-- Letting go of live sheets changes neither the answers nor the rows. -/
theorem twins_run {admits : Text → Prop} (events : List Event) : ∀ {st st' : Store},
    Twins admits st st' → (∀ r ∈ requestsOf events, ∀ t ∈ r.texts, admits t) →
      EditsReturnAlong st (requestsOf events) →
        Twins admits (run st ((requestsOf events).map .request)).1 (run st' events).1 ∧
          (run st ((requestsOf events).map .request)).2 = (run st' events).2 := by
  -- the stores differ more and more in what is live, but stay sound and keep the same rows
  induction events with
  | nil => exact fun h _ _ => ⟨h, rfl⟩
  | cons event events ih =>
    intro st st' h htexts hreturn
    cases event with
    | request r =>
      obtain ⟨hr, htexts⟩ := List.forall_mem_cons.1 htexts
      obtain ⟨hreply, hnext⟩ := alike_answer h hr hreturn.1
      obtain ⟨htwins, hreplies⟩ := ih hnext htexts hreturn.2
      exact ⟨htwins, congrArg₂ List.cons hreply hreplies⟩
    | evict id =>
      have hevict : Twins admits st (st'.evict id) :=
        ⟨⟨h.sameRows.setup, h.sameRows.rows, h.sameRows.created⟩, h.sound, h.sound'.evict id⟩
      exact ih hevict htexts hreturn

theorem twins_empty {admits : Text → Prop} {setup : Setup} (h : setup.Restores admits) :
    Twins admits (.empty setup) (.empty setup) :=
  ⟨.refl _, Store.sound_empty h, Store.sound_empty h⟩

/-- A store is written through after every event, and answers as if it had let go of no sheet. -/
theorem write_through {setup : Setup} {admits : Text → Prop} (hsetup : setup.Restores admits)
    {events : List Event} (htexts : ∀ r ∈ requestsOf events, ∀ t ∈ r.texts, admits t)
    (hreturn : EditsReturnAlong (.empty setup) (requestsOf events)) :
    (∀ before, before <+: events → WrittenThrough (run (.empty setup) before).1) ∧
      (run (.empty setup) events).2 =
        (run (.empty setup) ((requestsOf events).map .request)).2 := by
  refine ⟨fun before hbefore => ?_, (twins_run events (twins_empty hsetup) htexts hreturn).2.symm⟩
  obtain ⟨after, rfl⟩ := hbefore
  rw [requestsOf, List.filterMap_append] at htexts hreturn
  obtain ⟨htwins, -⟩ := twins_run before (twins_empty hsetup)
    (fun r hr => htexts r (List.mem_append_left _ hr)) hreturn.of_append
  exact writtenThrough_of_sound htwins.sound'

/-! ## A sheet that is let go of -/

/-- The functions that come with the program, and stored cells that are not converted. -/
def usualSetup : Setup :=
  ⟨.standard .usual, 100, 26, .strict⟩

/-- A sheet is made, written to, styled, let go of and shown. -/
def visit : List Event :=
  [.request (.create (.ok ⟨"Untitled Sheet", none, none, []⟩)),
    .request (.cell "s1" (.ok ⟨"A1", "x"⟩)),
    .request (.style "s1" "A1" (.ok { Style.plain with background := some "red" })),
    .evict "s1", .request (.get "s1")]

theorem restores_usualSetup : usualSetup.Restores Text.IsJoined where
  keepsToArguments := Library.isStandard_standard.keepsToArguments
  isRead _ ht := Text.isRead_iff.2 ht
  admits_label := Address.isJoined_label
  readsBack := CellsCheck.readsBack_strict _

theorem isJoined_of_mem_visit : ∀ r ∈ requestsOf visit, ∀ t ∈ r.texts, t.IsJoined := by
  have htexts : ((requestsOf visit).flatMap Request.texts) = ["x", "red"] := rfl
  intro r hr t ht
  have hmem : t ∈ (requestsOf visit).flatMap Request.texts := List.mem_flatMap.2 ⟨r, hr, ht⟩
  rw [htexts] at hmem
  rcases List.mem_pair.1 hmem with rfl | rfl <;> exact Text.isJoined_ofString _

theorem editsReturn_visit : EditsReturnAlong (.empty usualSetup) (requestsOf visit) := by
  have hcreate : EditsReturn (.empty usualSetup)
      (.create (.ok ⟨"Untitled Sheet", none, none, []⟩)) := nofun
  have hmade := alike_answer (twins_empty restores_usualSetup)
    (isJoined_of_mem_visit _ (List.mem_cons_self ..)) hcreate
  refine ⟨hcreate, ?_, nofun, nofun, trivial⟩
  intro id edits hedits st s hload checked hchecked
  cases hedits
  have hchecked' : checkedEdits [⟨"A1", "x"⟩] = .ok [(⟨0, 0⟩, some "x")] := rfl
  rw [hchecked', Except.ok.injEq] at hchecked
  subst hchecked
  have hholds := hmade.twins.sound.holds_of_load hload
  have haccepts : s.language.Accepts (some "x") := by
    intro t ht
    have hheld : heldText (some "x") = some ("x" : Text) := by decide
    rw [hheld] at ht
    cases ht
    exact ⟨_, rfl⟩
  have hedits : ∀ edit ∈ [((⟨0, 0⟩, some "x") : Address × Option Text)],
      s.language.Accepts edit.2 :=
    List.forall_mem_cons.2 ⟨haccepts, by simp⟩
  obtain ⟨u, changed, heq, -⟩ := Sheet.applyEdits_eq hholds.reached.reachable.inSync.1 hedits
  exact ⟨changed, by rw [heq]⟩

theorem write_through_visit : WrittenThrough (run (.empty usualSetup) visit).1 ∧
    (run (.empty usualSetup) visit).2 =
      (run (.empty usualSetup) ((requestsOf visit).map .request)).2 := by
  obtain ⟨hwritten, hreplies⟩ :=
    write_through restores_usualSetup isJoined_of_mem_visit editsReturn_visit
  exact ⟨hwritten visit (List.prefix_refl visit), hreplies⟩

end Spreadsheet.Service
