import Mathlib.Logic.Basic
import Spreadsheet.Dependency.Edges
import Spreadsheet.Proofs.Dependency.Closure

/-!
# Edges agree in both directions

`Edges.Valid` says that both directions hold the same edges and that neither has empty entries.
`Edges.set` keeps it (`set_eq`), never meets an edge that is missing in the other direction, and
replaces what one cell reads. Valid edges are determined by what every cell reads (`Valid.ext`), and
both maps hold exactly that (`Valid.record`).
-/

namespace Spreadsheet

open Std (ExtTreeMap ExtTreeSet)

/-! ## Maps to sets that are not empty -/

section Entries

variable {α β : Type} [Ord α] [Std.TransOrd α] [Ord β]

/-- A map to sets without empty entries. -/
def NoEmptyEntry (m : ExtTreeMap α (ExtTreeSet β)) : Prop :=
  ∀ a : α, m[a]? ≠ some (∅ : ExtTreeSet β)

theorem noEmptyEntry_empty : NoEmptyEntry (∅ : ExtTreeMap α (ExtTreeSet β)) := by
  simp [NoEmptyEntry]

theorem NoEmptyEntry.insert [Std.LawfulEqOrd α] {m : ExtTreeMap α (ExtTreeSet β)}
    (h : NoEmptyEntry m) (a : α) {t : ExtTreeSet β} (ht : t ≠ ∅) :
    NoEmptyEntry (m.insert a t) := by
  intro b
  by_cases hab : a = b <;> simp [hab, ExtTreeMap.getElem?_insert, ht, h b]

variable [Std.TransOrd β]

/-- Without empty entries, only a look-up that misses finds the empty set. -/
theorem NoEmptyEntry.getElem?_eq {m : ExtTreeMap α (ExtTreeSet β)} (h : NoEmptyEntry m) (a : α) :
    m[a]? = if (m.getD a ∅).isEmpty then none else some (m.getD a ∅) := by
  simp only [ExtTreeMap.getD_eq_getD_getElem?]
  rcases hm : m[a]? with _ | t
  · simp
  · have ht : t ≠ ∅ := fun ht => h a (ht ▸ hm)
    simp [ht]

theorem NoEmptyEntry.getElem?_eq_some_iff {m : ExtTreeMap α (ExtTreeSet β)} (h : NoEmptyEntry m)
    (a : α) (t : ExtTreeSet β) : m[a]? = some t ↔ t ≠ ∅ ∧ t = m.getD a ∅ := by
  rw [h.getElem?_eq]
  by_cases ha : m.getD a ∅ = ∅
  · simp [ha]
  · rw [if_neg (by simpa using ha), Option.some.injEq, eq_comm]
    exact (and_iff_right_of_imp fun ht => ht ▸ ha).symm

theorem NoEmptyEntry.mem_iff {m : ExtTreeMap α (ExtTreeSet β)} (h : NoEmptyEntry m) (a : α) :
    a ∈ m ↔ m.getD a ∅ ≠ ∅ := by
  rw [ExtTreeMap.mem_iff_isSome_getElem?, h.getElem?_eq]
  by_cases ha : m.getD a ∅ = ∅ <;> simp [ha]

variable [Std.LawfulEqOrd α]

theorem NoEmptyEntry.ext {m m' : ExtTreeMap α (ExtTreeSet β)} (h : NoEmptyEntry m)
    (h' : NoEmptyEntry m') (heq : ∀ a, m.getD a ∅ = m'.getD a ∅) : m = m' := by
  refine ExtTreeMap.ext_getElem? fun a => ?_
  rw [h.getElem?_eq, h'.getElem?_eq, heq]

/-- Setting an entry, or removing it when the set is empty. -/
theorem getD_entry [DecidableEq α] (m : ExtTreeMap α (ExtTreeSet β)) (a b : α) (t : ExtTreeSet β) :
    (if t.isEmpty then m.erase a else m.insert a t).getD b ∅ =
      if b = a then t else m.getD b ∅ := by
  by_cases ht : t = ∅
  · by_cases hab : b = a
    · simp [ht, hab]
    · simp [ht, hab, ExtTreeMap.getD_erase, Ne.symm hab]
  · by_cases hab : b = a
    · simp [ht, hab]
    · simp [ht, hab, ExtTreeMap.getD_insert, Ne.symm hab]

theorem NoEmptyEntry.entry {m : ExtTreeMap α (ExtTreeSet β)} (h : NoEmptyEntry m) (a : α)
    (t : ExtTreeSet β) : NoEmptyEntry (if t.isEmpty then m.erase a else m.insert a t) := by
  by_cases ht : t = ∅
  · rw [if_pos (by simpa using ht)]
    exact fun b => by by_cases hab : a = b <;> simp [hab, ExtTreeMap.getElem?_erase, h b]
  · rw [if_neg (by simpa using ht)]
    exact h.insert a ht

end Entries

namespace Edges

variable {κ : Type} [Ord κ] [Std.TransOrd κ]

/-- Both directions hold the same edges, and neither has empty entries. -/
structure Valid (e : Edges κ) : Prop where
  mem_readersOf_iff : ∀ {a k}, a ∈ e.readersOf k ↔ k ∈ e.readBy a
  forward : NoEmptyEntry e.forward
  backward : NoEmptyEntry e.backward

theorem valid_empty : (empty : Edges κ).Valid where
  mem_readersOf_iff := by simp [empty, readersOf, readBy]
  forward := noEmptyEntry_empty
  backward := noEmptyEntry_empty

/-! ## What the maps hold -/

/-- Both maps of edges hold exactly what every cell reads: a cell has an entry if it reads anything,
and a thing has one if it is read. -/
structure Record (e : Edges κ) (reads : Address → ExtTreeSet κ) : Prop where
  forward : ∀ a t, e.forward[a]? = some t ↔ t ≠ ∅ ∧ t = reads a
  backward : ∀ k t, e.backward[k]? = some t ↔ t ≠ ∅ ∧ ∀ a, a ∈ t ↔ k ∈ reads a

theorem Valid.record {e : Edges κ} (h : e.Valid) : e.Record e.readBy := by
  refine ⟨h.forward.getElem?_eq_some_iff, fun k t => ?_⟩
  rw [h.backward.getElem?_eq_some_iff]
  refine and_congr_right fun _ => ⟨?_, fun hmem => ExtTreeSet.ext_mem fun a => ?_⟩
  · rintro rfl a
    exact h.mem_readersOf_iff
  · exact (hmem a).trans h.mem_readersOf_iff.symm

variable [Std.LawfulEqOrd κ]

theorem Valid.ext {e e' : Edges κ} (h : e.Valid) (h' : e'.Valid)
    (heq : ∀ a, e.readBy a = e'.readBy a) : e = e' := by
  have hforward : e.forward = e'.forward := h.forward.ext h'.forward heq
  have hbackward : e.backward = e'.backward := by
    refine h.backward.ext h'.backward fun k => ExtTreeSet.ext_mem fun a => ?_
    exact h.mem_readersOf_iff.trans ((heq a).symm ▸ h'.mem_readersOf_iff.symm)
  cases e
  cases e'
  simp_all

theorem mem_sources_iff {e : Edges κ} {a : Address} :
    a ∈ e.sources ↔ ∃ k, a ∈ e.readersOf k := by
  simp only [sources, List.mem_flatMap, Prod.exists, ExtTreeMap.mem_toList_iff_getElem?_eq_some,
    ExtTreeSet.mem_toList, readersOf, ExtTreeMap.getD_eq_getD_getElem?]
  constructor
  · rintro ⟨k, t, hk, ha⟩
    exact ⟨k, by simpa [hk] using ha⟩
  · rintro ⟨k, ha⟩
    rcases hk : e.backward[k]? with _ | t
    · simp [hk] at ha
    · exact ⟨k, t, hk, by simpa [hk] using ha⟩

/-! ## Taking edges out and putting edges in -/

/-- Edges that are there can be taken out. -/
theorem unlink_eq (cell : Address) (ks : List κ) : ∀ {b : ExtTreeMap κ (ExtTreeSet Address)},
    NoEmptyEntry b → ks.Nodup → (∀ k ∈ ks, cell ∈ b.getD k ∅) →
      ∃ b', unlink cell b ks = (b', none) ∧ NoEmptyEntry b' ∧
        ∀ a k, a ∈ b'.getD k ∅ ↔ a ∈ b.getD k ∅ ∧ ¬(a = cell ∧ k ∈ ks) := by
  induction ks with
  | nil => exact fun hb _ _ => ⟨_, rfl, hb, by simp⟩
  | cons k ks ih =>
    intro b hb hnodup hks
    obtain ⟨hk, hnodup⟩ := List.nodup_cons.1 hnodup
    have hcell : cell ∈ b.getD k ∅ := hks k List.mem_cons_self
    have hbk : b[k]? = some (b.getD k ∅) := by
      rw [hb.getElem?_eq, if_neg (by simpa using ExtTreeSet.ne_empty_of_mem hcell)]
    classical
    have hentry (x : κ) := getD_entry b k x ((b.getD k ∅).erase cell)
    obtain ⟨b', hb', hempty, hmem⟩ := ih (hb.entry k ((b.getD k ∅).erase cell)) hnodup
      fun x hx => by
        have hxk : x ≠ k := by
          rintro rfl
          exact hk hx
        rw [hentry, if_neg hxk]
        exact hks x (List.mem_cons_of_mem _ hx)
    refine ⟨b', ?_, hempty, fun a x => ?_⟩
    · simpa only [unlink, hbk] using hb'
    · rw [hmem, hentry]
      by_cases hx : x = k
      · subst hx
        simp only [if_true, ExtTreeSet.mem_erase, ne_eq, Std.LawfulEqOrd.compare_eq_iff_eq, hk,
          and_false, not_false_eq_true, and_true, List.mem_cons, true_or]
        exact and_comm.trans (and_congr_right fun _ => not_congr eq_comm)
      · simp [hx]

theorem link_spec (cell : Address) (ks : List κ) : ∀ {b : ExtTreeMap κ (ExtTreeSet Address)},
    NoEmptyEntry b → NoEmptyEntry (link cell b ks) ∧
      ∀ a k, a ∈ (link cell b ks).getD k ∅ ↔ a ∈ b.getD k ∅ ∨ (a = cell ∧ k ∈ ks) := by
  induction ks with
  | nil => exact fun hb => ⟨hb, by simp [link]⟩
  | cons k ks ih =>
    intro b hb
    obtain ⟨hempty, hmem⟩ := ih (hb.insert k ExtTreeSet.insert_ne_empty)
    refine ⟨hempty, fun a x => (hmem a x).trans ?_⟩
    by_cases hx : k = x
    · subst hx
      simp only [ExtTreeMap.getD_insert_self, ExtTreeSet.mem_insert,
        Std.LawfulEqOrd.compare_eq_iff_eq, eq_comm (a := cell), List.mem_cons, true_or, and_true]
      tauto
    · simp [ExtTreeMap.getD_insert, hx, Ne.symm hx]

/-- Replacing what a cell reads keeps valid edges valid and changes nothing else. -/
theorem set_eq {e : Edges κ} (h : e.Valid) (cell : Address) (new : ExtTreeSet κ) :
    ∃ e', e.set cell new = (e', none) ∧ e'.Valid ∧
      ∀ a, e'.readBy a = if a = cell then new else e.readBy a := by
  have hold : ∀ k, k ∈ (e.readBy cell).toList.filter (fun k => !new.contains k) ↔
      k ∈ e.readBy cell ∧ k ∉ new := by
    simp [← ExtTreeSet.contains_iff_mem]
  have hnew : ∀ k, k ∈ new.toList.filter (fun k => !(e.readBy cell).contains k) ↔
      k ∈ new ∧ k ∉ e.readBy cell := by
    simp [← ExtTreeSet.contains_iff_mem]
  obtain ⟨b, hb, hbempty, hbmem⟩ := unlink_eq cell
    ((e.readBy cell).toList.filter fun k => !new.contains k) h.backward
    ((nodup_toList _).filter _) fun k hk => h.mem_readersOf_iff.2 ((hold k).1 hk).1
  obtain ⟨hempty, hmem⟩ := link_spec cell
    (new.toList.filter fun k => !(e.readBy cell).contains k) hbempty
  have hread (a : Address) : readBy ⟨if new.isEmpty then e.forward.erase cell else
      e.forward.insert cell new, link cell b (new.toList.filter fun k =>
        !(e.readBy cell).contains k)⟩ a = if a = cell then new else e.readBy a :=
    getD_entry e.forward cell a new
  refine ⟨_, by simp only [set, hb], ⟨fun {a k} => ?_, h.forward.entry cell new, hempty⟩, hread⟩
  have hedge : a ∈ e.backward.getD k ∅ ↔ k ∈ e.readBy a := h.mem_readersOf_iff
  rw [hread, readersOf, hmem, hbmem, hold, hnew, hedge]
  by_cases ha : a = cell
  · subst ha
    simp only [if_true, true_and]
    tauto
  · simp [ha]

end Edges

end Spreadsheet
