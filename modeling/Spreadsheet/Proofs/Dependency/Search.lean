import Mathlib.Logic.Relation
import Mathlib.Data.Finset.Card
import Mathlib.Data.List.Nodup
import Spreadsheet.Dependency.Components

/-!
# A search for components

`Search.Valid` is what holds of the search between two steps, for the `path` of nodes that it has
entered and not yet left: the nodes on the stack are reached from those below them, and each of
them leads back to a node of the path that was entered before it. `Search.Extends` is what a search
keeps as it goes on. Entering a node (`valid_enter`) and closing a component (`valid_close`) keep a
search valid.
-/

namespace Spreadsheet

open Relation

variable {α : Type}

/-- A node can be reached from another one. -/
abbrev Reaches (successors : α → List α) : α → α → Prop :=
  ReflTransGen fun v w => w ∈ successors v

/-- Groups of nodes that are strongly connected and lead only into themselves and into those that
follow. -/
def Layered (successors : α → List α) : List (List α) → Prop
  | [] => True
  | c :: cs =>
    c ≠ [] ∧ (∀ v ∈ c, ∀ w ∈ c, Reaches successors v w) ∧
      (∀ v ∈ c, ∀ w ∈ successors v, w ∈ c ∨ w ∈ cs.flatten) ∧ Layered successors cs

namespace Layered

variable {successors : α → List α} {cs : List (List α)}

theorem mem_of_reaches (h : Layered successors cs) {v w : α} (hv : v ∈ cs.flatten)
    (hw : Reaches successors v w) : w ∈ cs.flatten := by
  have step : ∀ {cs : List (List α)}, Layered successors cs → ∀ {v w : α}, v ∈ cs.flatten →
      w ∈ successors v → w ∈ cs.flatten := by
    intro cs
    induction cs with
    | nil => simp
    | cons c cs ih =>
      rintro ⟨-, -, hc, hcs⟩ v w hv hw
      rw [List.flatten_cons, List.mem_append] at hv ⊢
      exact hv.elim (fun hv => hc v hv w hw) fun hv => .inr (ih hcs hv hw)
  induction hw with
  | refl => exact hv
  | tail _ hw ih => exact step h ih hw

end Layered

namespace Search

variable [Ord α] [Std.TransOrd α]

/-- The number of a node on the stack. -/
def number (s : Search α) (v : α) : Nat :=
  match s.marks[v]? with
  | some (.active n) => n
  | _ => 0

/-- What holds of a search that has entered the nodes of `path` and not left them. All nodes that
it can meet are in `scope`. -/
structure Valid (successors : α → List α) (scope : Finset α) (path : List α) (s : Search α) :
    Prop where
  mem_stack_iff : ∀ {v}, v ∈ s.stack ↔ ∃ n, s.marks[v]? = some (.active n)
  mem_components_iff : ∀ {v}, v ∈ s.components.flatten ↔ s.marks[v]? = some .done
  mem_scope : ∀ {v}, v ∈ s.marks → v ∈ scope
  mem_stack_of_path : ∀ {v}, v ∈ path → v ∈ s.stack
  number_lt : ∀ {v}, v ∈ s.stack → s.number v < s.next
  descending : s.stack.Pairwise fun w v => s.number v < s.number w
  reached : s.stack.Pairwise fun w v => Reaches successors v w
  returns : ∀ {w}, w ∈ s.stack → ∃ v ∈ path, s.number v ≤ s.number w ∧ Reaches successors w v
  explored : ∀ {v}, v ∈ s.marks → v ∉ path → ∀ w ∈ successors v, w ∈ s.marks
  layered : Layered successors s.components
  nodup : s.components.flatten.Nodup

/-- A search that went on from another one: it has put `new` on the stack, and knows of the nodes
met before what was known of them. -/
structure Extends (s t : Search α) (new : List α) : Prop where
  stack_eq : t.stack = new ++ s.stack
  marks_eq : ∀ {v}, v ∈ s.marks → t.marks[v]? = s.marks[v]?
  next_le : s.next ≤ t.next

namespace Extends

variable {s t u : Search α} {new more : List α}

theorem refl (s : Search α) : s.Extends s [] :=
  ⟨rfl, fun _ => rfl, le_rfl⟩

theorem mem_marks (h : s.Extends t new) {v : α} (hv : v ∈ s.marks) : v ∈ t.marks := by
  rw [Std.ExtTreeMap.mem_iff_isSome_getElem?] at hv ⊢
  rwa [h.marks_eq (Std.ExtTreeMap.mem_iff_isSome_getElem?.2 hv)]

theorem trans (h : s.Extends t new) (h' : t.Extends u more) : s.Extends u (more ++ new) where
  stack_eq := by rw [h'.stack_eq, h.stack_eq, List.append_assoc]
  marks_eq hv := (h'.marks_eq (h.mem_marks hv)).trans (h.marks_eq hv)
  next_le := h.next_le.trans h'.next_le

theorem number_eq (h : s.Extends t new) {v : α} (hv : v ∈ s.marks) : t.number v = s.number v := by
  simp only [number, h.marks_eq hv]

theorem mem_stack (h : s.Extends t new) {v : α} (hv : v ∈ s.stack) : v ∈ t.stack := by
  rw [h.stack_eq]
  exact List.mem_append_right _ hv

theorem mem_stack_of_new (h : s.Extends t new) {v : α} (hv : v ∈ new) : v ∈ t.stack := by
  rw [h.stack_eq]
  exact List.mem_append_left _ hv

end Extends

/-! ## A valid search -/

namespace Valid

variable {successors : α → List α} {scope : Finset α} {path : List α} {s : Search α}

theorem marks_eq_of_mem_stack (h : s.Valid successors scope path) {v : α} (hv : v ∈ s.stack) :
    s.marks[v]? = some (.active (s.number v)) := by
  obtain ⟨n, hn⟩ := h.mem_stack_iff.1 hv
  simp [number, hn]

theorem mem_marks_iff (h : s.Valid successors scope path) {v : α} :
    v ∈ s.marks ↔ v ∈ s.stack ∨ v ∈ s.components.flatten := by
  rw [h.mem_stack_iff, h.mem_components_iff, Std.ExtTreeMap.mem_iff_isSome_getElem?]
  rcases s.marks[v]? with _ | _ | _ <;> simp

theorem not_mem_components (h : s.Valid successors scope path) {v : α} (hv : v ∈ s.stack) :
    v ∉ s.components.flatten := by
  rw [h.mem_components_iff, h.marks_eq_of_mem_stack hv]
  simp

theorem nodup_stack (h : s.Valid successors scope path) : s.stack.Nodup :=
  h.descending.imp fun hlt heq => by simp [heq] at hlt

/-- Nothing is on the stack of a search that is at no node. -/
theorem stack_eq_nil (h : s.Valid successors scope []) : s.stack = [] := by
  refine List.eq_nil_iff_forall_not_mem.2 fun v hv => ?_
  obtain ⟨u, hu, -⟩ := h.returns hv
  simp at hu

/-- Every node of the stack leads to a node that the whole path leads to. -/
theorem reaches_of_path (h : s.Valid successors scope path) {v : α}
    (hv : ∀ u ∈ path, Reaches successors u v) {u : α} (hu : u ∈ s.stack) :
    Reaches successors u v := by
  obtain ⟨x, hx, -, hr⟩ := h.returns hu
  exact hr.trans (hv x hx)

end Valid

namespace Extends

variable {successors : α → List α} {scope : Finset α} {path path' new : List α} {s t : Search α}
  {v : α}

theorem number_eq_of_mem_stack (h : s.Extends t new) (hs : s.Valid successors scope path)
    (hv : v ∈ s.stack) : t.number v = s.number v :=
  h.number_eq (hs.mem_marks_iff.2 (.inl hv))

theorem not_mem_stack (h : s.Extends t new) (ht : t.Valid successors scope path') (hv : v ∈ new) :
    v ∉ s.stack := by
  have hnodup := ht.nodup_stack
  rw [h.stack_eq] at hnodup
  exact fun hold => List.disjoint_of_nodup_append hnodup hv hold

/-- What a search has put on the stack since then was not met before. -/
theorem not_mem_marks (h : s.Extends t new) (hs : s.Valid successors scope path)
    (ht : t.Valid successors scope path') (hv : v ∈ new) : v ∉ s.marks := by
  intro hmark
  rcases hs.mem_marks_iff.1 hmark with hold | hdone
  · exact h.not_mem_stack ht hv hold
  · rw [hs.mem_components_iff, ← h.marks_eq hmark, ← ht.mem_components_iff] at hdone
    exact ht.not_mem_components (h.mem_stack_of_new hv) hdone

end Extends

theorem valid_start (successors : α → List α) (scope : Finset α) :
    (start : Search α).Valid successors scope [] where
  mem_stack_iff := by simp [start]
  mem_components_iff := by simp [start]
  mem_scope := by simp [start]
  mem_stack_of_path := by simp
  number_lt := by simp [start]
  descending := by simp [start]
  reached := by simp [start]
  returns := by simp [start]
  explored := by simp [start]
  layered := trivial
  nodup := by simp [start]

/-! ## Entering a node -/

section Enter

variable [Std.LawfulEqOrd α] {successors : α → List α} {scope : Finset α} {path : List α}
  {s : Search α} {v : α}

theorem mem_marks_enter (s : Search α) (v w : α) :
    w ∈ (s.enter v).marks ↔ v = w ∨ w ∈ s.marks := by
  simp [enter, Std.ExtTreeMap.mem_insert]

variable [DecidableEq α]

theorem marks_enter (s : Search α) (v w : α) :
    (s.enter v).marks[w]? = if v = w then some (.active s.next) else s.marks[w]? := by
  simp [enter, Std.ExtTreeMap.getElem?_insert]

theorem number_enter (s : Search α) (v w : α) :
    (s.enter v).number w = if v = w then s.next else s.number w := by
  simp only [number, marks_enter]
  by_cases h : v = w <;> simp [h]

theorem extends_enter (h : v ∉ s.marks) : s.Extends (s.enter v) [v] where
  stack_eq := rfl
  marks_eq {w} hw := by
    rw [marks_enter, if_neg]
    rintro rfl
    exact h hw
  next_le := Nat.le_succ _

theorem valid_enter (h : s.Valid successors scope path) (hv : v ∉ s.marks) (hscope : v ∈ scope)
    (hpath : ∀ u ∈ path, Reaches successors u v) :
    (s.enter v).Valid successors scope (v :: path) := by
  have hne {w : α} (hw : w ∈ s.stack) : v ≠ w := by
    rintro rfl
    exact hv (h.mem_marks_iff.2 (.inl hw))
  have hnumber {w : α} (hw : w ∈ s.stack) : (s.enter v).number w = s.number w := by
    rw [number_enter, if_neg (hne hw)]
  constructor
  case mem_stack_iff =>
    intro w
    rw [marks_enter]
    by_cases hw : v = w
    · simp [enter, hw]
    · simp [enter, hw, Ne.symm hw, h.mem_stack_iff]
  case mem_components_iff =>
    intro w
    rw [marks_enter]
    by_cases hw : v = w
    · subst hw
      simpa [enter] using fun c hc hvc =>
        hv (h.mem_marks_iff.2 (.inr (List.mem_flatten.2 ⟨c, hc, hvc⟩)))
    · rw [if_neg hw]
      exact h.mem_components_iff
  case mem_scope =>
    intro w hw
    rw [mem_marks_enter] at hw
    rcases hw with rfl | hw
    · exact hscope
    · exact h.mem_scope hw
  case mem_stack_of_path =>
    intro w hw
    rw [List.mem_cons] at hw
    exact List.mem_cons.2 (hw.imp_right h.mem_stack_of_path)
  case number_lt =>
    intro w hw
    rcases List.mem_cons.1 hw with rfl | hw
    · rw [number_enter, if_pos rfl]
      exact Nat.lt_succ_self _
    · rw [hnumber hw]
      exact (h.number_lt hw).trans (Nat.lt_succ_self _)
  case descending =>
    refine List.pairwise_cons.2 ⟨fun w hw => ?_, h.descending.imp_of_mem fun hx hy hlt => ?_⟩
    · rw [hnumber hw, number_enter, if_pos rfl]
      exact h.number_lt hw
    · rwa [hnumber hx, hnumber hy]
  case reached =>
    exact List.pairwise_cons.2 ⟨fun w hw => h.reaches_of_path hpath hw, h.reached⟩
  case returns =>
    intro w hw
    rcases List.mem_cons.1 hw with rfl | hw
    · exact ⟨w, List.mem_cons_self, le_rfl, .refl⟩
    · obtain ⟨u, hu, hle, hr⟩ := h.returns hw
      refine ⟨u, List.mem_cons_of_mem _ hu, ?_, hr⟩
      rwa [hnumber hw, hnumber (h.mem_stack_of_path hu)]
  case explored =>
    intro w hw hpath x hx
    rw [List.mem_cons, not_or] at hpath
    rw [mem_marks_enter] at hw ⊢
    exact .inr (h.explored (hw.resolve_left (Ne.symm hpath.1)) hpath.2 x hx)
  case layered => exact h.layered
  case nodup => exact h.nodup

end Enter

/-! ## Closing a component -/

section Close

variable {successors : α → List α} {scope : Finset α} {path new : List α} {s t : Search α} {v : α}

variable [DecidableEq α]

/-- Closing a component takes what lies above its first node, and that node, off the stack. -/
theorem close_eq (hext : s.Extends t (new ++ [v])) (hnodup : t.stack.Nodup) :
    t.close v = ⟨t.next, (new ++ [v]).foldl (fun m w => m.insert w .done) t.marks, s.stack,
      (new ++ [v]) :: t.components⟩ := by
  have hstack : t.stack = new ++ v :: s.stack := by
    rw [hext.stack_eq, List.append_assoc, List.singleton_append]
  have hnew : ∀ w ∈ new, (w != v) = true := fun w hw => by
    rw [hstack] at hnodup
    rw [bne_iff_ne]
    rintro rfl
    exact List.disjoint_of_nodup_append hnodup hw List.mem_cons_self
  simp [close, hstack, List.takeWhile_append_of_pos hnew, List.dropWhile_append_of_pos hnew]

/-- The component that a node closes: the nodes above it on the stack, and the node itself, when
none of them leads to the nodes below. -/
theorem component_of_close (hs : s.Valid successors scope path)
    (ht : t.Valid successors scope (v :: path)) (hext : s.Extends t (new ++ [v]))
    (hseen : ∀ w ∈ successors v, w ∈ t.marks)
    (hout : ∀ u ∈ new ++ [v], ∀ w ∈ successors u, w ∉ s.stack) :
    (∀ u ∈ new ++ [v], ∀ w ∈ successors u, w ∈ new ++ [v] ∨ w ∈ t.components.flatten) ∧
      ∀ u ∈ new ++ [v], Reaches successors u v ∧ Reaches successors v u := by
  have hstack : t.stack = new ++ [v] ++ s.stack := hext.stack_eq
  have hleads : ∀ u ∈ new ++ [v], ∀ w ∈ successors u,
      w ∈ new ++ [v] ∨ w ∈ t.components.flatten := by
    intro u hu w hw
    have hmarked : w ∈ t.marks := by
      by_cases huv : u = v
      · exact hseen w (huv ▸ hw)
      · refine ht.explored (ht.mem_marks_iff.2 (.inl (hext.mem_stack_of_new hu))) ?_ w hw
        intro hpath
        have hold := hs.mem_stack_of_path ((List.mem_cons.1 hpath).resolve_left huv)
        exact hext.not_mem_stack ht hu hold
    rcases ht.mem_marks_iff.1 hmarked with h | h
    · rw [hstack, List.mem_append] at h
      exact .inl (h.resolve_right (hout u hu w hw))
    · exact .inr h
  have hstays : ∀ u ∈ new ++ [v], ∀ w, Reaches successors u w →
      w ∈ new ++ [v] ∨ w ∈ t.components.flatten := by
    intro u hu w hw
    induction hw with
    | refl => exact .inl hu
    | tail _ hw ih =>
      exact ih.elim (fun ih => hleads _ ih _ hw) fun ih =>
        .inr (ht.layered.mem_of_reaches ih (.single hw))
  refine ⟨hleads, fun u hu => ⟨?_, ?_⟩⟩
  · obtain ⟨x, hx, -, hr⟩ := ht.returns (hext.mem_stack_of_new hu)
    rcases List.mem_cons.1 hx with rfl | hx
    · exact hr
    · -- A path of a node to what was on the stack before leaves the component.
      have hold := hs.mem_stack_of_path hx
      have hxt : x ∈ t.stack := ht.mem_stack_of_path (List.mem_cons_of_mem _ hx)
      rcases hstays u hu x hr with h | h
      · exact (hext.not_mem_stack ht h hold).elim
      · exact (ht.not_mem_components hxt h).elim
  · rcases List.mem_append.1 hu with hu | hu
    · have hreached := ht.reached
      rw [hstack, List.append_assoc, List.pairwise_append] at hreached
      exact hreached.2.2 u hu v (by simp)
    · rw [List.mem_singleton.1 hu]

variable [Std.LawfulEqOrd α]

theorem getElem?_foldl_insert {β : Type} (l : List α) (m : Std.ExtTreeMap α β) (b : β) (w : α) :
    (l.foldl (fun m u => m.insert u b) m)[w]? = if w ∈ l then some b else m[w]? := by
  induction l generalizing m with
  | nil => simp
  | cons u l ih =>
    rw [List.foldl_cons, ih, Std.ExtTreeMap.getElem?_insert]
    by_cases hw : w ∈ l
    · simp [hw]
    · by_cases hu : u = w
      · simp [hu]
      · simp [hw, hu, Ne.symm hu]

theorem marks_close (hext : s.Extends t (new ++ [v])) (hnodup : t.stack.Nodup) (w : α) :
    (t.close v).marks[w]? = if w ∈ new ++ [v] then some .done else t.marks[w]? := by
  rw [close_eq hext hnodup, getElem?_foldl_insert]

theorem mem_marks_close_iff (ht : t.Valid successors scope (v :: path))
    (hext : s.Extends t (new ++ [v])) {w : α} : w ∈ (t.close v).marks ↔ w ∈ t.marks := by
  rw [Std.ExtTreeMap.mem_iff_isSome_getElem?, marks_close hext ht.nodup_stack]
  by_cases hw : w ∈ new ++ [v]
  · rw [if_pos hw]
    exact iff_of_true rfl (ht.mem_marks_iff.2 (.inl (hext.mem_stack_of_new hw)))
  · rw [if_neg hw, ← Std.ExtTreeMap.mem_iff_isSome_getElem?]

/-- Closing the component of the node that was entered first leaves nothing new on the stack. -/
theorem extends_close (hs : s.Valid successors scope path)
    (ht : t.Valid successors scope (v :: path)) (hext : s.Extends t (new ++ [v])) :
    s.Extends (t.close v) [] where
  stack_eq := by
    rw [close_eq hext ht.nodup_stack]
    rfl
  marks_eq hw := by
    rw [marks_close hext ht.nodup_stack, if_neg fun hnew => hext.not_mem_marks hs ht hnew hw,
      hext.marks_eq hw]
  next_le := by
    rw [close_eq hext ht.nodup_stack]
    exact hext.next_le

theorem valid_close (hs : s.Valid successors scope path)
    (ht : t.Valid successors scope (v :: path)) (hext : s.Extends t (new ++ [v]))
    (hseen : ∀ w ∈ successors v, w ∈ t.marks)
    (hout : ∀ u ∈ new ++ [v], ∀ w ∈ successors u, w ∉ s.stack) :
    (t.close v).Valid successors scope path ∧ s.Extends (t.close v) [] ∧
      v ∈ (t.close v).marks := by
  obtain ⟨hleads, hconn⟩ := component_of_close hs ht hext hseen hout
  have hclosed := extends_close hs ht hext
  have hmem {w : α} : w ∈ (t.close v).marks ↔ w ∈ t.marks := mem_marks_close_iff ht hext
  have hvc : v ∈ new ++ [v] := List.mem_append_right _ List.mem_cons_self
  refine ⟨?_, hclosed, hmem.2 (ht.mem_marks_iff.2 (.inl (hext.mem_stack_of_new hvc)))⟩
  have hstack : (t.close v).stack = s.stack := hclosed.stack_eq
  have hcomponents : (t.close v).components = (new ++ [v]) :: t.components := by
    rw [close_eq hext ht.nodup_stack]
  have hmarks := marks_close hext ht.nodup_stack
  have hnumber {w : α} (hw : w ∈ s.stack) : (t.close v).number w = s.number w :=
    hclosed.number_eq_of_mem_stack hs hw
  constructor
  case mem_stack_iff =>
    intro w
    rw [hstack, hmarks]
    by_cases hw : w ∈ new ++ [v]
    · refine iff_of_false (fun hws => ?_) (by simp [hw])
      exact hext.not_mem_marks hs ht hw (hs.mem_marks_iff.2 (.inl hws))
    · rw [if_neg hw, ← ht.mem_stack_iff, hext.stack_eq, List.mem_append, or_iff_right hw]
  case mem_components_iff =>
    intro w
    rw [hcomponents, hmarks, List.flatten_cons, List.mem_append, ht.mem_components_iff]
    by_cases hw : w ∈ new ++ [v]
    · simp only [hw, true_or, if_true]
    · rw [if_neg hw, or_iff_right hw]
  case mem_scope => exact fun hw => ht.mem_scope (hmem.1 hw)
  case mem_stack_of_path => exact fun hw => hstack ▸ hs.mem_stack_of_path hw
  case number_lt =>
    intro w hw
    rw [hstack] at hw
    rw [hnumber hw]
    exact (hs.number_lt hw).trans_le hclosed.next_le
  case descending =>
    rw [hstack]
    refine hs.descending.imp_of_mem fun hx hy hlt => ?_
    rwa [hnumber hx, hnumber hy]
  case reached => exact hstack ▸ hs.reached
  case returns =>
    intro w hw
    rw [hstack] at hw
    obtain ⟨u, hu, hle, hr⟩ := hs.returns hw
    refine ⟨u, hu, ?_, hr⟩
    rwa [hnumber hw, hnumber (hs.mem_stack_of_path hu)]
  case explored =>
    intro w hw hpath x hx
    rw [hmem] at hw ⊢
    by_cases hwv : w = v
    · exact hseen x (hwv ▸ hx)
    · exact ht.explored hw (by simp [hwv, hpath]) x hx
  case layered =>
    rw [hcomponents]
    exact ⟨List.ne_nil_of_mem hvc, fun u hu w hw => (hconn u hu).1.trans (hconn w hw).2, hleads,
      ht.layered⟩
  case nodup =>
    rw [hcomponents, List.flatten_cons, List.nodup_append]
    refine ⟨?_, ht.nodup, fun w hw x hx heq => ?_⟩
    · have hnodup := ht.nodup_stack
      rw [hext.stack_eq] at hnodup
      exact hnodup.of_append_left
    · subst heq
      exact ht.not_mem_components (hext.mem_stack_of_new hw) hx

end Close

end Search

end Spreadsheet
