import Spreadsheet.Proofs.Json.Values

/-!
# Texts that JSON can hold

The texts that can be read from JSON are those without halves of a pair side by side
(`Text.isRead_iff`).
-/

namespace Spreadsheet

namespace Json

variable {fuel : Nat} {cs rest : List Char} {j : Json}

/-- A value whose texts have no halves of a pair side by side. -/
inductive Joined : Json → Prop where
  | null : Joined null
  | bool (b : Bool) : Joined (bool b)
  | integer (n : Int) : Joined (integer n)
  | decimal (mantissa exponent : Int) : Joined (decimal mantissa exponent)
  | nonFinite : Joined nonFinite
  | string {t : Text} : t.IsJoined → Joined (string t)
  | array {items : List Json} : (∀ j ∈ items, Joined j) → Joined (array items)
  | object {fields : List (Text × Json)} :
    (∀ f ∈ fields, f.1.IsJoined) → (∀ f ∈ fields, Joined f.2) → Joined (object fields)

theorem joined_of_readWord? (h : readWord? cs = some (j, rest)) : Joined j := by
  unfold readWord? at h
  split at h
  · cases h
    exact .null
  · cases h
    exact .bool true
  · cases h
    exact .bool false
  · cases h
    exact .nonFinite
  all_goals
    obtain ⟨_, -, heq⟩ := Option.map_eq_some_iff.1 h
    cases heq
    exact .nonFinite

theorem joined_of_readNumber? (h : readNumber? cs = some (j, rest)) : Joined j := by
  unfold readNumber? at h
  split at h
  split at h
  · cases h
  · dsimp only at h
    split at h
    · cases h
      exact .integer _
    · cases h
      exact .decimal _ _

theorem mem_setField {fields : List (Text × Json)} {key : Text} {v : Json} {f : Text × Json}
    (h : f ∈ setField fields key v) : f ∈ fields ∨ f = (key, v) := by
  induction fields with
  | nil => exact .inr (List.mem_singleton.1 h)
  | cons g fields ih =>
    rw [setField] at h
    split at h
    · next hkey =>
      rcases List.mem_cons.1 h with rfl | h
      · exact .inr (by rw [hkey])
      · exact .inl (List.mem_cons_of_mem g h)
    · rcases List.mem_cons.1 h with rfl | h
      · exact .inl List.mem_cons_self
      · exact (ih h).imp_left (List.mem_cons_of_mem g)

theorem joined_setField {fields : List (Text × Json)} {key : Text} {v : Json}
    (h : Joined (object fields)) (hkey : key.IsJoined) (hv : Joined v) :
    Joined (object (setField fields key v)) := by
  cases h with
  | object hkeys hvalues =>
    refine .object (fun f hf => ?_) fun f hf => ?_
    · rcases mem_setField hf with hf | rfl
      · exact hkeys f hf
      · exact hkey
    · rcases mem_setField hf with hf | rfl
      · exact hvalues f hf
      · exact hv

/-- What the three readers give for one amount of fuel has no halves of a pair side by side. -/
structure JoinedWithin (fuel : Nat) : Prop where
  value : ∀ {cs j rest}, readValue? fuel cs = some (j, rest) → Joined j
  items : ∀ {cs items rest}, readItems? fuel cs = some (items, rest) → Joined (array items)
  fields : ∀ {before cs fields rest}, readFields? fuel before cs = some (fields, rest) →
    Joined (object before) → Joined (object fields)

namespace JoinedWithin

theorem value_succ (ih : JoinedWithin fuel) (h : readValue? (fuel + 1) cs = some (j, rest)) :
    Joined j := by
  unfold readValue? at h
  split at h
  · cases h
  · split at h
    · cases h
      exact .array (by simp)
    · obtain ⟨_, hitems, heq⟩ := Option.map_eq_some_iff.1 h
      cases heq
      exact ih.items hitems
  · split at h
    · cases h
      exact .object (by simp) (by simp)
    · obtain ⟨_, hfields, heq⟩ := Option.map_eq_some_iff.1 h
      cases heq
      exact ih.fields hfields (.object (by simp) (by simp))
  · split at h
    · obtain ⟨_, ht, heq⟩ := Option.map_eq_some_iff.1 h
      cases heq
      exact .string (isJoined_of_readString? ht)
    · rcases Option.or_eq_some_iff.1 h with hword | ⟨-, hnumber⟩
      · exact joined_of_readWord? hword
      · exact joined_of_readNumber? hnumber

theorem items_succ (ih : JoinedWithin fuel) {items : List Json}
    (h : readItems? (fuel + 1) cs = some (items, rest)) : Joined (array items) := by
  unfold readItems? at h
  split at h
  · cases h
  next item rest' hitem =>
  split at h
  · obtain ⟨_, hitems, heq⟩ := Option.map_eq_some_iff.1 h
    cases heq
    cases ih.items hitems with
    | array hall => exact .array (List.forall_mem_cons.2 ⟨ih.value hitem, hall⟩)
  · cases h
    exact .array (List.forall_mem_cons.2 ⟨ih.value hitem, by simp⟩)
  · cases h

theorem fields_succ (ih : JoinedWithin fuel) {before fields : List (Text × Json)}
    (h : readFields? (fuel + 1) before cs = some (fields, rest))
    (hbefore : Joined (object before)) : Joined (object fields) := by
  unfold readFields? at h
  split at h
  · cases h
  next key rest' hkey =>
  split at h
  · split at h
    · cases h
    next v rest'' hv =>
    have hset := joined_setField hbefore (isJoined_of_readString? hkey) (ih.value hv)
    dsimp only at h
    split at h
    · exact ih.fields h hset
    · cases h
      exact hset
    · cases h
  · cases h

end JoinedWithin

theorem joinedWithin (fuel : Nat) : JoinedWithin fuel := by
  induction fuel with
  | zero => exact ⟨nofun, nofun, nofun⟩
  | succ fuel ih => exact ⟨ih.value_succ, ih.items_succ, ih.fields_succ⟩

/-- A value that is read has no halves of a pair side by side. -/
theorem joined_of_read? {s : String} (h : read? s = some j) : Joined j := by
  unfold read? readChars? at h
  split at h
  · next hvalue =>
    split at h
    · cases h
      exact (joinedWithin _).value hvalue
    · cases h
  · cases h

/-- A text of a value, as a string or as the name of a field. -/
inductive Holds : Json → Text → Prop where
  | string (t : Text) : Holds (string t) t
  | item {items : List Json} {j : Json} {t : Text} : j ∈ items → Holds j t → Holds (array items) t
  | name {fields : List (Text × Json)} {f : Text × Json} : f ∈ fields → Holds (object fields) f.1
  | field {fields : List (Text × Json)} {f : Text × Json} {t : Text} :
    f ∈ fields → Holds f.2 t → Holds (object fields) t

theorem Joined.isJoined_of_holds {t : Text} (hj : Joined j) (h : Holds j t) : t.IsJoined := by
  induction h with
  | string t =>
    cases hj with
    | string ht => exact ht
  | item hitem _ ih =>
    cases hj with
    | array hitems => exact ih (hitems _ hitem)
  | name hf =>
    cases hj with
    | object hnames _ => exact hnames _ hf
  | field hf _ ih =>
    cases hj with
    | object _ hvalues => exact ih (hvalues _ hf)

end Json

namespace Text

variable {t : Text}

/-- Some JSON that can be read holds the text. -/
def IsRead (t : Text) : Prop :=
  ∃ s j, Json.read? s = some j ∧ j.Holds t

/-- A text can be read from JSON if and only if it has no halves of a pair side by side. -/
theorem isRead_iff : t.IsRead ↔ t.IsJoined := by
  constructor
  · rintro ⟨s, j, hread, hholds⟩
    exact (Json.joined_of_read? hread).isJoined_of_holds hholds
  · intro h
    exact ⟨_, _, Json.read?_write (.string h), .string t⟩

end Text

end Spreadsheet
