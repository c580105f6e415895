import Mathlib.Data.List.Chain
import Spreadsheet.Json.Reader
import Spreadsheet.Json.Writer

/-!
# Texts in JSON

A text is read back as it was written (`readString?_writeString`), unless the first half of a pair
stands right before a second half in it: these are read as the one character that they make. No text
that is read is of this kind (`isJoined_of_readString?`).
-/

namespace Spreadsheet

namespace CodePoint

/-- A surrogate that is the first half of a pair. -/
def IsHigh (c : CodePoint) : Prop :=
  0xD800 ≤ c.number ∧ c.number < 0xDC00

/-- A surrogate that is the second half of a pair. -/
def IsLow (c : CodePoint) : Prop :=
  0xDC00 ≤ c.number ∧ c.number < 0xE000

theorem number_lt (c : CodePoint) : c.number < 0x110000 := by
  cases c with
  | char c =>
    have hvalid : c.toNat < 0xD800 ∨ (0xDFFF < c.toNat ∧ c.toNat < 0x110000) := c.valid
    simp only [number]
    omega
  | surrogate n =>
    simp only [number]
    omega

theorem not_surrogate_char (c : Char) : ¬ (0xD800 ≤ number c ∧ number c < 0xE000) := by
  have hvalid : c.toNat < 0xD800 ∨ (0xDFFF < c.toNat ∧ c.toNat < 0x110000) := c.valid
  simp only [number]
  omega

theorem not_isHigh_char (c : Char) : ¬ IsHigh c := by
  have := not_surrogate_char c
  rw [IsHigh]
  omega

theorem not_isLow_char (c : Char) : ¬ IsLow c := by
  have := not_surrogate_char c
  rw [IsLow]
  omega

theorem isHigh_ofNumber_iff {n : Nat} : (ofNumber n).IsHigh ↔ 0xD800 ≤ n ∧ n < 0xDC00 := by
  unfold ofNumber
  split
  · simp only [IsHigh, number]
    omega
  · refine ⟨fun h => (not_isHigh_char _ h).elim, ?_⟩
    omega

theorem isLow_ofNumber_iff {n : Nat} : (ofNumber n).IsLow ↔ 0xDC00 ≤ n ∧ n < 0xE000 := by
  unfold ofNumber
  split
  · simp only [IsLow, number]
    omega
  · refine ⟨fun h => (not_isLow_char _ h).elim, ?_⟩
    omega

end CodePoint

/-- No first half of a pair stands right before a second half. -/
def Text.IsJoined (t : Text) : Prop :=
  t.IsChain fun c d => ¬ (c.IsHigh ∧ d.IsLow)

namespace Json

open Text (hexDigits doubleQuote backslash)

/-! ## Code units -/

/-- A code unit as it is escaped. -/
def writeUnit (u : Nat) : List Char :=
  backslash :: 'u' :: hexDigits 4 u

theorem hexValue?_digitChar : ∀ d < 16, hexValue? (Nat.digitChar d) = some d := by
  decide

theorem codeUnit?_hexDigits {u : Nat} (hu : u < 0x10000) :
    ∃ a b c d, hexDigits 4 u = [a, b, c, d] ∧ codeUnit? a b c d = some u := by
  refine ⟨_, _, _, _, rfl, ?_⟩
  simp only [codeUnit?, hexValue?_digitChar _ (Nat.mod_lt _ (by decide : 0 < 16)),
    Option.bind_eq_bind, Option.bind_some, Option.some.injEq]
  omega

variable {u v : Nat} {rest : List Char}

theorem lowUnit?_writeUnit (hu : u < 0x10000) : lowUnit? (writeUnit u ++ rest) =
    if 0xDC00 ≤ u ∧ u < 0xE000 then some (u, rest) else none := by
  obtain ⟨a, b, c, d, hdigits, hunit⟩ := codeUnit?_hexDigits hu
  rw [writeUnit, hdigits]
  simp [lowUnit?, hunit]

theorem readPoint?_writeUnit (hu : u < 0x10000)
    (h : u < 0xD800 ∨ 0xDC00 ≤ u ∨ lowUnit? rest = none) :
    readPoint? (writeUnit u ++ rest) = some (.ofNumber u, rest) := by
  obtain ⟨a, b, c, d, hdigits, hunit⟩ := codeUnit?_hexDigits hu
  rw [writeUnit, hdigits]
  simp only [List.cons_append, List.nil_append, readPoint?, hunit, if_true]
  split
  · next hhigh =>
    simp only [Bool.and_eq_true, decide_eq_true_eq] at hhigh
    rw [h.resolve_left (by omega) |>.resolve_left (by omega)]
  · rfl

theorem readPoint?_writeUnit_pair (hu : 0xD800 ≤ u ∧ u < 0xDC00) (hv : 0xDC00 ≤ v ∧ v < 0xE000) :
    readPoint? (writeUnit u ++ (writeUnit v ++ rest)) =
      some (.ofNumber (0x10000 + (u - 0xD800) * 0x400 + (v - 0xDC00)), rest) := by
  obtain ⟨a, b, c, d, hdigits, hunit⟩ := codeUnit?_hexDigits (show u < 0x10000 by omega)
  rw [writeUnit, hdigits]
  simp only [List.cons_append, List.nil_append, readPoint?, hunit, if_true, hu,
    lowUnit?_writeUnit (show v < 0x10000 by omega), hv]
  simp

theorem escape_eq (c : CodePoint) : escape c = (codeUnits c.number).flatMap writeUnit :=
  rfl

theorem readPoint?_escape {c : CodePoint} (h : c.IsHigh → lowUnit? rest = none) :
    readPoint? (escape c ++ rest) = some (c, rest) := by
  have hbound := c.number_lt
  rw [escape_eq, codeUnits]
  split
  · next hshort =>
    rw [List.flatMap_singleton, readPoint?_writeUnit hshort, CodePoint.ofNumber_number]
    by_cases hhigh : c.IsHigh
    · exact .inr (.inr (h hhigh))
    · rw [CodePoint.IsHigh] at hhigh
      omega
  · next hlong =>
    simp only [List.flatMap_cons, List.flatMap_nil, List.append_nil, List.append_assoc]
    rw [readPoint?_writeUnit_pair (by omega) (by omega)]
    have hnumber : 0x10000 + (0xD800 + (c.number - 0x10000) / 0x400 - 0xD800) * 0x400 +
        (0xDC00 + (c.number - 0x10000) % 0x400 - 0xDC00) = c.number := by
      omega
    rw [hnumber, CodePoint.ofNumber_number]

/-! ## Code points -/

theorem lowUnit?_of_head {c : Char} {cs : List Char} (h : c ≠ backslash) :
    lowUnit? (c :: cs) = none := by
  unfold lowUnit?
  split
  · next heq =>
    cases heq
    rw [if_neg h]
  · rfl

theorem lowUnit?_of_second {c d : Char} {cs : List Char} (h : d ≠ 'u') :
    lowUnit? (c :: d :: cs) = none := by
  unfold lowUnit?
  split
  · next heq =>
    cases heq
    exact (h rfl).elim
  · rfl

theorem lowUnit?_escape {c : CodePoint} (h : ¬ c.IsLow) : lowUnit? (escape c ++ rest) = none := by
  rw [CodePoint.IsLow] at h
  rw [escape_eq, codeUnits]
  split
  · next hshort => rw [List.flatMap_singleton, lowUnit?_writeUnit hshort, if_neg h]
  · next hlong =>
    have hbound := c.number_lt
    simp only [List.flatMap_cons, List.append_assoc]
    rw [lowUnit?_writeUnit (by omega), if_neg (by omega)]

/-- How a character is written: escaped by a letter, as it is, or by its code units. -/
inductive Written : CodePoint → List Char → Prop where
  | letter {c d : Char} : d ≠ 'u' → simpleEscape? d = some c → Written c [backslash, d]
  | plain {c : Char} : c ≠ doubleQuote → c ≠ backslash → 0x20 ≤ c.toNat → Written c [c]
  | units (c : CodePoint) : Written c (escape c)

theorem written_writeChar (c : Char) : Written c (writeChar c) := by
  unfold writeChar
  split
  · next h =>
    simp only [Bool.or_eq_true, decide_eq_true_eq] at h
    rcases h with rfl | rfl
    · exact .letter (by decide) rfl
    · exact .letter (by decide) rfl
  next h =>
  simp only [Bool.or_eq_true, decide_eq_true_eq, not_or] at h
  split
  · next h => exact h ▸ .letter (by decide) rfl
  split
  · next h => exact h ▸ .letter (by decide) rfl
  split
  · next h => exact h ▸ .letter (by decide) rfl
  split
  · next h => exact h ▸ .letter (by decide) rfl
  split
  · next h => exact h ▸ .letter (by decide) rfl
  split
  · next hprintable =>
    simp only [Bool.and_eq_true, decide_eq_true_eq] at hprintable
    exact .plain h.1 h.2 hprintable.1
  · exact .units c

theorem written_writePoint (c : CodePoint) : Written c (writePoint c) := by
  cases c with
  | char c => exact written_writeChar c
  | surrogate n => exact .units _

theorem readPoint?_writePoint {c : CodePoint} (h : c.IsHigh → lowUnit? rest = none) :
    readPoint? (writePoint c ++ rest) = some (c, rest) := by
  have hw := written_writePoint c
  generalize writePoint c = cs at hw
  cases hw with
  | letter hu hsimple =>
    rename_i c d
    rw [List.cons_append, List.singleton_append, readPoint?.eq_def]
    simp only [if_true]
    split
    · next heq =>
      cases heq
      exact (hu rfl).elim
    · next heq =>
      cases heq
      rw [hsimple]
      rfl
    · next heq => cases heq
  | plain hquote hslash hlow =>
    rw [List.singleton_append, readPoint?.eq_def]
    simp only [if_neg hslash]
    rw [if_neg (by omega)]
  | units c => exact readPoint?_escape h

theorem lowUnit?_writePoint {c : CodePoint} (h : ¬ c.IsLow) :
    lowUnit? (writePoint c ++ rest) = none := by
  have hw := written_writePoint c
  generalize writePoint c = cs at hw
  cases hw with
  | letter hu => exact lowUnit?_of_second hu
  | plain _ hslash => exact lowUnit?_of_head hslash
  | units c => exact lowUnit?_escape h

theorem head?_writePoint (c : CodePoint) : ∃ d ds, writePoint c = d :: ds ∧ d ≠ doubleQuote := by
  have hw := written_writePoint c
  generalize writePoint c = cs at hw ⊢
  cases hw with
  | letter => exact ⟨_, _, rfl, by decide⟩
  | plain hquote => exact ⟨_, _, rfl, hquote⟩
  | units c =>
    rw [escape_eq, codeUnits]
    split <;> exact ⟨_, _, rfl, by decide⟩

/-! ## Texts -/

theorem readStringFrom?_write {t : Text} (ht : t.IsJoined) : ∀ {fuel : Nat}, t.length < fuel →
    readStringFrom? fuel (t.flatMap writePoint ++ doubleQuote :: rest) = some (t, rest) := by
  induction t with
  | nil =>
    intro fuel hfuel
    obtain ⟨fuel, rfl⟩ := Nat.exists_eq_add_one_of_ne_zero (Nat.ne_zero_of_lt hfuel)
    rfl
  | cons c t ih =>
    intro fuel hfuel
    obtain ⟨fuel, rfl⟩ := Nat.exists_eq_add_one_of_ne_zero (Nat.ne_zero_of_lt hfuel)
    have hnext : c.IsHigh → lowUnit? (t.flatMap writePoint ++ doubleQuote :: rest) = none := by
      intro hc
      cases t with
      | nil => exact lowUnit?_of_head (by decide)
      | cons d t =>
        rw [List.flatMap_cons, List.append_assoc]
        exact lowUnit?_writePoint fun hd => (List.isChain_cons_cons.1 ht).1 ⟨hc, hd⟩
    have hpoint := readPoint?_writePoint hnext
    obtain ⟨d, ds, hwrite, hd⟩ := head?_writePoint c
    have hquote : (writePoint c ++ (t.flatMap writePoint ++ doubleQuote :: rest)).head? ≠
        some doubleQuote := by
      rw [hwrite]
      exact fun h => hd (Option.some.inj h)
    rw [List.flatMap_cons, List.append_assoc, readStringFrom?, if_neg hquote]
    simp only [hpoint]
    rw [ih ht.tail (Nat.lt_of_succ_lt_succ hfuel)]
    rfl

theorem length_le_length_flatMap (t : Text) : t.length ≤ (t.flatMap writePoint).length := by
  induction t with
  | nil => exact Nat.le_refl 0
  | cons c t ih =>
    obtain ⟨d, ds, hwrite, -⟩ := head?_writePoint c
    rw [List.flatMap_cons, List.length_append, hwrite, List.length_cons, List.length_cons]
    omega

/-- A text is read back as it was written. -/
theorem readString?_writeString {t : Text} (ht : t.IsJoined) (rest : List Char) :
    readString? (writeString t ++ rest) = some (t, rest) := by
  have happend : writeString t ++ rest =
      doubleQuote :: (t.flatMap writePoint ++ doubleQuote :: rest) := by
    simp [writeString]
  rw [happend, readString?, if_pos rfl]
  refine readStringFrom?_write ht ?_
  have hlength := length_le_length_flatMap t
  rw [List.length_append]
  omega

/-! ## What is read -/

theorem low_of_lowUnit? {cs : List Char} (h : lowUnit? cs = some (v, rest)) :
    0xDC00 ≤ v ∧ v < 0xE000 := by
  unfold lowUnit? at h
  split at h
  · split at h
    · split at h
      · split at h
        · next hlow =>
          cases h
          simpa using hlow
        · cases h
      · cases h
    · cases h
  · cases h

/-- An escaped code unit alone or a pair of them, and what follows. -/
theorem halves_of_readPoint?_unit {a b d e : Char} {after : List Char} {c : CodePoint}
    (h : readPoint? (backslash :: 'u' :: a :: b :: d :: e :: after) = some (c, rest)) :
    (c.IsLow → lowUnit? (backslash :: 'u' :: a :: b :: d :: e :: after) ≠ none) ∧
      (c.IsHigh → lowUnit? rest = none) := by
  simp only [readPoint?, if_true] at h
  split at h
  · cases h
  next u hunit =>
  split at h
  · next hhigh =>
    simp only [Bool.and_eq_true, decide_eq_true_eq] at hhigh
    split at h
    · next v after' hlow =>
      -- a pair makes a character beyond both ranges of halves
      have hv := low_of_lowUnit? hlow
      obtain ⟨rfl, rfl⟩ := Prod.mk.inj (Option.some.inj h)
      rw [CodePoint.isLow_ofNumber_iff, CodePoint.isHigh_ofNumber_iff]
      omega
    · next hlow =>
      cases h
      rw [CodePoint.isLow_ofNumber_iff]
      exact ⟨by omega, fun _ => hlow⟩
  · next hnot =>
    simp only [Bool.and_eq_true, decide_eq_true_eq] at hnot
    cases h
    rw [CodePoint.isLow_ofNumber_iff, CodePoint.isHigh_ofNumber_iff]
    refine ⟨fun hlow => ?_, fun hhigh => (hnot hhigh).elim⟩
    simp [lowUnit?, hunit, hlow]

theorem readPoint?_cases {cs : List Char} {c : CodePoint} (h : readPoint? cs = some (c, rest)) :
    (∃ a b d e after, cs = backslash :: 'u' :: a :: b :: d :: e :: after) ∨
      ∃ x : Char, c = .char x := by
  unfold readPoint? at h
  split at h
  · cases h
  split at h
  · next hslash =>
    subst hslash
    split at h
    · exact .inl ⟨_, _, _, _, _, rfl⟩
    · obtain ⟨x, hx, heq⟩ := Option.map_eq_some_iff.1 h
      obtain ⟨y, -, hy⟩ := Option.bind_eq_some_iff.1 hx
      cases hy
      cases heq
      exact .inr ⟨y, rfl⟩
    · cases h
  · split at h
    · cases h
    · cases h
      exact .inr ⟨_, rfl⟩

/-- A second half is read where one can be seen, and a first half where none follows. -/
theorem halves_of_readPoint? {cs : List Char} {c : CodePoint} (h : readPoint? cs = some (c, rest)) :
    (c.IsLow → lowUnit? cs ≠ none) ∧ (c.IsHigh → lowUnit? rest = none) := by
  rcases readPoint?_cases h with ⟨a, b, d, e, after, rfl⟩ | ⟨x, rfl⟩
  · exact halves_of_readPoint?_unit h
  · exact ⟨fun hlow => (CodePoint.not_isLow_char x hlow).elim,
      fun hhigh => (CodePoint.not_isHigh_char x hhigh).elim⟩

/-- No two halves end up side by side: where a text begins with a second half, one could be seen
before it was read, and no first half is read before such a place. -/
theorem isJoined_of_readStringFrom? : ∀ {fuel : Nat} {cs : List Char} {t : Text},
    readStringFrom? fuel cs = some (t, rest) →
      t.IsJoined ∧ ∀ d ∈ t.head?, d.IsLow → lowUnit? cs ≠ none
  | 0, cs, t, h => by cases h
  | fuel + 1, cs, t, h => by
    unfold readStringFrom? at h
    split at h
    · cases h
      exact ⟨.nil, by simp⟩
    · split at h
      · cases h
      next c after hpoint =>
      obtain ⟨hlow, hhigh⟩ := halves_of_readPoint? hpoint
      obtain ⟨⟨u, rest'⟩, hu, heq⟩ := Option.map_eq_some_iff.1 h
      cases heq
      obtain ⟨hjoined, hhead⟩ := isJoined_of_readStringFrom? hu
      refine ⟨?_, fun d hd => Option.some.inj hd ▸ hlow⟩
      cases u with
      | nil => exact .singleton c
      | cons d u =>
        refine List.isChain_cons_cons.2 ⟨fun hpair => ?_, hjoined⟩
        exact hhead d rfl hpair.2 (hhigh hpair.1)

/-- A text that is read has no halves of a pair side by side. -/
theorem isJoined_of_readString? {cs : List Char} {t : Text}
    (h : readString? cs = some (t, rest)) : t.IsJoined := by
  unfold readString? at h
  split at h
  · cases h
  · split at h
    · exact (isJoined_of_readStringFrom? h).1
    · cases h

end Json

end Spreadsheet
