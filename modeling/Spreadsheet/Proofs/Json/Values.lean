import Spreadsheet.Proofs.Address.Name
import Spreadsheet.Proofs.Json.Characters

/-!
# JSON values written and read

A value is read back as it was written if it is `Faithful`: its numbers are integers, no object has
two fields of one name, and its texts are read back (`read?_write`).
-/

namespace Spreadsheet.Json

open Text (cut digitsValue doubleQuote ofChars)

/-- A value that is read back as it was written. -/
inductive Faithful : Json → Prop where
  | null : Faithful null
  | bool (b : Bool) : Faithful (bool b)
  | integer (n : Int) : Faithful (integer n)
  | string {t : Text} : t.IsJoined → Faithful (string t)
  | array {items : List Json} : (∀ j ∈ items, Faithful j) → Faithful (array items)
  | object {fields : List (Text × Json)} : (fields.map Prod.fst).Nodup →
    (∀ f ∈ fields, f.1.IsJoined) → (∀ f ∈ fields, Faithful f.2) → Faithful (object fields)

variable {fuel : Nat} {c : Char} {cs rest : List Char} {j : Json}

/-! ## White space -/

/-- White space of JSON. -/
def isBlankChar (c : Char) : Bool :=
  c = ' ' || c = '\t' || c = '\n' || c = '\r'

theorem skipBlank_cons (h : isBlankChar c = false) : skipBlank (c :: cs) = c :: cs := by
  show List.dropWhile isBlankChar (c :: cs) = c :: cs
  rw [List.dropWhile_cons_of_neg (by simp [h])]

theorem skipBlank_space (cs : List Char) : skipBlank (' ' :: cs) = skipBlank cs :=
  rfl

theorem readValue?_space (fuel : Nat) (cs : List Char) :
    readValue? fuel (' ' :: cs) = readValue? fuel cs := by
  cases fuel with
  | zero => rfl
  | succ fuel => rw [readValue?, readValue?, skipBlank_space]

theorem readItems?_space (fuel : Nat) (cs : List Char) :
    readItems? fuel (' ' :: cs) = readItems? fuel cs := by
  cases fuel with
  | zero => rfl
  | succ fuel => rw [readItems?, readItems?, readValue?_space]

theorem readFields?_space (fuel : Nat) (fields : List (Text × Json)) (cs : List Char) :
    readFields? fuel fields (' ' :: cs) = readFields? fuel fields cs := by
  cases fuel with
  | zero => rfl
  | succ fuel => rw [readFields?, readFields?, skipBlank_space]

/-! ## Integers -/

/-- A text that cannot go on a number. -/
def EndsNumber (cs : List Char) : Prop :=
  ∀ c ∈ cs.head?, c.isDigit = false ∧ c ≠ '.' ∧ c ≠ 'e' ∧ c ≠ 'E'

theorem endsNumber_nil : EndsNumber [] := by
  simp [EndsNumber]

theorem endsNumber_cons (h : c.isDigit = false ∧ c ≠ '.' ∧ c ≠ 'e' ∧ c ≠ 'E') :
    EndsNumber (c :: cs) :=
  fun _ hd => Option.some.inj hd ▸ h

theorem readFraction_of_ends (h : EndsNumber rest) : readFraction rest = (none, rest) := by
  unfold readFraction
  split
  · exact ((h '.' rfl).2.1 rfl).elim
  · rfl

theorem readExponent_of_ends (h : EndsNumber rest) : readExponent rest = (none, rest) := by
  unfold readExponent
  split
  · next mark _ =>
    obtain ⟨-, -, he, hE⟩ := h mark rfl
    rw [if_neg (by simp [he, hE])]
  · rfl

theorem readWhole?_toDigits (n : Nat) (h : EndsNumber rest) :
    readWhole? (Nat.toDigits 10 n ++ rest) = some (Nat.toDigits 10 n, rest) := by
  rcases Nat.eq_zero_or_pos n with rfl | hn
  · rfl
  · obtain ⟨c, cs, heq, hc⟩ := Text.toDigits_eq_cons hn
    have hcut : cut Char.isDigit (Nat.toDigits 10 n ++ rest) = (Nat.toDigits 10 n, rest) :=
      Text.cut_append (fun d hd => Text.isDigit_of_mem_toDigits hd) fun d hd => (h d hd).1
    unfold readWhole?
    split
    · next hzero =>
      rw [heq] at hzero
      exact (hc (List.cons.inj hzero).1).elim
    · rw [readDigits?, hcut, heq]

theorem writeInt_eq (n : Int) : ∃ c cs, writeInt n = c :: cs ∧ (c.isDigit = true ∨
    c = '-' ∧ ∃ d ds, cs = d :: ds ∧ d.isDigit = true) := by
  obtain ⟨d, ds, heq, hd⟩ := Text.exists_toDigits_eq_cons n.natAbs
  rw [writeInt, heq]
  split
  · exact ⟨'-', _, rfl, .inr ⟨rfl, d, ds, rfl, hd⟩⟩
  · exact ⟨d, ds, rfl, .inl hd⟩

theorem readNumber?_writeInt (n : Int) (h : EndsNumber rest) :
    readNumber? (writeInt n ++ rest) = some (integer n, rest) := by
  have hwhole := readWhole?_toDigits n.natAbs h
  have hvalue : digitsValue (ofChars (Nat.toDigits 10 n.natAbs)) = n.natAbs :=
    Text.digitsValue_toDigits n.natAbs
  by_cases hn : n < 0
  · rw [writeInt, if_pos hn, List.cons_append, readNumber?]
    simp only [hwhole, readFraction_of_ends h, readExponent_of_ends h, Option.getD_none,
      List.append_nil, hvalue, if_true]
    rw [Int.ofNat_natAbs_of_nonpos (by omega), Int.neg_neg]
  · have hsign (ds : List Char) (heq : Nat.toDigits 10 n.natAbs ++ rest = '-' :: ds) : False := by
      obtain ⟨d, ds', hdigits, hd⟩ := Text.exists_toDigits_eq_cons n.natAbs
      rw [hdigits] at heq
      cases (List.cons.inj heq).1
      exact absurd hd (by decide)
    rw [writeInt, if_neg hn, readNumber?.eq_2 _ hsign]
    simp only [hwhole, readFraction_of_ends h, readExponent_of_ends h, Option.getD_none,
      List.append_nil, hvalue]
    rw [if_neg Bool.false_ne_true, Int.natAbs_of_nonneg (by omega)]

theorem readWord?_writeInt (n : Int) (rest : List Char) :
    readWord? (writeInt n ++ rest) = none := by
  obtain ⟨c, cs, heq, h⟩ := writeInt_eq n
  rw [heq, List.cons_append]
  rcases h with hc | ⟨rfl, d, ds, rfl, hd⟩
  · unfold readWord?
    split
    case h_6 =>
      unfold afterInfinity?
      split
      · next hI =>
        cases (List.cons.inj hI).1
        exact absurd hc (by decide)
      · rfl
    all_goals
      next hword =>
      cases (List.cons.inj hword).1
      exact absurd hc (by decide)
  · have hnot : afterInfinity? (d :: ds ++ rest) = none := by
      unfold afterInfinity?
      split
      · next hI =>
        cases (List.cons.inj hI).1
        exact absurd hd (by decide)
      · rfl
    show (afterInfinity? (d :: ds ++ rest)).map _ = none
    rw [hnot]
    rfl

/-! ## Values -/

/-- A value is read back from a text that begins with it. -/
def ReadsBack (j : Json) : Prop :=
  ∀ fuel rest, (writeChars j).length ≤ fuel → EndsNumber rest →
    readValue? fuel (writeChars j ++ rest) = some (j, rest)

theorem readsBack_of_cons (heq : writeChars j = c :: cs)
    (h : ∀ fuel rest, cs.length ≤ fuel → EndsNumber rest →
      readValue? (fuel + 1) (c :: (cs ++ rest)) = some (j, rest)) : ReadsBack j := by
  intro fuel rest hfuel hrest
  rw [heq, List.length_cons] at hfuel
  obtain ⟨fuel, rfl⟩ := Nat.exists_eq_add_one_of_ne_zero (Nat.ne_zero_of_lt hfuel)
  rw [heq, List.cons_append, h fuel rest (Nat.le_of_lt_succ hfuel) hrest]

theorem ne_of_isDigit {d : Char} (hc : c.isDigit = true) (hd : d.isDigit = false) : c ≠ d := by
  rintro rfl
  rw [hc] at hd
  cases hd

theorem not_isBlankChar_of_isDigit (hc : c.isDigit = true) : isBlankChar c = false := by
  have hspace : c ≠ ' ' := ne_of_isDigit hc rfl
  have htab : c ≠ '\t' := ne_of_isDigit hc rfl
  have hline : c ≠ '\n' := ne_of_isDigit hc rfl
  have hreturn : c ≠ '\r' := ne_of_isDigit hc rfl
  simp [isBlankChar, hspace, htab, hline, hreturn]

theorem readValue?_eq_or (fuel : Nat) (hblank : isBlankChar c = false) (harray : c ≠ '[')
    (hobject : c ≠ '\x7b') (hquote : c ≠ doubleQuote) :
    readValue? (fuel + 1) (c :: cs) = (readWord? (c :: cs)).or (readNumber? (c :: cs)) := by
  rw [readValue?, skipBlank_cons hblank]
  split
  · next heq => cases heq
  · next heq => exact (harray (List.cons.inj heq).1).elim
  · next heq => exact (hobject (List.cons.inj heq).1).elim
  · next heq =>
    cases heq
    rw [if_neg hquote]

theorem readsBack_integer (n : Int) : ReadsBack (integer n) := by
  obtain ⟨c, cs, heq, h⟩ := writeInt_eq n
  refine readsBack_of_cons heq fun fuel rest _ hrest => ?_
  have hword := readWord?_writeInt n rest
  have hnumber := readNumber?_writeInt n hrest
  rw [heq, List.cons_append] at hword hnumber
  have hread : readValue? (fuel + 1) (c :: (cs ++ rest)) =
      (readWord? (c :: (cs ++ rest))).or (readNumber? (c :: (cs ++ rest))) := by
    rcases h with hc | ⟨rfl, -⟩
    · exact readValue?_eq_or fuel (not_isBlankChar_of_isDigit hc) (ne_of_isDigit hc rfl)
        (ne_of_isDigit hc rfl) (ne_of_isDigit hc rfl)
    · exact readValue?_eq_or fuel rfl (by decide) (by decide) (by decide)
  rw [hread, hword, hnumber]
  rfl

theorem readsBack_string {t : Text} (ht : t.IsJoined) : ReadsBack (string t) := by
  refine readsBack_of_cons (by rw [writeChars, writeString, List.cons_append])
    fun fuel rest _ _ => ?_
  have hread := readString?_writeString ht rest
  rw [writeString, List.cons_append, List.cons_append] at hread
  rw [readValue?, skipBlank_cons (by decide)]
  split
  · next heq => cases heq
  · next heq => exact absurd (List.cons.inj heq).1 (by decide)
  · next heq => exact absurd (List.cons.inj heq).1 (by decide)
  · next heq =>
    cases heq
    rw [if_pos rfl, hread]
    rfl

theorem exists_writeChars_eq_cons (j : Json) :
    ∃ c cs, writeChars j = c :: cs ∧ isBlankChar c = false ∧ c ≠ ']' := by
  have hint (n : Int) : ∃ c cs, writeInt n = c :: cs ∧ isBlankChar c = false ∧ c ≠ ']' := by
    obtain ⟨c, cs, heq, h⟩ := writeInt_eq n
    refine ⟨c, cs, heq, ?_⟩
    rcases h with hc | ⟨rfl, -⟩
    · exact ⟨not_isBlankChar_of_isDigit hc, ne_of_isDigit hc rfl⟩
    · decide
  cases j with
  | null => exact ⟨_, _, rfl, by decide, by decide⟩
  | bool b => cases b <;> exact ⟨_, _, rfl, by decide, by decide⟩
  | integer n => exact hint n
  | decimal m e =>
    obtain ⟨c, cs, heq, h⟩ := hint m
    exact ⟨c, _, by rw [writeChars, heq, List.cons_append], h⟩
  | nonFinite => exact ⟨_, _, rfl, by decide, by decide⟩
  | string t => exact ⟨_, _, rfl, by decide, by decide⟩
  | array items => cases items <;> exact ⟨_, _, rfl, by decide, by decide⟩
  | object fields => cases fields <;> exact ⟨_, _, rfl, by decide, by decide⟩

/-! ## Arrays -/

theorem writeItems_cons_append (item : Json) (items : List Json) (rest : List Char) :
    writeItems (item :: items) ++ rest =
      ',' :: ' ' :: (writeChars item ++ (writeItems items ++ rest)) := by
  simp only [writeItems, List.cons_append, List.append_assoc]

theorem readItems?_write {items : List Json} (rest : List Char) :
    ∀ {item : Json}, (∀ j ∈ item :: items, ReadsBack j) → ∀ (fuel : Nat),
      (writeChars item).length + (writeItems items).length ≤ fuel →
      readItems? fuel (writeChars item ++ (writeItems items ++ rest)) =
        some (item :: items, rest) := by
  induction items with
  | nil =>
    intro item h fuel hfuel
    rw [writeItems, List.length_singleton] at hfuel
    obtain ⟨fuel, rfl⟩ : ∃ n, fuel = n + 1 := Nat.exists_eq_add_one_of_ne_zero (by omega)
    have hitem := h item List.mem_cons_self fuel (']' :: rest) (by omega)
      (endsNumber_cons (by decide))
    rw [readItems?, writeItems, List.singleton_append, hitem]
    simp only [skipBlank_cons (show isBlankChar ']' = false from rfl)]
  | cons next items ih =>
    intro item h fuel hfuel
    simp only [writeItems, List.cons_append, List.length_cons, List.length_append] at hfuel
    obtain ⟨fuel, rfl⟩ : ∃ n, fuel = n + 1 := Nat.exists_eq_add_one_of_ne_zero (by omega)
    have hitem := h item List.mem_cons_self fuel
      (',' :: ' ' :: (writeChars next ++ (writeItems items ++ rest))) (by omega)
      (endsNumber_cons (by decide))
    have hitems := ih (fun j hj => h j (List.mem_cons_of_mem item hj)) fuel (by omega)
    rw [readItems?, writeItems_cons_append, hitem]
    simp only [skipBlank_cons (show isBlankChar ',' = false from rfl), readItems?_space, hitems,
      Option.map_some]

theorem readsBack_array {items : List Json} (h : ∀ j ∈ items, ReadsBack j) :
    ReadsBack (array items) := by
  cases items with
  | nil => exact readsBack_of_cons rfl fun _ _ _ _ => rfl
  | cons item items =>
    refine readsBack_of_cons (by rw [writeChars, List.cons_append]) fun fuel rest hfuel _ => ?_
    rw [List.length_append] at hfuel
    have hitems := readItems?_write rest h fuel hfuel
    obtain ⟨c, cs, heq, hblank, hclose⟩ := exists_writeChars_eq_cons item
    rw [List.append_assoc, readValue?, skipBlank_cons (show isBlankChar '[' = false from rfl)]
    rw [heq, List.cons_append] at hitems ⊢
    simp only [skipBlank_cons hblank]
    split
    · next hnil => exact (hclose (List.cons.inj hnil).1).elim
    · rw [hitems]
      rfl

/-! ## Objects -/

theorem setField_of_not_mem {fields : List (Text × Json)} {key : Text} {v : Json}
    (h : key ∉ fields.map Prod.fst) : setField fields key v = fields ++ [(key, v)] := by
  induction fields with
  | nil => rfl
  | cons f fields ih =>
    rw [List.map_cons, List.mem_cons, not_or] at h
    rw [setField, if_neg (Ne.symm h.1), ih h.2]
    rfl

theorem setField_of_nodup {before fields : List (Text × Json)} {key : Text} {v : Json}
    (hkeys : ((before ++ (key, v) :: fields).map Prod.fst).Nodup) :
    setField before key v = before ++ [(key, v)] := by
  refine setField_of_not_mem fun hmem => ?_
  rw [List.map_append, List.map_cons] at hkeys
  exact (List.nodup_append.1 hkeys).2.2 key hmem key List.mem_cons_self rfl

theorem writeFields_cons_append (key : Text) (v : Json) (fields : List (Text × Json))
    (rest : List Char) : writeFields ((key, v) :: fields) ++ rest =
      ',' :: ' ' :: (writeString key ++
        ':' :: ' ' :: (writeChars v ++ (writeFields fields ++ rest))) := by
  simp only [writeFields, List.cons_append, List.append_assoc]

/-- A field that is read, up to the comma or the brace after it. -/
theorem readFields?_step {key : Text} {v : Json} (hkey : key.IsJoined) (hv : ReadsBack v)
    (hfuel : (writeChars v).length ≤ fuel) (hrest : EndsNumber rest) (fields : List (Text × Json)) :
    readFields? (fuel + 1) fields (writeString key ++ ':' :: ' ' :: (writeChars v ++ rest)) =
      match skipBlank rest with
      | ',' :: rest => readFields? fuel (setField fields key v) rest
      | '\x7d' :: rest => some (setField fields key v, rest)
      | _ => none := by
  have hquote (cs : List Char) : skipBlank (writeString key ++ cs) = writeString key ++ cs :=
    skipBlank_cons rfl
  have hread := readFields?.eq_2 fields
    (writeString key ++ ':' :: ' ' :: (writeChars v ++ rest)) fuel
  simp only [hquote, readString?_writeString hkey,
    skipBlank_cons (show isBlankChar ':' = false from rfl), readValue?_space,
    hv fuel rest hfuel hrest] at hread
  exact hread

theorem readFields?_write {fields : List (Text × Json)} (rest : List Char) :
    ∀ {key : Text} {v : Json} (before : List (Text × Json)),
      ((before ++ (key, v) :: fields).map Prod.fst).Nodup →
      (∀ f ∈ (key, v) :: fields, f.1.IsJoined) → (∀ f ∈ (key, v) :: fields, ReadsBack f.2) →
        ∀ (fuel : Nat), (writeChars v).length + (writeFields fields).length ≤ fuel →
          readFields? fuel before (writeString key ++
            (':' :: ' ' :: (writeChars v ++ (writeFields fields ++ rest)))) =
              some (before ++ (key, v) :: fields, rest) := by
  induction fields with
  | nil =>
    intro key v before hkeys hjoined h fuel hfuel
    rw [writeFields, List.length_singleton] at hfuel
    obtain ⟨fuel, rfl⟩ : ∃ n, fuel = n + 1 := Nat.exists_eq_add_one_of_ne_zero (by omega)
    have hkey : key.IsJoined := hjoined _ List.mem_cons_self
    have hv : ReadsBack v := h _ List.mem_cons_self
    rw [writeFields, List.singleton_append, readFields?_step hkey hv (by omega)
      (endsNumber_cons (by decide)), setField_of_nodup hkeys]
    simp only [skipBlank_cons (show isBlankChar '\x7d' = false from rfl)]
  | cons next fields ih =>
    intro key v before hkeys hjoined h fuel hfuel
    obtain ⟨key', v'⟩ := next
    simp only [writeFields, List.cons_append, List.length_cons, List.length_append] at hfuel
    obtain ⟨fuel, rfl⟩ : ∃ n, fuel = n + 1 := Nat.exists_eq_add_one_of_ne_zero (by omega)
    have hkey : key.IsJoined := hjoined _ List.mem_cons_self
    have hv : ReadsBack v := h _ List.mem_cons_self
    have hkeys' : ((before ++ [(key, v)] ++ (key', v') :: fields).map Prod.fst).Nodup := by
      rwa [List.append_assoc, List.singleton_append]
    have hfields := ih _ hkeys' (fun f hf => hjoined f (List.mem_cons_of_mem _ hf))
      (fun f hf => h f (List.mem_cons_of_mem _ hf)) fuel (by omega)
    rw [writeFields_cons_append, readFields?_step hkey hv (by omega) (endsNumber_cons (by decide)),
      setField_of_nodup hkeys]
    simp only [skipBlank_cons (show isBlankChar ',' = false from rfl), readFields?_space, hfields,
      List.append_assoc, List.singleton_append]

theorem readsBack_object {fields : List (Text × Json)} (hkeys : (fields.map Prod.fst).Nodup)
    (hjoined : ∀ f ∈ fields, f.1.IsJoined) (h : ∀ f ∈ fields, ReadsBack f.2) :
    ReadsBack (object fields) := by
  rcases fields with _ | ⟨⟨key, v⟩, fields⟩
  · exact readsBack_of_cons rfl fun _ _ _ _ => rfl
  · refine readsBack_of_cons (by rw [writeChars, List.cons_append, List.cons_append])
      fun fuel rest hfuel _ => ?_
    simp only [List.cons_append, List.append_assoc, List.length_cons, List.length_append] at hfuel ⊢
    have hfields := readFields?_write rest [] hkeys hjoined h fuel (by omega)
    obtain ⟨cs, hcs⟩ : ∃ cs, writeString key ++
        (':' :: ' ' :: (writeChars v ++ (writeFields fields ++ rest))) = doubleQuote :: cs :=
      ⟨_, rfl⟩
    rw [hcs] at hfields ⊢
    rw [readValue?, skipBlank_cons (show isBlankChar '\x7b' = false from rfl)]
    simp only [skipBlank_cons (show isBlankChar doubleQuote = false from rfl)]
    split
    · next heq => exact absurd (List.cons.inj heq).1 (by decide)
    · rw [hfields]
      rfl

/-! ## Documents -/

theorem Faithful.readsBack (h : Faithful j) : ReadsBack j := by
  induction h with
  | null => exact readsBack_of_cons rfl fun _ _ _ _ => rfl
  | bool b => cases b <;> exact readsBack_of_cons rfl fun _ _ _ _ => rfl
  | integer n => exact readsBack_integer n
  | string ht => exact readsBack_string ht
  | array _ ih => exact readsBack_array ih
  | object hkeys hjoined _ ih => exact readsBack_object hkeys hjoined ih

theorem isEmpty_write (j : Json) : j.write.isEmpty = false := by
  obtain ⟨c, cs, heq, -⟩ := exists_writeChars_eq_cons j
  rw [write, heq, Bool.eq_false_iff, ne_eq, String.isEmpty_iff]
  simp

/-- A faithful value is read back as it was written. -/
theorem read?_write (h : Faithful j) : read? j.write = some j := by
  have hread := h.readsBack (j.writeChars.length + 1) [] (Nat.le_succ _) endsNumber_nil
  rw [List.append_nil] at hread
  rw [read?, write, String.toList_ofList, readChars?, hread]
  rfl

end Spreadsheet.Json
