import Spreadsheet.Proofs.ChangeReport
import Spreadsheet.Proofs.Number.Numeral
import Spreadsheet.Proofs.Number.Whole
import Spreadsheet.Proofs.TypedNumbers

/-!
# Whole numbers are displayed without loss

A whole number below the limit is displayed as an integer (`display_of_isWhole`). The text of an
integer is read as the double nearest to it (`readNumber_toString`), and that is the number itself
(`IsWhole.nearestToInt_eq`), but for the sign of a zero.
-/

namespace Spreadsheet

open Text

/-- A number, the negative zero as the positive one. -/
def unsignedZero (x : Float) : Float :=
  if x == 0 then 0 else x

variable {x y : Float} {i j : Int}

/-! ## The text of an integer -/

theorem toString_eq_signedDigits (i : Int) : (toString i : Text) = ofChars (signedDigits i) := by
  cases i with
  | ofNat n =>
    have hnonneg : ¬ Int.ofNat n < 0 := Int.not_lt.2 (Int.natCast_nonneg n)
    rw [signedDigits, if_neg hnonneg]
    show ofChars (Nat.repr n).toList = _
    rw [Nat.toList_repr]
    rfl
  | negSucc n =>
    rw [signedDigits, if_pos (Int.negSucc_lt_zero n)]
    show ofChars ("-" ++ Nat.repr (n + 1)).toList = _
    rw [String.toList_append, Nat.toList_repr]
    rfl

theorem isDigit_of_mem_ofChars {n : Nat} :
    ∀ c ∈ ofChars (Nat.toDigits 10 n), isDigit c = true := by
  intro c hc
  obtain ⟨d, hd, rfl⟩ := List.mem_map.1 hc
  exact isDigit_of_ascii (isDigit_of_mem_toDigits hd)

theorem trim_toString (i : Int) : trim (toString i) = toString i := by
  have hdigits : ∀ c ∈ ofChars (Nat.toDigits 10 i.natAbs), isBlank c = false := fun c hc =>
    not_isBlank_of_isDigit (isDigit_of_mem_ofChars c hc)
  rw [toString_eq_signedDigits]
  refine trim_eq_self ?_
  unfold signedDigits
  split
  · exact List.forall_mem_cons.2 ⟨by decide, hdigits⟩
  · exact hdigits

/-- The digits of a number are a numeral. -/
theorem Numeral.ofText?_toDigits (n : Nat) : ofText? (ofChars (Nat.toDigits 10 n)) =
    some ⟨ofChars (Nat.toDigits 10 n), none, none⟩ := by
  have hne : ofChars (Nat.toDigits 10 n) ≠ [] := by
    obtain ⟨d, ds, heq, -⟩ := exists_toDigits_eq_cons n
    rw [heq]
    exact List.cons_ne_nil _ _
  have hspelled : IsSpelled ⟨ofChars (Nat.toDigits 10 n), none, none⟩ :=
    ⟨isDigit_of_mem_ofChars, by simp, .inl hne, by simp⟩
  have hscan : scan? (spelling ⟨ofChars (Nat.toDigits 10 n), none, none⟩ ++ []) =
      some (⟨ofChars (Nat.toDigits 10 n), none, none⟩, []) := scan?_spelling hspelled (by simp)
  exact ofText?_eq_some_iff.2 (by simpa [spelling] using hscan)

theorem Numeral.value_toDigits (n : Nat) :
    (⟨ofChars (Nat.toDigits 10 n), none, none⟩ : Numeral).value = Float.ofScientific n false 0 := by
  simp [value, mantissa, scale, digitsValue_toDigits]

theorem splitSign_toDigits (n : Nat) : splitSign (ofChars (Nat.toDigits 10 n)) =
    (false, ofChars (Nat.toDigits 10 n)) := by
  obtain ⟨d, ds, heq, hd⟩ := exists_toDigits_eq_cons n
  rw [heq, ofChars_cons]
  unfold splitSign
  split
  · next h =>
    cases h
    exact absurd hd (by decide)
  · next h =>
    cases h
    exact absurd hd (by decide)
  · rfl

theorem signedValue?_toString (i : Int) : signedValue? (toString i) = some (nearestToInt i) := by
  have hsplit : splitSign (ofChars (signedDigits i)) =
      (decide (i < 0), ofChars (Nat.toDigits 10 i.natAbs)) := by
    unfold signedDigits
    by_cases hi : i < 0
    · rw [if_pos hi, decide_eq_true hi]
      rfl
    · rw [if_neg hi, decide_eq_false hi, splitSign_toDigits]
  rw [toString_eq_signedDigits, signedValue?_eq, hsplit, Numeral.ofText?_toDigits, Option.map_some,
    Numeral.value_toDigits, nearestToInt]
  simp only [decide_eq_true_eq]

theorem isFinite_nearestToInt (hi : i.natAbs < 2 ^ 256) : (nearestToInt i).isFinite := by
  unfold nearestToInt
  split
  · exact isFinite_neg (isFinite_ofScientific hi)
  · exact isFinite_ofScientific hi

/-- The text of an integer is read as the double nearest to it. -/
theorem readNumber_toString (hi : i.natAbs < 2 ^ 256) :
    readNumber (toString i) = some (nearestToInt i) := by
  rw [readNumber, trim_toString, signedValue?_toString]
  exact Option.filter_some_pos (isFinite_nearestToInt hi)

/-! ## Whole numbers -/

theorem display_of_isWhole (h : IsWhole x i) :
    (CellValue.number x).display = .ok (toString i) := by
  rw [CellValue.display, numberText?_of_isWhole h, toString_eq_signedDigits]

theorem IsWhole.nearestToInt_eq_unsignedZero (h : IsWhole x i) :
    nearestToInt i = unsignedZero x := by
  have hzero : IsWhole 0 0 := ⟨rfl, by decide⟩
  unfold unsignedZero
  by_cases hi : i = 0
  · rw [if_pos ((h.beq_iff hzero).2 hi), hi]
    rfl
  · rw [if_neg fun hx => hi ((h.beq_iff hzero).1 hx), h.nearestToInt_eq hi]

theorem IsWhole.readNumber_eq (h : IsWhole x i) :
    readNumber (toString i) = some (unsignedZero x) := by
  have hlt : i.natAbs < 10 ^ 15 := h.lt
  rw [readNumber_toString (Nat.lt_trans hlt (by decide)), h.nearestToInt_eq_unsignedZero]

/-- Two whole numbers are displayed alike only if they are equal. -/
theorem IsWhole.display_eq_iff (hx : IsWhole x i) (hy : IsWhole y j) :
    (CellValue.number x).display = (CellValue.number y).display ↔ (x == y) = true := by
  rw [display_of_isWhole hx, display_of_isWhole hy, hx.beq_iff hy, Except.ok.injEq, ofString_inj]
  exact Int.repr_inj

theorem toNumber_toString (h : IsWhole x i) :
    (Value.scalar (.text (toString i))).toNumber = .ok (unsignedZero x) := by
  have hne : ¬ (toString i : Text).isEmpty = true := by
    intro hempty
    have hread := h.readNumber_eq
    rw [List.isEmpty_iff.1 hempty] at hread
    cases hread
  rw [Value.toNumber, if_neg hne, h.readNumber_eq]

/-! ## Reports -/

/-- An operation that succeeds reports every cell that displays something else than before. -/
theorem Sheet.mem_of_display_ne {lang : Language} {s : Sheet} (h : Reachable lang s) {v : Update}
    (hv : v = s.recalculate ∨ ∃ edits, v = s.setCells edits) {changed : List Address}
    (hok : v.result = .ok changed) {a : Address}
    (hne : (s.grid.value a).display ≠ (v.sheet.grid.value a).display) : a ∈ changed := by
  have hsync := h.inSync.1
  rcases hv with rfl | ⟨edits, rfl⟩
  · obtain ⟨u, changed', hu, hupdated, -⟩ := recalculate_eq hsync
    rw [hu] at hok hne
    obtain rfl := Except.ok.inj hok
    exact ((hupdated.reports hsync).mem_iff a).2 hne
  · obtain ⟨checked, -, -, hupdated, -⟩ := setCells_eq_ok hsync hok
    exact ((hupdated.reports hsync).mem_iff a).2 hne

/-! ## Joined texts -/

section Concat

variable {reader : CellReader} {a : Address} {shown : Text}

theorem checkCount_concat :
    Library.standard.checkCount "CONCAT" 1 = .ok Standard.Function.concat.entry := by
  have hfind : Library.standard.find? "CONCAT" = some Standard.Function.concat.entry := rfl
  rw [Library.checkCount, Library.get, hfind]
  rfl

/-- The joined text of one cell with a number is what the cell displays. -/
theorem evalWithin_concat (hvalue : reader.value a = .number x)
    (hshown : (CellValue.number x).display = .ok shown) (depth : Nat) :
    evalWithin .standard reader (depth + 2) (.call "CONCAT" [.ref a]) =
      .ok (.scalar (.text shown)) := by
  have hoperand : evalWithin .standard reader (depth + 1) (.ref a) = .ok (.scalar (.number x)) := by
    rw [evalWithin, CellReader.read, hvalue]
    rfl
  have hjoined : Standard.concat [.scalar (.number x)] = .ok (.scalar (.text shown)) := by
    have htexts :
        (Standard.flatten [.scalar (.number x)]).mapM CellValue.display = .ok [shown] := by
      show [CellValue.number x].mapM CellValue.display = _
      rw [List.mapM_cons, hshown]
      rfl
    rw [Standard.concat, htexts]
    show Except.ok (Value.scalar (.text [shown].flatten)) = _
    rw [List.flatten_singleton]
  have hoperands : [Formula.ref a].mapM (evalWithin .standard reader (depth + 1)) =
      .ok [.scalar (.number x)] := by
    rw [List.mapM_cons, hoperand]
    rfl
  show (Library.standard.checkCount "CONCAT" 1 >>= fun entry => _) = _
  rw [checkCount_concat]
  show ([Formula.ref a].mapM (evalWithin .standard reader (depth + 1)) >>= fun operands =>
    finiteOutcome (Standard.concat operands)) = _
  rw [hoperands]
  show finiteOutcome (Standard.concat [.scalar (.number x)]) = _
  rw [hjoined]
  rfl

theorem eval_concat (limit : NestingLimit) (h : IsWhole x i) (hvalue : reader.value a = .number x) :
    eval (.standard limit) reader (.call "CONCAT" [.ref a]) =
      .ok (.scalar (.text (toString i))) := by
  obtain ⟨depth, hdepth⟩ := limit.exists_depth_eq
  show evalWithin .standard reader limit.depth (.call "CONCAT" [.ref a]) = _
  rw [hdepth]
  exact evalWithin_concat hvalue (display_of_isWhole h) (depth + 1)

theorem evaluate_plus_concat (limit : NestingLimit) (h : IsWhole x i)
    (hvalue : reader.value a = .number x) :
    evaluate (.standard limit) reader (.unary "+" (.call "CONCAT" [.ref a])) =
      .ok (.number (unsignedZero x)) := by
  have heval : eval (.standard limit) reader (.unary "+" (.call "CONCAT" [.ref a])) =
      .ok (.number (unsignedZero x)) := by
    obtain ⟨depth, hdepth⟩ := limit.exists_depth_eq
    show evalWithin .standard reader limit.depth (.unary "+" (.call "CONCAT" [.ref a])) = _
    rw [hdepth]
    show (evalWithin .standard reader (depth + 2) (.call "CONCAT" [.ref a]) >>= applyUnary "+") = _
    rw [evalWithin_concat hvalue (display_of_isWhole h)]
    show applyUnary "+" (.scalar (.text (toString i))) = _
    rw [applyUnary, toNumber_toString h]
    rfl
  exact Formula.evaluate_of_eval heval (Option.filter_eq_some_iff.1 h.readNumber_eq).2

end Concat

/-- The display of a whole number is read as the number, but for the sign of a zero. So two of them
that differ are displayed differently, an operation that puts one in the place of another reports
the cell, and the joined text of a cell with one is coerced to it. -/
theorem whole_numbers_lossless {x : Float} {i : Int} (h : IsWhole x i) :
    (CellValue.number x).display = .ok (toString i) ∧
      readNumber (toString i) = some (unsignedZero x) ∧
      (∀ y j, IsWhole y j →
        ((CellValue.number x).display = (CellValue.number y).display ↔ (x == y) = true)) ∧
      (∀ lang s, Sheet.Reachable lang s → ∀ v : Sheet.Update,
        (v = s.recalculate ∨ ∃ edits, v = s.setCells edits) →
          ∀ changed, v.result = .ok changed → ∀ a y j, IsWhole y j →
            s.grid.value a = .number x → v.sheet.grid.value a = .number y → (x == y) = false →
              a ∈ changed) ∧
      ∀ limit reader a, reader.value a = .number x →
        eval (.standard limit) reader (.call "CONCAT" [.ref a]) =
            .ok (.scalar (.text (toString i))) ∧
          (Value.scalar (.text (toString i))).toNumber = .ok (unsignedZero x) ∧
          evaluate (.standard limit) reader (.unary "+" (.call "CONCAT" [.ref a])) =
            .ok (.number (unsignedZero x)) := by
  refine ⟨display_of_isWhole h, h.readNumber_eq, fun y j hy => h.display_eq_iff hy,
    fun lang s hs v hv changed hok a y j hy hbefore hafter hne => ?_,
    fun limit reader a hvalue => ?_⟩
  · refine Sheet.mem_of_display_ne hs hv hok fun hsame => ?_
    rw [hbefore, hafter, h.display_eq_iff hy, hne] at hsame
    cases hsame
  · exact ⟨eval_concat limit h hvalue, toNumber_toString h, evaluate_plus_concat limit h hvalue⟩

/-- From the limit on, a display is rounded. -/
example : (CellValue.number 1000000000000001).display = .ok "1e+15" := by
  decide +kernel

/-- The least whole number that is displayed as an integer, and the next one in its place. -/
theorem whole_numbers_lossless_least :
    IsWhole (-999999999999999) (-999999999999999) ∧
      (CellValue.number (-999999999999999)).display = .ok "-999999999999999" ∧
      readNumber "-999999999999999" = some (-999999999999999) ∧
      (CellValue.number (-999999999999998)).display ≠
        (CellValue.number (-999999999999999)).display ∧
      (∃ s changed, Sheet.Reached (.standard .usual) s ∧
        s.grid.value ⟨0, 0⟩ = .number (-999999999999999) ∧
        (s.setCells [⟨.placed ⟨0, 0⟩, some "-999999999999998"⟩]).result = .ok changed ∧
          ⟨0, 0⟩ ∈ changed) ∧
      evaluate (.standard .usual) (.dense fun _ => .number (-999999999999999))
          (.unary "+" (.call "CONCAT" [.ref ⟨0, 0⟩])) =
        .ok (.number (-999999999999999)) := by
  have hx : IsWhole (-999999999999999) (-999999999999999) := ⟨by decide +kernel, by decide⟩
  have hy : IsWhole (-999999999999998) (-999999999999998) := ⟨by decide +kernel, by decide⟩
  have htext : (toString (-999999999999999 : Int) : Text) = "-999999999999999" := by decide +kernel
  have hsame : unsignedZero (-999999999999999) = -999999999999999 := by decide +kernel
  have hne : ((-999999999999999 : Float) == -999999999999998) = false := by decide +kernel
  obtain ⟨hdisplay, hread, hdistinct, hreported, hjoined⟩ := whole_numbers_lossless hx
  rw [htext, hsame] at hread
  rw [htext] at hdisplay
  refine ⟨hx, hdisplay, hread, fun heq => ?_, ?_, ?_⟩
  · rw [(hdistinct _ _ hy).1 heq.symm] at hne
    cases hne
  · have hread' : readNumber "-999999999999998" = some (-999999999999998) := by decide +kernel
    obtain ⟨s, hs, hcontent⟩ : ∃ s, Sheet.Reached (.standard .usual) s ∧
        s.grid.content? ⟨0, 0⟩ = some (.literal (.number (-999999999999999))) :=
      Sheet.exists_reached_of_read (by decide) (by decide +kernel) (Content.read_number hread)
    obtain ⟨u, changed, hu, hreached, -, hcontent'⟩ := hs.exists_setCells_of_read (a := ⟨0, 0⟩)
      (by decide) (by decide +kernel) (Content.read_number hread')
    have hok : (s.setCells [⟨.placed ⟨0, 0⟩, some "-999999999999998"⟩]).result = .ok changed := by
      rw [hu]
    refine ⟨s, changed, hs, hs.value_eq_of_literal hcontent, hok,
      hreported _ s hs.reachable _ (.inr ⟨_, rfl⟩) _ hok _ _ _ hy
        (hs.value_eq_of_literal hcontent) ?_ hne⟩
    rw [hu]
    exact hreached.value_eq_of_literal hcontent'
  · have hback := (hjoined .usual (.dense fun _ => .number (-999999999999999)) ⟨0, 0⟩ rfl).2.2
    rwa [hsame] at hback

end Spreadsheet
