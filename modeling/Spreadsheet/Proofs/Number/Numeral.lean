import Spreadsheet.Formula.Token
import Spreadsheet.Proofs.Text.Digits

/-!
# Numerals read back

What is scanned is spelled as a numeral is (`Numeral.isSpelled_of_scan?`), and what is spelled so is
scanned again, before anything that cannot go on with it (`Numeral.scan?_spelling`).
-/

namespace Spreadsheet

open Text

/-- The parts of an exponent are what they have to be. -/
structure Exponent.IsSpelled (e : Exponent) : Prop where
  mark : e.mark = .char 'e' ∨ e.mark = .char 'E'
  sign : ∀ c ∈ e.sign, c = .char '+' ∨ c = .char '-'
  digits_ne_nil : e.digits ≠ []
  isDigit : ∀ c ∈ e.digits, Text.isDigit c = true

/-- The parts of a numeral are what they have to be. -/
structure Numeral.IsSpelled (n : Numeral) : Prop where
  whole : ∀ c ∈ n.whole, isDigit c = true
  fraction : ∀ ds ∈ n.fraction, ∀ c ∈ ds, isDigit c = true
  exists_digit : n.whole ≠ [] ∨ ∃ ds ∈ n.fraction, ds ≠ []
  exponent : ∀ e ∈ n.exponent, e.IsSpelled

/-- Whether a numeral can go on with a code point. -/
def Numeral.isPart (c : CodePoint) : Bool :=
  isDigit c || c = .char '.' || c = .char 'e' || c = .char 'E'

variable {t rest : Text}

theorem Numeral.isPart_eq_false_iff {c : CodePoint} : isPart c = false ↔
    isDigit c = false ∧ c ≠ .char '.' ∧ c ≠ .char 'e' ∧ c ≠ .char 'E' := by
  simp [isPart, and_assoc]

namespace Exponent

variable {e : Exponent} {mark : CodePoint} {sign : Option CodePoint} {ds : Text}

theorem scanDigits?_append (hne : ds ≠ []) (hds : ∀ c ∈ ds, Text.isDigit c = true)
    (hrest : ∀ c ∈ rest.head?, Text.isDigit c = false) :
    scanDigits? mark sign (ds ++ rest) = some (⟨mark, sign, ds⟩, rest) := by
  rw [scanDigits?, cut_append hds hrest]
  split
  · next h => exact (hne (Prod.mk.inj h).1).elim
  · next h =>
    obtain ⟨rfl, rfl⟩ := Prod.mk.inj h
    rfl

theorem scan?_spelling (h : e.IsSpelled) (hrest : ∀ c ∈ rest.head?, Text.isDigit c = false) :
    scan? (e.spelling ++ rest) = some (e, rest) := by
  obtain ⟨mark, sign, ds⟩ := e
  have hmark : (mark = .char 'e' || mark = .char 'E') = true := by simpa using h.mark
  have hscan (sign : Option CodePoint) :
      scanDigits? mark sign (ds ++ rest) = some (⟨mark, sign, ds⟩, rest) :=
    scanDigits?_append h.digits_ne_nil h.isDigit hrest
  cases sign with
  | some c =>
    have hsign : (c = .char '+' || c = .char '-') = true := by simpa using h.sign c rfl
    simp only [spelling, Option.toList_some, List.cons_append, List.nil_append, scan?, if_pos hmark,
      if_pos hsign]
    exact hscan _
  | none =>
    obtain ⟨d, ds, rfl⟩ := List.exists_cons_of_ne_nil h.digits_ne_nil
    have hdigit : Text.isDigit d = true := h.isDigit d List.mem_cons_self
    have hsign : ¬ (d = .char '+' || d = .char '-') = true := by
      simp only [Bool.or_eq_true, decide_eq_true_eq]
      rintro (rfl | rfl)
      · exact absurd hdigit (by decide)
      · exact absurd hdigit (by decide)
    simp only [spelling, Option.toList_none, List.cons_append, List.nil_append, scan?, if_pos hmark,
      if_neg hsign]
    exact hscan _

theorem scan?_eq_none (h : ∀ c ∈ t.head?, c ≠ .char 'e' ∧ c ≠ .char 'E') : scan? t = none := by
  cases t with
  | nil => rfl
  | cons c t =>
    have hmark : ¬ (c = .char 'e' || c = .char 'E') = true := by simpa using h c rfl
    cases t <;> exact if_neg hmark

theorem isSpelled_of_scanDigits? (hmark : mark = .char 'e' ∨ mark = .char 'E')
    (hsign : ∀ c ∈ sign, c = .char '+' ∨ c = .char '-')
    (h : scanDigits? mark sign t = some (e, rest)) : e.IsSpelled := by
  unfold scanDigits? at h
  split at h
  · cases h
  · next hne hcut =>
    obtain ⟨rfl, rfl⟩ := Prod.mk.inj (Option.some.inj h)
    exact ⟨hmark, hsign, hne, all_of_cut hcut⟩

theorem isSpelled_of_scan? (h : scan? t = some (e, rest)) : e.IsSpelled := by
  unfold scan? at h
  split at h
  · split at h
    · next hmark =>
      have hmark := by simpa using hmark
      split at h
      · split at h
        · next hsign => exact isSpelled_of_scanDigits? hmark (by simpa using hsign) h
        · exact isSpelled_of_scanDigits? hmark (by simp) h
      · cases h
    · cases h
  · cases h

end Exponent

namespace Numeral

variable {n : Numeral} {whole : Text} {fraction : Option Text} {exponent : Option Exponent}

/-! ## Spelling, then scanning -/

/-- What an optional exponent is spelled like, before the rest of a text. -/
theorem head?_exponent (h : ∀ e ∈ exponent, e.IsSpelled)
    (hrest : ∀ c ∈ rest.head?, isPart c = false) :
    ∀ c ∈ (exponent.elim [] Exponent.spelling ++ rest).head?,
      isDigit c = false ∧ c ≠ .char '.' := by
  intro c hc
  cases exponent with
  | none =>
    obtain ⟨hdigit, hpoint, -⟩ := isPart_eq_false_iff.1 (hrest c hc)
    exact ⟨hdigit, hpoint⟩
  | some e =>
    obtain rfl : e.mark = c := Option.some.inj hc
    rcases (h e rfl).mark with hmark | hmark <;> rw [hmark] <;> decide

theorem withExponent_spelling (h : ∀ e ∈ exponent, e.IsSpelled)
    (hrest : ∀ c ∈ rest.head?, isPart c = false) :
    withExponent whole fraction (exponent.elim [] Exponent.spelling ++ rest) =
      (⟨whole, fraction, exponent⟩, rest) := by
  have hpart (c) (hc : c ∈ rest.head?) := isPart_eq_false_iff.1 (hrest c hc)
  cases exponent with
  | none =>
    have hscan : Exponent.scan? rest = none := Exponent.scan?_eq_none fun c hc => (hpart c hc).2.2
    simp only [Option.elim_none, List.nil_append, withExponent, hscan]
  | some e =>
    have hscan := Exponent.scan?_spelling (h e rfl) fun c hc => (hpart c hc).1
    simp only [Option.elim_some, withExponent, hscan]

theorem scan?_of_whole {t : Text} (hwhole : ∀ c ∈ whole, isDigit c = true) (hne : whole ≠ [])
    (ht : ∀ c ∈ t.head?, isDigit c = false ∧ c ≠ .char '.') :
    scan? (whole ++ t) = some (withExponent whole none t) := by
  rw [scan?, cut_append hwhole fun c hc => (ht c hc).1]
  split
  · next heq => exact (hne (Prod.mk.inj heq).1).elim
  · next heq => exact (hne (Prod.mk.inj heq).1).elim
  · next heq =>
    obtain ⟨rfl, rfl⟩ := Prod.mk.inj heq
    exact ((ht (.char '.') rfl).2 rfl).elim
  · next heq =>
    obtain ⟨rfl, rfl⟩ := Prod.mk.inj heq
    rfl

theorem scan?_of_fraction {ds t : Text} (hwhole : ∀ c ∈ whole, isDigit c = true)
    (hds : ∀ c ∈ ds, isDigit c = true) (hne : whole ≠ [] ∨ ds ≠ [])
    (ht : ∀ c ∈ t.head?, isDigit c = false) :
    scan? (whole ++ .char '.' :: (ds ++ t)) = some (withExponent whole (some ds) t) := by
  have hpoint : ∀ c ∈ (.char '.' :: (ds ++ t) : Text).head?, isDigit c = false := by
    rintro c ⟨⟩
    decide
  rw [scan?, cut_append hwhole hpoint]
  split
  · next heq =>
    obtain ⟨rfl, hpart⟩ := Prod.mk.inj heq
    obtain rfl := (List.cons.inj hpart).2
    rw [cut_append hds ht]
    split
    · next heq => exact (hne.resolve_left (fun hne => hne rfl) (Prod.mk.inj heq).1).elim
    · next heq =>
      obtain ⟨rfl, rfl⟩ := Prod.mk.inj heq
      rfl
  · next hnot heq =>
    obtain ⟨rfl, rfl⟩ := Prod.mk.inj heq
    exact (hnot _ rfl).elim
  · next heq =>
    obtain ⟨rfl, hpart⟩ := Prod.mk.inj heq
    obtain rfl := (List.cons.inj hpart).2
    simp only [cut_append hds ht]
  · next hnot heq =>
    obtain ⟨rfl, rfl⟩ := Prod.mk.inj heq
    exact (hnot _ rfl).elim

theorem scan?_spelling (h : n.IsSpelled) (hrest : ∀ c ∈ rest.head?, isPart c = false) :
    scan? (n.spelling ++ rest) = some (n, rest) := by
  obtain ⟨whole, fraction, exponent⟩ := n
  have hexponent (whole : Text) (fraction : Option Text) :
      withExponent whole fraction (exponent.elim [] Exponent.spelling ++ rest) =
        (⟨whole, fraction, exponent⟩, rest) :=
    withExponent_spelling h.exponent hrest
  have hhead := head?_exponent h.exponent hrest
  simp only [spelling, List.append_assoc]
  generalize exponent.elim [] Exponent.spelling ++ rest = back at hexponent hhead
  cases fraction with
  | none =>
    have hne : whole ≠ [] := by simpa using h.exists_digit
    rw [Option.elim_none, List.nil_append, scan?_of_whole h.whole hne hhead, hexponent]
  | some ds =>
    have hne : whole ≠ [] ∨ ds ≠ [] := by simpa using h.exists_digit
    rw [Option.elim_some, List.cons_append,
      scan?_of_fraction h.whole (h.fraction ds rfl) hne fun c hc => (hhead c hc).1, hexponent]

/-! ## Scanning, then spelling -/

theorem isSpelled_of_withExponent (hwhole : ∀ c ∈ whole, isDigit c = true)
    (hfraction : ∀ ds ∈ fraction, ∀ c ∈ ds, isDigit c = true)
    (hdigit : whole ≠ [] ∨ ∃ ds ∈ fraction, ds ≠ [])
    (h : some (withExponent whole fraction t) = some (n, rest)) : n.IsSpelled := by
  have h := Option.some.inj h
  unfold withExponent at h
  split at h
  · next e _ hscan =>
    obtain ⟨rfl, -⟩ := Prod.mk.inj h
    refine ⟨hwhole, hfraction, hdigit, ?_⟩
    rintro e ⟨⟩
    exact Exponent.isSpelled_of_scan? hscan
  · obtain ⟨rfl, -⟩ := Prod.mk.inj h
    exact ⟨hwhole, hfraction, hdigit, by simp⟩

theorem isSpelled_of_scan? (h : scan? t = some (n, rest)) : n.IsSpelled := by
  unfold scan? at h
  split at h
  · split at h
    · cases h
    · next hne hcut =>
      refine isSpelled_of_withExponent (by simp) ?_ (.inr ⟨_, rfl, hne⟩) h
      rintro ds ⟨⟩
      exact all_of_cut hcut
  · cases h
  · next hne hcut =>
    refine isSpelled_of_withExponent (all_of_cut hcut) ?_ (.inl hne) h
    rintro ds ⟨⟩
    exact all_of_cut rfl
  · next hne _ hcut =>
    exact isSpelled_of_withExponent (all_of_cut hcut) (by simp) (.inl hne) h

end Numeral

end Spreadsheet
