import Spreadsheet.Proofs.Evaluation
import Spreadsheet.Proofs.Formula.Grammar
import Spreadsheet.Proofs.Formula.Readers

/-!
# What is read is what the tokens write

A reader is `Sound` if the tokens that it uses up write the formula that it gives. The readers of
the language all are (`sound_expression`), however deeply they may nest.
-/

namespace Spreadsheet

open Text

namespace Formula

variable {isFunction : Text → Bool} {levels : List (List Text)} {symbols : List Text}
  {operand : Reader} {t : Token} {ts rest : List Token} {f : Formula}

/-- Whatever the reader gives is written by the tokens before those that are left. -/
def Sound (isFunction : Text → Bool) (levels : List (List Text)) (reader : Reader) : Prop :=
  ∀ {ts f rest}, reader ts = .ok (f, rest) →
    ∃ used, ts = used ++ rest ∧ Writes isFunction levels used f

/-! ## Chains -/

theorem sound_chainFrom (h : Sound isFunction levels operand) (fuel : Nat) :
    ∀ {used₀ ts rest : List Token} {left f : Formula},
      Writes isFunction (symbols :: levels) used₀ left →
        chainFrom symbols operand fuel left ts = .ok (f, rest) →
          ∃ used, ts = used ++ rest ∧ Writes isFunction (symbols :: levels) (used₀ ++ used) f := by
  induction fuel with
  | zero =>
    rintro used₀ ts rest left f hleft ⟨⟩
    exact ⟨[], rfl, by rwa [List.append_nil]⟩
  | succ fuel ih =>
    intro used₀ ts rest left f hleft hread
    cases ts with
    | nil =>
      cases hread
      exact ⟨[], rfl, by rwa [List.append_nil]⟩
    | cons t ts =>
      rw [chainFrom_cons] at hread
      split at hread
      · next hsymbol =>
        obtain ⟨⟨right, middle⟩, hright, hmore⟩ := bind_eq_ok.1 hread
        obtain ⟨used, rfl, hwrites⟩ := h hright
        obtain ⟨used', rfl, hall⟩ := ih (hleft.binary (isOperator_iff.1 hsymbol) hwrites) hmore
        exact ⟨t :: (used ++ used'), by simp, by simpa using hall⟩
      · cases hread
        exact ⟨[], rfl, by rwa [List.append_nil]⟩

theorem sound_chain (h : Sound isFunction levels operand) :
    Sound isFunction (symbols :: levels) (chain symbols operand) := by
  intro ts f rest hread
  rw [chain_eq] at hread
  obtain ⟨⟨left, middle⟩, hleft, hmore⟩ := bind_eq_ok.1 hread
  obtain ⟨used, rfl, hwrites⟩ := h hleft
  obtain ⟨used', rfl, hall⟩ := sound_chainFrom h _ hwrites.operand hmore
  exact ⟨used ++ used', by simp, hall⟩

/-! ## Names -/

/-- A name token is read as an address exactly if it names a cell. -/
theorem address_eq_ok_iff {a : Address} (hkind : t.kind = .name) :
    address t = .ok a ↔ NamesCell t a := by
  constructor
  · intro h
    unfold address at h
    split at h
    · cases h
    · split at h <;> cases h
    · next b hdecode =>
      split at h
      · next hbounds =>
        cases h
        exact ⟨hkind, (Address.label_of_decode hdecode).1.symm, hbounds⟩
      · cases h
  · intro h
    have hdecode : Address.decode t.text = .ok (some a) := by
      rw [Address.decode_congr (h.upper.trans (Address.upper_label a).symm),
        h.inBounds.decode_label]
    rw [address, hdecode]
    exact if_pos h.inBounds

theorem startsWith_eq_true {symbol : Text} (h : startsWith symbol ts = true) :
    ∃ t rest, ts = t :: rest ∧ IsOperator [symbol] t := by
  cases ts with
  | nil => cases h
  | cons t rest => exact ⟨t, rest, rfl, isOperator_iff.1 h⟩

theorem sound_reference (hkind : t.kind = .name) (h : reference t ts = .ok (f, rest)) :
    ∃ used, t :: ts = used ++ rest ∧ Writes isFunction [] used f := by
  unfold reference at h
  split at h
  · cases h
  · next a haddress =>
    have ha := (address_eq_ok_iff hkind).1 haddress
    split at h
    · next hcolon =>
      obtain ⟨colon, more, rfl, hoperator⟩ := startsWith_eq_true hcolon
      split at h
      · cases h
      · next u after htail =>
        cases htail
        split at h
        · next hname =>
          split at h
          · cases h
          · next b hstop =>
            cases h
            exact ⟨[t, colon, u], rfl, .range ha hoperator ((address_eq_ok_iff hname).1 hstop)⟩
        · cases h
    · cases h
      exact ⟨[t], rfl, .ref ha⟩

/-! ## Calls -/

theorem expect_eq_ok {wanted : Text} (h : expect wanted ts = .ok rest) :
    ∃ t, ts = t :: rest ∧ t.text = wanted := by
  cases ts with
  | nil => cases h
  | cons t ts =>
    rw [expect] at h
    split at h
    · next htext =>
      cases h
      exact ⟨t, rfl, htext⟩
    · cases h

theorem sound_argumentsFrom (h : Sound isFunction precedence operand) (fuel : Nat) :
    ∀ {ts rest : List Token} {args : List Formula},
      argumentsFrom operand fuel ts = .ok (args, rest) → ∃ more : List Argument,
        ts = Argument.written more ++ rest ∧ args = more.map Argument.formula ∧
          (∀ arg ∈ more, IsOperator [","] arg.comma) ∧
            ∀ arg ∈ more, Writes isFunction precedence arg.tokens arg.formula := by
  induction fuel with
  | zero =>
    rintro ts rest args ⟨⟩
    exact ⟨[], rfl, rfl, by simp, by simp⟩
  | succ fuel ih =>
    intro ts rest args hread
    cases ts with
    | nil =>
      cases hread
      exact ⟨[], rfl, rfl, by simp, by simp⟩
    | cons t ts =>
      rw [argumentsFrom_cons] at hread
      split at hread
      · next hcomma =>
        obtain ⟨⟨arg, middle⟩, harg, hread⟩ := bind_eq_ok.1 hread
        obtain ⟨⟨args', rest'⟩, hmore, hread⟩ := bind_eq_ok.1 hread
        cases hread
        obtain ⟨used, rfl, hwrites⟩ := h harg
        obtain ⟨more, rfl, rfl, hcommas, hall⟩ := ih hmore
        refine ⟨⟨t, used, arg⟩ :: more, by simp [Argument.written], rfl, ?_, ?_⟩
        · exact List.forall_mem_cons.2 ⟨isOperator_iff.1 hcomma, hcommas⟩
        · exact List.forall_mem_cons.2 ⟨hwrites, hall⟩
      · cases hread
        exact ⟨[], rfl, rfl, by simp, by simp⟩

theorem sound_callOf (h : Sound isFunction precedence operand) (hkind : t.kind = .name)
    (hopen : startsWith "(" ts = true) (hread : callOf isFunction operand t ts = .ok (f, rest)) :
    ∃ used, t :: ts = used ++ rest ∧ Writes isFunction [] used f := by
  obtain ⟨left, inner, rfl, hleft⟩ := startsWith_eq_true hopen
  unfold callOf at hread
  dsimp only at hread
  split at hread
  · next hname =>
    obtain ⟨inner', hexpect, hread⟩ := bind_eq_ok.1 hread
    obtain ⟨_, ⟨⟩, -⟩ := expect_eq_ok hexpect
    obtain ⟨⟨args, after⟩, hargs, hread⟩ := bind_eq_ok.1 hread
    obtain ⟨rest', hclose, hread⟩ := bind_eq_ok.1 hread
    cases hread
    obtain ⟨right, rfl, hright⟩ := expect_eq_ok hclose
    rw [arguments_eq] at hargs
    split at hargs
    · next hempty =>
      cases hargs
      obtain ⟨_, _, ⟨⟩, hoperator⟩ := startsWith_eq_true hempty
      exact ⟨[t, left, right], rfl, .emptyCall hkind hname hleft hoperator⟩
    · obtain ⟨⟨first, middle⟩, hfirst, hargs⟩ := bind_eq_ok.1 hargs
      obtain ⟨⟨args', after'⟩, hmore, hargs⟩ := bind_eq_ok.1 hargs
      cases hargs
      obtain ⟨used, rfl, hwrites⟩ := h hfirst
      obtain ⟨more, rfl, rfl, hcommas, hall⟩ := sound_argumentsFrom h _ hmore
      exact ⟨t :: left :: (used ++ Argument.written more ++ [right]), by simp,
        .call hkind hname hleft hwrites hcommas hall hright⟩
  · cases hread

/-! ## Expressions -/

theorem sound_named (h : Sound isFunction precedence operand) (hkind : t.kind = .name)
    (hread : named isFunction operand t ts = .ok (f, rest)) :
    ∃ used, t :: ts = used ++ rest ∧ Writes isFunction [] used f := by
  unfold named at hread
  split at hread
  · next hopen => exact sound_callOf h hkind hopen hread
  · split at hread
    · exact sound_reference hkind hread
    · split at hread
      · next htrue =>
        cases hread
        exact ⟨[t], rfl, .truth hkind htrue⟩
      · next htrue =>
        split at hread
        · next hfalse =>
          cases hread
          exact ⟨[t], rfl, .falsehood hkind hfalse⟩
        · next hfalse =>
          split at hread
          · next hword =>
            cases hread
            simp only [Bool.and_eq_true, Bool.not_eq_true', List.isEmpty_eq_false_iff,
              List.all_eq_true] at hword
            exact ⟨[t], rfl, .word hkind hword.1 hword.2 htrue hfalse⟩
          · cases hread

theorem sound_primary (h : Sound isFunction precedence operand) :
    Sound isFunction [] (primary isFunction operand) := by
  intro ts f rest hread
  cases ts with
  | nil => cases hread
  | cons t ts =>
    rw [primary] at hread
    split at hread
    · next hkind =>
      unfold literal at hread
      split at hread
      · cases hread
      · next n hn =>
        split at hread
        · next hfinite =>
          cases hread
          exact ⟨[t], rfl, .number hkind hn hfinite⟩
        · cases hread
    · next hkind =>
      cases hread
      exact ⟨[t], rfl, .string hkind⟩
    · next hkind => exact sound_named h hkind hread
    · next hkind =>
      split at hread
      · next hopen =>
        obtain ⟨⟨inner, after⟩, hinner, hread⟩ := bind_eq_ok.1 hread
        obtain ⟨rest', hclose, hread⟩ := bind_eq_ok.1 hread
        cases hread
        obtain ⟨used, rfl, hwrites⟩ := h hinner
        obtain ⟨right, rfl, hright⟩ := expect_eq_ok hclose
        exact ⟨t :: (used ++ [right]), by simp,
          .group ⟨hkind, by simp [hopen]⟩ hwrites hright⟩
      · cases hread

/-- Both levels of the recursion at once, as in the reader itself. -/
theorem sound_expression (depth : Nat) :
    Sound isFunction precedence (expression isFunction depth) ∧
      Sound isFunction [] (signed isFunction depth) := by
  induction depth with
  | zero =>
    constructor <;>
    · intro ts f rest hread
      cases hread
  | succ depth ih =>
    obtain ⟨hexpression, hsigned⟩ := ih
    constructor
    · exact sound_chain (sound_chain (sound_chain hsigned))
    · intro ts f rest hread
      cases ts with
      | nil => cases hread
      | cons t ts =>
        rw [signed_cons] at hread
        split at hread
        · next hsign =>
          obtain ⟨⟨inner, after⟩, hinner, hread⟩ := bind_eq_ok.1 hread
          cases hread
          obtain ⟨used, rfl, hwrites⟩ := hsigned hinner
          exact ⟨t :: used, rfl, .sign (isOperator_iff.1 hsign) hwrites⟩
        · exact sound_primary hexpression hread

theorem writes_of_ofTokensWithin {depth : Nat}
    (h : ofTokensWithin depth isFunction ts = .ok f) : Writes isFunction precedence ts f := by
  cases ts with
  | nil => cases h
  | cons t ts =>
    rw [ofTokensWithin_cons] at h
    obtain ⟨⟨f', rest⟩, hread, h⟩ := bind_eq_ok.1 h
    cases rest with
    | nil =>
      cases h
      obtain ⟨used, hused, hwrites⟩ := (sound_expression depth).1 hread
      rwa [hused, List.append_nil]
    | cons u rest => cases h

theorem legal_of_ofTokensWithin {depth : Nat} (h : ofTokensWithin depth isFunction ts = .ok f) :
    f.Legal isFunction :=
  (writes_of_ofTokensWithin h).legal fun _ hs => hs

theorem legal_of_parse {limit : NestingLimit} {t : Text} (h : parse limit isFunction t = .ok f) :
    f.Legal isFunction := by
  unfold parse at h
  split at h
  · cases h
  · exact legal_of_ofTokensWithin h

end Formula

end Spreadsheet
