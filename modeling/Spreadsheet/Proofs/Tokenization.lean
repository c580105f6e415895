import Spreadsheet.Proofs.Formula.Isolation
import Spreadsheet.Proofs.Formula.Positions

/-!
# Cutting a text loses nothing

The loop that cuts a text takes one lexeme after the other. Up to where it has come, every
character belongs to one token or is white space (`Lossless.turn`), and each turn uses up at least
one character (`Cutting.le_pos`), so the loop ends on every text, with the tokens or at a character
that begins no lexeme (`exists_cutting`). Its tokens stand alone, so a text that has them in the
same order with white space between them is cut into the same tokens (`Spaced.scan`) and read as the
same formula.
-/

namespace Spreadsheet

open Text

namespace Token

/-! ## The loop -/

/-- Where a token ends. -/
def stop (k : Token) : Nat :=
  k.pos + k.text.length

/-- The loop over a text under way: after `n` turns the next lexeme begins at `pos`, and `ts` are
the tokens so far. -/
inductive Cutting (t : Text) : (n pos : Nat) → (ts : List Token) → Prop where
  | start : Cutting t 0 0 []
  | turn {n pos : Nat} {ts : List Token} {kind : Option TokenKind} {chars rest : Text}
      (h : Cutting t n pos ts) (hlexeme : lexeme? (t.drop pos) = some (kind, chars, rest)) :
      Cutting t (n + 1) (pos + chars.length)
        (ts ++ kind.elim [] fun kind => [⟨kind, chars, pos⟩])

/-- Tokens that make up the front of a text as far as `pos`, with white space around them. -/
structure Lossless (t : Text) (pos : Nat) (ts : List Token) : Prop where
  nonempty : ∀ k ∈ ts, k.text ≠ []
  slice : ∀ k ∈ ts, (t.drop k.pos).take k.text.length = k.text
  stop_le : ∀ k ∈ ts, k.stop ≤ pos
  ascending : ts.Pairwise fun k l => k.stop ≤ l.pos
  outside : ∀ i < pos, (∀ k ∈ ts, i < k.pos ∨ k.stop ≤ i) → ∀ c ∈ t[i]?, isBlank c = true

variable {t chars rest : Text} {n pos : Nat} {ts us : List Token} {kind : Option TokenKind}

theorem pos_add_le_of_lexeme? (h : lexeme? (t.drop pos) = some (kind, chars, rest)) :
    0 < chars.length ∧ pos + chars.length ≤ t.length := by
  obtain ⟨happend, hne⟩ := lexeme?_append h
  have hpos := List.length_pos_iff.2 hne
  have hlength := congrArg List.length happend
  rw [List.length_append, List.length_drop] at hlength
  omega

theorem Cutting.le_pos (h : Cutting t n pos ts) : n ≤ pos ∧ pos ≤ t.length := by
  induction h with
  | start => exact ⟨Nat.le_refl 0, Nat.zero_le _⟩
  | turn h hlexeme ih =>
    obtain ⟨hpos, hle⟩ := pos_add_le_of_lexeme? hlexeme
    omega

/-- The character at a place inside a lexeme. -/
theorem mem_chars_of_getElem? (h : chars ++ rest = t.drop pos) {i : Nat} (hpos : pos ≤ i)
    (hi : i < pos + chars.length) {c : CodePoint} (hc : c ∈ t[i]?) : c ∈ chars := by
  have hdrop : (t.drop pos)[i - pos]? = some c := by
    rw [List.getElem?_drop, Nat.add_sub_cancel' hpos]
    exact hc
  rw [← h, List.getElem?_append_left (by omega)] at hdrop
  exact List.mem_of_getElem? hdrop

theorem Lossless.start (t : Text) : Lossless t 0 [] :=
  ⟨by simp, by simp, by simp, .nil, by simp⟩

theorem Lossless.blank (h : Lossless t pos ts) (happend : chars ++ rest = t.drop pos)
    (hchars : ∀ c ∈ chars, isBlank c = true) : Lossless t (pos + chars.length) ts where
  nonempty := h.nonempty
  slice := h.slice
  stop_le k hk := Nat.le_add_right_of_le (h.stop_le k hk)
  ascending := h.ascending
  outside i hi hout c hc := by
    by_cases hpos : pos ≤ i
    · exact hchars c (mem_chars_of_getElem? happend hpos hi hc)
    · exact h.outside i (Nat.lt_of_not_le hpos) hout c hc

theorem Lossless.token (h : Lossless t pos ts) (happend : chars ++ rest = t.drop pos)
    (hne : chars ≠ []) (kind : TokenKind) :
    Lossless t (pos + chars.length) (ts ++ [⟨kind, chars, pos⟩]) where
  nonempty := by
    simpa [or_imp, forall_and] using ⟨h.nonempty, hne⟩
  slice := by
    simpa [or_imp, forall_and, ← happend] using h.slice
  stop_le := by
    have hle (k) (hk : k ∈ ts) : k.stop ≤ pos + chars.length :=
      Nat.le_add_right_of_le (h.stop_le k hk)
    simpa [or_imp, forall_and, stop] using hle
  ascending := by
    rw [List.pairwise_append]
    exact ⟨h.ascending, List.pairwise_singleton _ _, by simpa using h.stop_le⟩
  outside i hi hout c hc := by
    simp only [List.mem_append, List.mem_singleton, or_imp, forall_and, forall_eq] at hout
    obtain ⟨hout, hnew⟩ := hout
    have hlt : i < pos := by
      simp only [stop] at hnew
      omega
    exact h.outside i hlt hout c hc

/-- A turn of the loop loses nothing. -/
theorem Lossless.turn (h : Lossless t pos ts)
    (hlexeme : lexeme? (t.drop pos) = some (kind, chars, rest)) :
    Lossless t (pos + chars.length) (ts ++ kind.elim [] fun kind => [⟨kind, chars, pos⟩]) := by
  obtain ⟨happend, hne⟩ := lexeme?_append hlexeme
  cases kind with
  | some kind => exact h.token happend hne kind
  | none =>
    have hblank : ∀ c ∈ chars, isBlank c = true := by
      rcases lexeme?_eq_some hlexeme with ⟨-, hcut⟩ | ⟨hkind, -⟩ | ⟨hkind, -⟩ | ⟨hkind, -⟩ |
        ⟨hkind, -⟩
      · exact all_of_cut hcut
      all_goals cases hkind
    rw [Option.elim_none, List.append_nil]
    exact h.blank happend hblank

theorem Cutting.lossless (h : Cutting t n pos ts) : Lossless t pos ts := by
  induction h with
  | start => exact .start t
  | turn h hlexeme ih => exact ih.turn hlexeme

/-- The loop ends, and the tokens that it still finds are those of the rest of the text. -/
theorem exists_cutting {n pos : Nat} {ts : List Token} (h : Cutting t n pos ts) :
    ∃ m stop us, Cutting t m stop (ts ++ us) ∧
      (stop = t.length ∧ scan pos (t.drop pos) = .ok us ∨
        ∃ c, t[stop]? = some c ∧ lexeme? (t.drop stop) = none ∧
          scan pos (t.drop pos) =
            .error (.formula (.malformed (.unexpected [c] stop)))) := by
  -- The recursion is on what is left of the text, for every turn moves the position on.
  cases hcs : t.drop pos with
  | nil =>
    have hle := List.drop_eq_nil_iff.1 hcs
    refine ⟨n, pos, [], ?_, .inl ⟨Nat.le_antisymm h.le_pos.2 hle, scan_nil pos⟩⟩
    rwa [List.append_nil]
  | cons c cs =>
    cases hlexeme : lexeme? (t.drop pos) with
    | none =>
      refine ⟨n, pos, [], ?_, .inr ⟨c, ?_, hlexeme, scan_eq_error (hcs ▸ hlexeme)⟩⟩
      · rwa [List.append_nil]
      · rw [← List.head?_drop, hcs, List.head?_cons]
    | some lexeme =>
      obtain ⟨kind, chars, rest⟩ := lexeme
      have hbounds := pos_add_le_of_lexeme? hlexeme
      have hdrop : t.drop (pos + chars.length) = rest := by
        rw [← List.drop_drop, ← (lexeme?_append hlexeme).1, List.drop_left]
      obtain ⟨m, stop, us, hcutting, hend⟩ := exists_cutting (h.turn hlexeme)
      rw [List.append_assoc] at hcutting
      rw [hdrop] at hend
      refine ⟨m, stop, _, hcutting, ?_⟩
      rw [scan_cons (hcs ▸ hlexeme)]
      rcases hend with ⟨hstop, hscan⟩ | ⟨d, hd, hnone, hscan⟩
      · rw [hscan]
        cases kind <;> exact .inl ⟨hstop, rfl⟩
      · rw [hscan]
        exact .inr ⟨d, hd, hnone, rfl⟩
termination_by t.length - pos
decreasing_by omega

/-! ## Spacing -/

/-- A text of the given tokens, one after the other, with white space between any two of them and
perhaps before them. -/
inductive Spaced : (ts : List Token) → (t : Text) → Prop where
  | nil : Spaced [] []
  | cons {k : Token} {ts : List Token} {gap rest : Text} (hgap : ∀ c ∈ gap, isBlank c = true)
      (h : Spaced ts rest) (hrest : ∀ c ∈ rest.head?, isBlank c = true) :
      Spaced (k :: ts) (gap ++ (k.text ++ rest))

theorem Spaced.indent {k : Token} {gap : Text} (h : Spaced (k :: ts) t)
    (hgap : ∀ c ∈ gap, isBlank c = true) : Spaced (k :: ts) (gap ++ t) := by
  cases h with
  | @cons _ _ gap' rest hgap' h hrest =>
    rw [← List.append_assoc]
    refine .cons (fun c hc => ?_) h hrest
    rcases List.mem_append.1 hc with hc | hc
    · exact hgap c hc
    · exact hgap' c hc

theorem spaced_intercalate {gap : Text} (hne : gap ≠ []) (hgap : ∀ c ∈ gap, isBlank c = true)
    (ts : List Token) : Spaced ts (gap.intercalate (ts.map Token.text)) := by
  induction ts with
  | nil => exact .nil
  | cons k ts ih =>
    cases ts with
    | nil =>
      have h : Spaced [k] ([] ++ (k.text ++ [])) := .cons (by simp) .nil (by simp)
      simpa using h
    | cons l ts =>
      have hhead (rest : Text) : ∀ c ∈ (gap ++ rest).head?, isBlank c = true := fun c hc =>
        hgap c (List.mem_of_head? (List.head?_append_of_ne_nil gap hne ▸ hc))
      have h : Spaced (k :: l :: ts)
          ([] ++ (k.text ++ (gap ++ gap.intercalate ((l :: ts).map Token.text)))) :=
        .cons (by simp) (ih.indent hgap) (hhead _)
      simpa [List.intercalate_cons_cons] using h

theorem Spaced.scan (h : Spaced ts t) (hts : ∀ k ∈ ts, StandsAlone k.kind k.text) :
    ∀ pos, ∃ us, scan pos t = .ok us ∧ ts.Forall₂ Alike us := by
  induction h with
  | nil => exact fun pos => ⟨[], scan_nil pos, .nil⟩
  | @cons k ts gap rest hgap h hrest ih =>
    obtain ⟨hk, hts⟩ := List.forall_mem_cons.1 hts
    intro pos
    obtain ⟨c, cs, htext⟩ := List.exists_cons_of_ne_nil hk.ne_nil
    have hlexeme := hk.lexeme? rest hrest
    obtain ⟨us, hscan, halike⟩ := ih hts (pos + gap.length + k.text.length)
    rw [htext] at hk hlexeme
    refine ⟨⟨k.kind, k.text, pos + gap.length⟩ :: us, ?_, .cons ⟨rfl, rfl⟩ halike⟩
    rw [scan_blank hgap (by simpa [htext] using hk.not_isBlank_head), htext]
    refine (scan_cons hlexeme).trans ?_
    rw [← htext, hscan]
    rfl

theorem map_eq_of_alike (h : ts.Forall₂ Alike us) :
    ts.map (fun k => (k.kind, k.text)) = us.map fun k => (k.kind, k.text) := by
  induction h with
  | nil => rfl
  | cons hk _ ih => rw [List.map_cons, List.map_cons, hk.kind, hk.text, ih]

theorem Spaced.not_isBlank_last (h : Spaced ts t) (hts : ∀ k ∈ ts, StandsAlone k.kind k.text) :
    ∀ c ∈ t.getLast?, isBlank c = false := by
  induction h with
  | nil => simp
  | @cons k ts gap rest hgap h hrest ih =>
    obtain ⟨hk, hts⟩ := List.forall_mem_cons.1 hts
    intro c hc
    rw [List.getLast?_append_of_ne_nil _ (by simp [hk.ne_nil])] at hc
    cases rest with
    | nil =>
      rw [List.append_nil] at hc
      exact hk.not_isBlank_last c hc
    | cons d rest =>
      rw [List.getLast?_append_of_ne_nil _ (List.cons_ne_nil d rest)] at hc
      exact ih hts c hc

end Token

/-! ## Formulas -/

namespace Formula

variable {limit : NestingLimit} {isFunction : Text → Bool} {t u : Text}

theorem dropMark_trim_mark (h : ∀ c ∈ t.getLast?, isBlank c = false) :
    dropMark (trim (.char '=' :: t)) = t := by
  have htrim : trim (.char '=' :: t) = .char '=' :: t := by
    refine trim_eq_self_of_ends (by simp only [List.head?_cons]; decide) fun c hc => ?_
    cases t with
    | nil =>
      obtain rfl : .char '=' = c := Option.some.inj hc
      decide
    | cons d t => exact h c (by rwa [List.getLast?_cons_cons] at hc)
  rw [htrim]
  rfl

/-- Texts that are cut into the same tokens are read alike. -/
theorem alike_parse {ts us : List Token} (ht : tokenize (dropMark t.trim) = .ok ts)
    (hu : tokenize (dropMark u.trim) = .ok us) (h : ts.Forall₂ Token.Alike us) :
    ReadAlike Eq (parse limit isFunction t) (parse limit isFunction u) := by
  rw [parse, parse, ht, hu]
  exact alike_ofTokens h

end Formula

/-- The loop that cuts a text ends, after no more turns than there are characters, with the tokens
or at a character that begins no lexeme. The tokens are slices of the text, one after the other,
and around them there is only white space. Put together again with single spaces they are cut into
the same tokens, and with any white space between them they are read as the same formula, or fail
with the same fault but for the position that it tells. -/
theorem tokenize_spec (t : Text) :
    (∀ n pos ts, Token.Cutting t n pos ts → n ≤ t.length) ∧
      (∃ n pos ts, Token.Cutting t n pos ts ∧
        (pos = t.length ∧ tokenize t = .ok ts ∨
          ∃ c, t[pos]? = some c ∧ Token.lexeme? (t.drop pos) = none ∧
            tokenize t = .error (.formula (.malformed (.unexpected [c] pos))))) ∧
      ∀ ts, tokenize t = .ok ts →
        Token.Lossless t t.length ts ∧
          (∃ us, tokenize ((" " : Text).intercalate (ts.map Token.text)) = .ok us ∧
            us.map (fun k => (k.kind, k.text)) = ts.map fun k => (k.kind, k.text)) ∧
          ∀ u, Token.Spaced ts u →
            (∃ us, tokenize u = .ok us ∧ ts.Forall₂ Token.Alike us) ∧
              ∀ limit isFunction text, Formula.dropMark text.trim = t →
                (Formula.parse limit isFunction (.char '=' :: u)).mapError Fault.unplaced =
                  (Formula.parse limit isFunction text).mapError Fault.unplaced := by
  obtain ⟨n, pos, ts, hcutting, hend⟩ := Token.exists_cutting (Token.Cutting.start (t := t))
  rw [List.drop_zero] at hend
  refine ⟨fun n pos ts h => Nat.le_trans h.le_pos.1 h.le_pos.2, ⟨n, pos, ts, hcutting, hend⟩,
    fun ts' h => ?_⟩
  obtain ⟨rfl, hlossless⟩ : ts = ts' ∧ Token.Lossless t t.length ts := by
    rcases hend with ⟨rfl, htokens⟩ | ⟨c, -, -, herror⟩
    · exact ⟨Except.ok.inj (htokens.symm.trans h), hcutting.lossless⟩
    · cases herror.symm.trans h
  have halone := Token.standsAlone_of_scan h
  have hspaced : Token.Spaced ts ((" " : Text).intercalate (ts.map Token.text)) :=
    Token.spaced_intercalate (by decide) (by decide) ts
  refine ⟨hlossless, ?_, fun u hu => ?_⟩
  · obtain ⟨us, hscan, halike⟩ := hspaced.scan halone 0
    exact ⟨us, hscan, (Token.map_eq_of_alike halike).symm⟩
  · obtain ⟨us, hscan, halike⟩ := hu.scan halone 0
    refine ⟨⟨us, hscan, halike⟩, fun limit isFunction text htext => ?_⟩
    have hmark := Formula.dropMark_trim_mark (hu.not_isBlank_last halone)
    refine (Formula.alike_parse ?_ ?_ halike).mapError_eq.symm
    · rw [htext, h]
    · rw [hmark]
      exact hscan

/-- The tokens of `"a""b"<>'c'=1.e2*sum(A1:B2)`. -/
def comparisonTokens : List Token :=
  [⟨.string, "\"a\"\"b\"", 0⟩, ⟨.operator, "<>", 6⟩, ⟨.string, "'c'", 8⟩, ⟨.operator, "=", 11⟩,
    ⟨.number, "1.e2", 12⟩, ⟨.operator, "*", 16⟩, ⟨.name, "sum", 17⟩, ⟨.operator, "(", 20⟩,
    ⟨.name, "A1", 21⟩, ⟨.operator, ":", 23⟩, ⟨.name, "B2", 24⟩, ⟨.operator, ")", 26⟩]

/-- A doubled quote, an operator of two characters and a numeral with a point and an exponent. -/
theorem tokenize_spec_comparison :
    tokenize "\"a\"\"b\"<>'c'=1.e2*sum(A1:B2)" = .ok comparisonTokens ∧
      (∃ n ≤ 27, Token.Cutting "\"a\"\"b\"<>'c'=1.e2*sum(A1:B2)" n 27 comparisonTokens) ∧
      Token.Lossless "\"a\"\"b\"<>'c'=1.e2*sum(A1:B2)" 27 comparisonTokens ∧
      (∃ us, tokenize "\"a\"\"b\" <> 'c' = 1.e2 * sum ( A1 : B2 )" = .ok us ∧
        us.map (fun k => (k.kind, k.text)) = comparisonTokens.map fun k => (k.kind, k.text)) ∧
      (Formula.parse .usual (· = "SUM") "=\"a\"\"b\" <> 'c' = 1.e2 * sum ( A1 : B2 )").mapError
          Fault.unplaced =
        (Formula.parse .usual (· = "SUM") "=\"a\"\"b\"<>'c'=1.e2*sum(A1:B2) ").mapError
          Fault.unplaced := by
  have htokens : tokenize "\"a\"\"b\"<>'c'=1.e2*sum(A1:B2)" = .ok comparisonTokens := by
    decide +kernel
  have hjoined : (" " : Text).intercalate (comparisonTokens.map Token.text) =
      "\"a\"\"b\" <> 'c' = 1.e2 * sum ( A1 : B2 )" := by
    decide +kernel
  have hspaced : Token.Spaced comparisonTokens
      ((" " : Text).intercalate (comparisonTokens.map Token.text)) :=
    Token.spaced_intercalate (by decide) (by decide) comparisonTokens
  obtain ⟨hcutting, ⟨n, pos, ts, hrun, hend⟩, hcut⟩ :=
    tokenize_spec "\"a\"\"b\"<>'c'=1.e2*sum(A1:B2)"
  obtain ⟨hlossless, hagain, hread⟩ := hcut _ htokens
  rw [hjoined] at hspaced hagain
  refine ⟨htokens, ?_, hlossless, hagain, (hread _ hspaced).2 _ _ _ (by decide +kernel)⟩
  rcases hend with ⟨rfl, hok⟩ | ⟨c, -, -, herror⟩
  · obtain rfl := Except.ok.inj (hok.symm.trans htokens)
    exact ⟨n, hcutting _ _ _ hrun, hrun⟩
  · cases herror.symm.trans htokens

end Spreadsheet
