import Mathlib.Order.Filter.AtTopBot.Basic
import Spreadsheet.Proofs.Formula.Soundness
import Spreadsheet.Proofs.Formula.Token

/-!
# What the tokens write is read

Tokens that write a formula are read as that formula when nothing follows that would go on with it
(`Stops`), provided that the reader may nest deeply enough. On a level of binary operators this
takes a stronger statement, for the left operand of a chain is followed by an operator of its own
level: after the tokens of a formula the reader stands in the middle of a chain with the formula to
its left (`Reads`). The induction over the rules of the grammar is `Writes.eventually_reads`.
-/

namespace Spreadsheet

open Filter
open Text

namespace Formula

variable {isFunction : Text → Bool} {levels : List (List Text)} {symbols : List Text}
  {reader : Reader} {t : Token} {ts us rest : List Token} {f left : Formula} {depth : Nat}

/-! ## Where a formula ends -/

/-- The operators that belong to the name before them. -/
def openers : List Text :=
  ["(", ":"]

/-- The next token, if there is one, does not go on with a formula of the given levels. -/
def Stops (levels : List (List Text)) (rest : List Token) : Prop :=
  ∀ t ∈ rest.head?, ∀ symbols ∈ levels ++ [openers], ¬ IsOperator symbols t

theorem stops_nil : Stops levels [] := by
  simp [Stops]

theorem stops_of_text {text : Text} (htext : ∀ symbols ∈ levels ++ [openers], text ∉ symbols)
    (ht : t.text = text) : Stops levels (t :: rest) := by
  rintro _ ⟨⟩ symbols hsymbols ⟨-, hmem⟩
  exact htext symbols hsymbols (ht ▸ hmem)

theorem Stops.tail (h : Stops (symbols :: levels) rest) : Stops levels rest :=
  fun t ht s hs => h t ht s (List.mem_cons_of_mem _ hs)

theorem Stops.isOperator_eq_false (h : Stops levels (t :: rest)) (hsymbols : symbols ∈ levels) :
    isOperator symbols t = false := by
  rw [← Bool.not_eq_true, isOperator_iff]
  exact h t rfl symbols (List.mem_append_left _ hsymbols)

theorem Stops.startsWith_eq_false (h : Stops levels rest) {symbol : Text}
    (hsymbol : symbol ∈ openers) : startsWith symbol rest = false := by
  rw [← Bool.not_eq_true]
  intro hstarts
  obtain ⟨t, rest, rfl, hkind, htext⟩ := startsWith_eq_true hstarts
  rw [List.mem_singleton] at htext
  exact h t rfl openers (by simp) ⟨hkind, htext ▸ hsymbol⟩

theorem startsWith_cons_eq_false {symbol : Text} (h : t.text ≠ symbol) :
    startsWith symbol (t :: ts) = false := by
  rw [← Bool.not_eq_true]
  exact fun hstarts => h (List.mem_singleton.1 (isOperator_iff.1 hstarts).2)

/-- No formula begins with a closing parenthesis. -/
theorem Writes.exists_cons (h : Writes isFunction levels ts f) :
    ∃ t us, ts = t :: us ∧ ¬ IsOperator [")"] t := by
  have hname {t : Token} {us : List Token} (hkind : t.kind ≠ .operator) :
      ∃ t' us', t :: us = t' :: us' ∧ ¬ IsOperator [")"] t' :=
    ⟨t, us, rfl, fun hoperator => hkind hoperator.1⟩
  have hother {symbols : List Text} (hsymbols : (")" : Text) ∉ symbols) {t : Token}
      {us : List Token} (ht : IsOperator symbols t) :
      ∃ t' us', t :: us = t' :: us' ∧ ¬ IsOperator [")"] t' := by
    refine ⟨t, us, rfl, fun hoperator => hsymbols ?_⟩
    rw [← List.mem_singleton.1 hoperator.2]
    exact ht.2
  induction h with
  | operand _ ih => exact ih
  | binary _ _ _ ihl =>
    obtain ⟨t, us, rfl, ht⟩ := ihl
    exact ⟨t, _, rfl, ht⟩
  | sign ht => exact hother (by decide) ht
  | group hleft => exact hother (by decide) hleft
  | number hkind | string hkind | emptyCall hkind | call hkind | truth hkind | falsehood hkind
  | word hkind => exact hname (by rw [hkind]; decide)
  | ref ha | range ha => exact hname (by rw [ha.kind]; decide)

/-! ## Chains -/

/-- The reader of a level, from the tightest one on. -/
def levelReader (isFunction : Text → Bool) (depth : Nat) : List (List Text) → Reader
  | [] => signed isFunction depth
  | symbols :: levels => chain symbols (levelReader isFunction depth levels)

/-- After the tokens of a formula, a reader of the tightest level gives the formula, and one of a
level of binary operators goes on with it as its left operand. -/
def Reads (isFunction : Text → Bool) (depth : Nat) :
    List (List Text) → List Token → Formula → Prop
  | [], ts, f => ∀ rest, Stops [] rest → signed isFunction depth (ts ++ rest) = .ok (f, rest)
  | symbols :: levels, ts, f => ∀ rest, Stops levels rest → ∃ fuel, rest.length ≤ fuel ∧
    chain symbols (levelReader isFunction depth levels) (ts ++ rest) =
      chainFrom symbols (levelReader isFunction depth levels) fuel f rest

theorem chainFrom_of_stops (h : Stops (symbols :: levels) rest) (fuel : Nat) :
    chainFrom symbols reader fuel left rest = .ok (left, rest) := by
  cases fuel with
  | zero => rfl
  | succ fuel =>
    cases rest with
    | nil => rfl
    | cons t rest =>
      rw [chainFrom, h.isOperator_eq_false List.mem_cons_self]
      rfl

theorem Reads.levelReader_eq (h : Reads isFunction depth levels ts f) (hrest : Stops levels rest) :
    levelReader isFunction depth levels (ts ++ rest) = .ok (f, rest) := by
  cases levels with
  | nil => exact h rest hrest
  | cons symbols levels =>
    obtain ⟨fuel, -, heq⟩ := h rest hrest.tail
    exact heq.trans (chainFrom_of_stops hrest fuel)

theorem Reads.operand (h : Reads isFunction depth levels ts f) :
    Reads isFunction depth (symbols :: levels) ts f := by
  intro rest hrest
  refine ⟨rest.length, le_rfl, ?_⟩
  rw [chain, h.levelReader_eq hrest]

theorem Reads.binary {l r : Formula} (hl : Reads isFunction depth (symbols :: levels) ts l)
    (ht : IsOperator symbols t) (htext : ∀ s ∈ levels ++ [openers], t.text ∉ s)
    (hr : Reads isFunction depth levels us r) :
    Reads isFunction depth (symbols :: levels) (ts ++ t :: us) (.binary t.text l r) := by
  intro rest hrest
  obtain ⟨fuel, hfuel, heq⟩ := hl (t :: (us ++ rest)) (stops_of_text htext rfl)
  cases fuel with
  | zero => simp at hfuel
  | succ fuel =>
    refine ⟨fuel, ?_, ?_⟩
    · simp only [List.length_cons, List.length_append] at hfuel
      omega
    · rw [List.append_assoc, List.cons_append, heq, chainFrom, isOperator_iff.2 ht,
        hr.levelReader_eq hrest]
      rfl

/-! ## Names -/

theorem NamesCell.hasReferenceShape {a : Address} (h : NamesCell t a) :
    Address.hasReferenceShape t.text = true := by
  rw [Address.hasReferenceShape_congr (h.upper.trans (Address.upper_label a).symm),
    Address.hasReferenceShape, Address.splitName_label]
  obtain ⟨c, cs, hdigits, -⟩ := exists_toDigits_eq_cons (a.row + 1).toNat
  simp only [Bool.and_eq_true, Bool.not_eq_true', List.isEmpty_eq_false_iff, List.all_eq_true]
  refine ⟨⟨Column.letters_ne_nil _, ?_⟩, fun d hd => Address.isRowDigit_of_mem_toDigits hd⟩
  rw [hdigits]
  exact List.cons_ne_nil _ _

theorem not_isRowDigit_of_isNameStart {c : CodePoint} (h : Token.isNameStart c = true) :
    ∀ d ∈ upperPoint c, Address.isRowDigit d = false :=
  Token.forall_isNamePart (P := fun c => Token.isNameStart c = true →
      ∀ d ∈ upperPoint c, Address.isRowDigit d = false)
    (by decide) (Token.isNamePart_of_isNameStart h) h

/-- A word of letters and underscores does not have the shape of a reference. -/
theorem hasReferenceShape_word {word : Text} (h : ∀ c ∈ word, Token.isNameStart c = true) :
    Address.hasReferenceShape word = false := by
  rw [← Bool.not_eq_true]
  intro hshape
  unfold Address.hasReferenceShape at hshape
  split at hshape
  next letters digits hsplit =>
  simp only [Bool.and_eq_true, Bool.not_eq_true', List.isEmpty_eq_false_iff,
    List.all_eq_true] at hshape
  obtain ⟨⟨-, hne⟩, hdigits⟩ := hshape
  obtain ⟨d, ds, rfl⟩ := List.exists_cons_of_ne_nil hne
  have hmem : d ∈ upper word := by
    rw [← append_of_cut hsplit]
    simp
  obtain ⟨c, hc, hd⟩ := List.mem_flatMap.1 hmem
  have hdigit := hdigits d List.mem_cons_self
  rw [not_isRowDigit_of_isNameStart (h c hc) d hd] at hdigit
  cases hdigit

/-! ## Calls -/

/-- The tokens of an expression are read as the expression. -/
def ReadsExpression (reader : Reader) (ts : List Token) (f : Formula) : Prop :=
  ∀ rest, Stops precedence rest → reader (ts ++ rest) = .ok (f, rest)

theorem stops_of_comma (ht : IsOperator [","] t) : Stops precedence (t :: rest) :=
  stops_of_text (by decide) (List.mem_singleton.1 ht.2)

theorem stops_of_closing (ht : t.text = ")") : Stops precedence (t :: rest) :=
  stops_of_text (by decide) ht

theorem stops_written {more : List Argument} (hcommas : ∀ arg ∈ more, IsOperator [","] arg.comma)
    (ht : t.text = ")") : Stops precedence (Argument.written more ++ t :: rest) := by
  cases more with
  | nil => exact stops_of_closing ht
  | cons arg more => exact stops_of_comma (hcommas arg List.mem_cons_self)

theorem argumentsFrom_written (ht : t.text = ")") : ∀ {more : List Argument} {fuel : Nat},
    (∀ arg ∈ more, IsOperator [","] arg.comma) →
      (∀ arg ∈ more, ReadsExpression reader arg.tokens arg.formula) →
        (Argument.written more ++ t :: rest).length ≤ fuel →
          argumentsFrom reader fuel (Argument.written more ++ t :: rest) =
            .ok (more.map Argument.formula, t :: rest)
  | [], 0, _, _, _ => rfl
  | [], fuel + 1, _, _, _ => by
    have hcomma : isOperator [","] t = false := by
      rw [← Bool.not_eq_true, isOperator_iff]
      rintro ⟨-, hmem⟩
      rw [ht] at hmem
      exact absurd hmem (by decide)
    show argumentsFrom reader (fuel + 1) (t :: rest) = _
    rw [argumentsFrom, hcomma]
    rfl
  | arg :: more, 0, _, _, hfuel => by simp [Argument.written] at hfuel
  | arg :: more, fuel + 1, hcommas, hall, hfuel => by
    rw [List.forall_mem_cons] at hcommas hall
    have hsplit : Argument.written (arg :: more) ++ t :: rest =
        arg.comma :: (arg.tokens ++ (Argument.written more ++ t :: rest)) := by
      simp [Argument.written]
    rw [hsplit, List.length_cons, List.length_append] at hfuel
    have hmore : argumentsFrom reader fuel (Argument.written more ++ t :: rest) =
        .ok (more.map Argument.formula, t :: rest) :=
      argumentsFrom_written ht hcommas.2 hall.2 (by omega)
    rw [hsplit, argumentsFrom, isOperator_iff.2 hcommas.1,
      hall.1 _ (stops_written hcommas.2 ht)]
    simp only [hmore]
    rfl

theorem arguments_written {first : List Token} {more : List Argument}
    (hfirst : ∃ t us, first = t :: us ∧ ¬ IsOperator [")"] t)
    (hf : ReadsExpression reader first f) (hcommas : ∀ arg ∈ more, IsOperator [","] arg.comma)
    (hall : ∀ arg ∈ more, ReadsExpression reader arg.tokens arg.formula) (ht : t.text = ")") :
    arguments reader (first ++ (Argument.written more ++ t :: rest)) =
      .ok (f :: more.map Argument.formula, t :: rest) := by
  have hstarts : startsWith ")" (first ++ (Argument.written more ++ t :: rest)) = false := by
    obtain ⟨t', us, rfl, ht'⟩ := hfirst
    rw [← Bool.not_eq_true]
    exact fun h => ht' (isOperator_iff.1 h)
  rw [arguments, hstarts, hf _ (stops_written hcommas ht)]
  simp only [argumentsFrom_written ht hcommas hall le_rfl]
  rfl

/-! ## Expressions -/

theorem eventually_of_succ {p : Nat → Prop} (h : ∀ᶠ depth in atTop, p (depth + 1)) :
    ∀ᶠ depth in atTop, p depth := by
  rw [← map_add_atTop_eq_nat 1]
  exact h

theorem eventually_readsExpression
    (h : ∀ᶠ depth in atTop, Reads isFunction depth precedence ts f) :
    ∀ᶠ depth in atTop, ReadsExpression (expression isFunction depth) ts f := by
  refine eventually_of_succ ?_
  filter_upwards [h] with depth hreads rest hrest
  exact hreads.levelReader_eq hrest

/-! ## Primaries -/

theorem named_of_not_reference (h : Stops [] rest)
    (hshape : Address.hasReferenceShape t.text = false) :
    named isFunction reader t rest =
      if upper t.text = "TRUE" then .ok (.number 1, rest)
      else if upper t.text = "FALSE" then .ok (.number 0, rest)
      else if !t.text.isEmpty && t.text.all Token.isNameStart then .ok (.text t.text, rest)
      else malformed (.badReference t.text t.pos) := by
  rw [named, h.startsWith_eq_false (by decide), hshape]
  rfl

theorem named_of_truth (htrue : upper t.text = "TRUE") (h : Stops [] rest) :
    named isFunction reader t rest = .ok (.number 1, rest) := by
  rw [named_of_not_reference h, if_pos htrue]
  exact (Address.hasReferenceShape_congr (u := "TRUE") htrue).trans (by decide)

theorem named_of_falsehood (hfalse : upper t.text = "FALSE") (h : Stops [] rest) :
    named isFunction reader t rest = .ok (.number 0, rest) := by
  rw [named_of_not_reference h, if_neg (by rw [hfalse]; decide), if_pos hfalse]
  exact (Address.hasReferenceShape_congr (u := "FALSE") hfalse).trans (by decide)

theorem named_of_word (hne : t.text ≠ []) (hall : ∀ c ∈ t.text, Token.isNameStart c = true)
    (htrue : upper t.text ≠ "TRUE") (hfalse : upper t.text ≠ "FALSE") (h : Stops [] rest) :
    named isFunction reader t rest = .ok (.text t.text, rest) := by
  rw [named_of_not_reference h (hasReferenceShape_word hall), if_neg htrue, if_neg hfalse,
    if_pos (by simpa [hne] using hall)]

/-- A name of a cell. -/
theorem named_of_namesCell {a : Address} (ha : NamesCell t a) (h : Stops [] rest) :
    named isFunction reader t rest = .ok (.ref a, rest) := by
  have hcolon : startsWith ":" rest = false := h.startsWith_eq_false (by decide)
  rw [named, h.startsWith_eq_false (by decide), ha.hasReferenceShape, reference,
    (address_eq_ok_iff ha.kind).2 ha]
  simp only [hcolon]
  rfl

/-- Names of two cells with a colon between them. -/
theorem named_of_range {colon u : Token} {a b : Address} (ha : NamesCell t a)
    (hcolon : IsOperator [":"] colon) (hb : NamesCell u b) :
    named isFunction reader t (colon :: u :: rest) = .ok (.range ⟨a, b⟩, rest) := by
  have htext : colon.text = ":" := List.mem_singleton.1 hcolon.2
  rw [named, startsWith_cons_eq_false (by rw [htext]; decide), ha.hasReferenceShape, reference,
    (address_eq_ok_iff ha.kind).2 ha]
  simp only [startsWith, isOperator_iff.2 hcolon, List.tail_cons, hb.kind,
    (address_eq_ok_iff hb.kind).2 hb, if_true]
  rfl

/-- A name with an opening parenthesis after it. -/
theorem named_of_call {left right : Token} {args : List Formula}
    (hname : isFunction (upper t.text) = true) (hleft : IsOperator ["("] left)
    (hargs : arguments reader ts = .ok (args, right :: rest)) (hright : right.text = ")") :
    named isFunction reader t (left :: ts) = .ok (.call (upper t.text) args, rest) := by
  have hstarts : startsWith "(" (left :: ts) = true := isOperator_iff.2 hleft
  have hopen : expect "(" (left :: ts) = .ok ts := if_pos (List.mem_singleton.1 hleft.2)
  have hclose : expect ")" (right :: rest) = .ok rest := if_pos hright
  simp only [named, hstarts, callOf, hname, hopen, if_true]
  show (arguments reader ts >>= _) = _
  rw [hargs]
  show (expect ")" (right :: rest) >>= _) = _
  rw [hclose]
  rfl

theorem primary_of_group {left right : Token} (hleft : IsOperator ["("] left)
    (hf : reader (ts ++ right :: rest) = .ok (f, right :: rest)) (hright : right.text = ")") :
    primary isFunction reader (left :: (ts ++ [right]) ++ rest) = .ok (f, rest) := by
  have htext : left.text = "(" := List.mem_singleton.1 hleft.2
  have hclose : expect ")" (right :: rest) = .ok rest := if_pos hright
  rw [List.cons_append, List.append_assoc, List.singleton_append, primary, hleft.1]
  simp only [htext, if_true]
  show (reader (ts ++ right :: rest) >>= _) = _
  rw [hf]
  show (expect ")" (right :: rest) >>= _) = _
  rw [hclose]
  rfl

/-! ## With enough depth -/

theorem not_isOperator_of_kind (h : t.kind ≠ .operator) : ¬ IsOperator symbols t :=
  fun ht => h ht.1

theorem not_isOperator_of_text (h : t.text ∉ symbols) : ¬ IsOperator symbols t :=
  fun ht => h ht.2

/-- A primary is read where signs may stand. -/
theorem eventually_reads_of_primary (ht : ¬ IsOperator sumSymbols t)
    (h : ∀ᶠ depth in atTop, ∀ rest, Stops [] rest →
      primary isFunction (expression isFunction depth) (t :: us ++ rest) = .ok (f, rest)) :
    ∀ᶠ depth in atTop, Reads isFunction depth [] (t :: us) f := by
  refine eventually_of_succ ?_
  filter_upwards [h] with depth hprimary rest hrest
  have hsign : isOperator sumSymbols t = false := by
    rwa [← Bool.not_eq_true, isOperator_iff]
  show signed isFunction (depth + 1) (t :: (us ++ rest)) = _
  rw [signed_cons, hsign]
  exact hprimary rest hrest

theorem eventually_reads_of_sign (ht : IsOperator sumSymbols t)
    (h : ∀ᶠ depth in atTop, Reads isFunction depth [] ts f) :
    ∀ᶠ depth in atTop, Reads isFunction depth [] (t :: ts) (.unary t.text f) := by
  refine eventually_of_succ ?_
  filter_upwards [h] with depth hreads rest hrest
  show signed isFunction (depth + 1) (t :: (ts ++ rest)) = _
  rw [signed_cons, isOperator_iff.2 ht, hreads rest hrest]
  rfl

/-- A primary that holds no other formula. -/
theorem eventually_reads_of_kind (hkind : t.kind ≠ .operator)
    (h : ∀ (reader : Reader) rest, Stops [] rest →
      primary isFunction reader (t :: us ++ rest) = .ok (f, rest)) :
    ∀ᶠ depth in atTop, Reads isFunction depth [] (t :: us) f :=
  eventually_reads_of_primary (not_isOperator_of_kind hkind) (.of_forall fun _ => h _)

theorem eventually_reads_of_named (hkind : t.kind = .name)
    (h : ∀ (reader : Reader) rest, Stops [] rest →
      named isFunction reader t (us ++ rest) = .ok (f, rest)) :
    ∀ᶠ depth in atTop, Reads isFunction depth [] (t :: us) f := by
  refine eventually_reads_of_kind (by rw [hkind]; decide) fun reader rest hrest => ?_
  rw [List.cons_append, primary, hkind]
  exact h reader rest hrest

theorem eventually_reads_of_group {left right : Token} (hleft : IsOperator ["("] left)
    (h : ∀ᶠ depth in atTop, Reads isFunction depth precedence ts f) (hright : right.text = ")") :
    ∀ᶠ depth in atTop, Reads isFunction depth [] (left :: (ts ++ [right])) f := by
  have htext : left.text = "(" := List.mem_singleton.1 hleft.2
  refine eventually_reads_of_primary (not_isOperator_of_text (by rw [htext]; decide)) ?_
  filter_upwards [eventually_readsExpression h] with depth hreads rest _
  exact primary_of_group hleft (hreads (right :: rest) (stops_of_closing hright)) hright

theorem eventually_reads_of_call {left right : Token} {first : List Token} {more : List Argument}
    (hkind : t.kind = .name) (hname : isFunction (upper t.text) = true)
    (hleft : IsOperator ["("] left) (hfirst : ∃ u us, first = u :: us ∧ ¬ IsOperator [")"] u)
    (hf : ∀ᶠ depth in atTop, Reads isFunction depth precedence first f)
    (hcommas : ∀ arg ∈ more, IsOperator [","] arg.comma)
    (hmore : ∀ arg ∈ more,
      ∀ᶠ depth in atTop, Reads isFunction depth precedence arg.tokens arg.formula)
    (hright : right.text = ")") :
    ∀ᶠ depth in atTop, Reads isFunction depth []
      (t :: left :: (first ++ Argument.written more ++ [right]))
      (.call (upper t.text) (f :: more.map Argument.formula)) := by
  have hall : ∀ᶠ depth in atTop, ∀ arg ∈ more,
      ReadsExpression (expression isFunction depth) arg.tokens arg.formula :=
    (eventually_all_finite more.finite_toSet).2 fun arg harg =>
      eventually_readsExpression (hmore arg harg)
  refine eventually_reads_of_primary (not_isOperator_of_kind (by rw [hkind]; decide)) ?_
  filter_upwards [eventually_readsExpression hf, hall] with depth hf hall rest _
  rw [List.cons_append, primary, hkind]
  refine named_of_call hname hleft ?_ hright
  show arguments _ (first ++ Argument.written more ++ [right] ++ rest) = _
  rw [List.append_assoc, List.append_assoc]
  exact arguments_written hfirst hf hcommas hall hright

/-- Whatever tokens write is read, with enough depth. The induction is on the rules; on a level of
binary operators it carries the reader from one operand of a chain to the next. -/
theorem Writes.eventually_reads (h : Writes isFunction levels ts f) :
    (levels ++ [openers]).flatten.Nodup →
      ∀ᶠ depth in atTop, Reads isFunction depth levels ts f := by
  have hprecedence : (precedence ++ [openers]).flatten.Nodup := by decide
  induction h with
  | @operand symbols levels ts f _ ih =>
    intro hlevels
    rw [List.cons_append, List.flatten_cons, List.nodup_append] at hlevels
    filter_upwards [ih hlevels.2.1] with depth hreads
    exact hreads.operand
  | @binary symbols levels ts t us l r _ ht _ ihl ihr =>
    intro hlevels
    have hsplit := hlevels
    rw [List.cons_append, List.flatten_cons, List.nodup_append] at hsplit
    filter_upwards [ihl hlevels, ihr hsplit.2.1] with depth hl hr
    refine hl.binary ht (fun s hs hmem => ?_) hr
    exact hsplit.2.2 _ ht.2 _ (List.mem_flatten.2 ⟨s, hs, hmem⟩) rfl
  | sign ht _ ih => exact fun hlevels => eventually_reads_of_sign ht (ih hlevels)
  | @number t n hkind hn hfinite =>
    intro _
    refine eventually_reads_of_kind (by rw [hkind]; decide) fun reader rest _ => ?_
    rw [List.singleton_append, primary, hkind]
    simp only [literal, hn, hfinite, if_true]
  | @string t hkind =>
    intro _
    refine eventually_reads_of_kind (by rw [hkind]; decide) fun reader rest _ => ?_
    rw [List.singleton_append, primary, hkind]
  | group hleft _ hright ih =>
    exact fun _ => eventually_reads_of_group hleft (ih hprecedence) hright
  | @emptyCall t left right hkind hname hleft hright =>
    intro _
    refine eventually_reads_of_named hkind fun reader rest _ => ?_
    have hstarts : startsWith ")" (right :: rest) = true := isOperator_iff.2 hright
    refine named_of_call hname hleft ?_ (List.mem_singleton.1 hright.2)
    show arguments _ (right :: rest) = _
    rw [arguments, hstarts]
    rfl
  | call hkind hname hleft hfirst hcommas _ hright ihf ihmore =>
    exact fun _ => eventually_reads_of_call hkind hname hleft hfirst.exists_cons (ihf hprecedence)
      hcommas (fun arg harg => ihmore arg harg hprecedence) hright
  | ref ha => exact fun _ => eventually_reads_of_named ha.kind fun _ _ => named_of_namesCell ha
  | range ha hcolon hb =>
    exact fun _ => eventually_reads_of_named ha.kind fun _ _ _ => named_of_range ha hcolon hb
  | truth hkind htrue =>
    exact fun _ => eventually_reads_of_named hkind fun _ _ => named_of_truth htrue
  | falsehood hkind hfalse =>
    exact fun _ => eventually_reads_of_named hkind fun _ _ => named_of_falsehood hfalse
  | word hkind hne hall htrue hfalse =>
    exact fun _ => eventually_reads_of_named hkind fun _ _ => named_of_word hne hall htrue hfalse

end Formula

end Spreadsheet
