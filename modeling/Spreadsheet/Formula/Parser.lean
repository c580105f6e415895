import Spreadsheet.Address.Name
import Spreadsheet.Formula
import Spreadsheet.Formula.Token

/-!
# Reading formulas

From the loosest to the tightest the levels of the language are comparisons, sums, products, signs
and primaries; the first three are chains of operands that associate to the left. `Formula.ofTokens`
reads a whole list of tokens, and `Formula.parse` a text with or without the leading `=`. The names
of functions are settled while reading: a name that no function has is an error. A formula nested
deeper than the limit is not read.
-/

namespace Spreadsheet

namespace Formula

/-- A reader of a part of a formula: the part, and the tokens that follow it. -/
abbrev Reader := List Token → Except Fault (Formula × List Token)

/-- An error of the grammar. -/
def malformed {α : Type} (e : Malformed) : Except Fault α :=
  .error (.formula (.malformed e))

/-- Whether a token is one of the given operators. -/
def isOperator (symbols : List Text) (t : Token) : Bool :=
  t.kind == .operator && symbols.contains t.text

/-- Whether the next token is the given operator. -/
def startsWith (symbol : Text) : List Token → Bool
  | t :: _ => isOperator [symbol] t
  | [] => false

/-- The tokens after the one that has to come next. -/
def expect (wanted : Text) : List Token → Except Fault (List Token)
  | [] => malformed .unexpectedEnd
  | t :: ts => if t.text = wanted then .ok ts else malformed (.expected wanted t.text t.pos)

/-! ## Chains -/

/-- The operators that compare. -/
def comparisonSymbols : List Text := ["=", "==", "<>", "!=", "<", ">", "<=", ">="]

/-- The operators of a sum. -/
def sumSymbols : List Text := ["+", "-"]

/-- The operators of a product. -/
def productSymbols : List Text := ["*", "/"]

/-- Goes on with a chain whose operands so far are in `left`, for at most `fuel` operators. -/
def chainFrom (symbols : List Text) (operand : Reader) :
    (fuel : Nat) → (left : Formula) → Reader
  | fuel + 1, left, t :: ts =>
    if isOperator symbols t then
      match operand ts with
      | .error f => .error f
      | .ok (right, rest) => chainFrom symbols operand fuel (.binary t.text left right) rest
    else .ok (left, t :: ts)
  | _, left, ts => .ok (left, ts)

/-- Operands with operators between them, associating to the left. Every operator uses up a token,
so there are no more of them than tokens. -/
def chain (symbols : List Text) (operand : Reader) : Reader := fun ts =>
  match operand ts with
  | .error f => .error f
  | .ok (left, rest) => chainFrom symbols operand rest.length left rest

/-- Comparisons of sums of products. -/
def comparison (operand : Reader) : Reader :=
  chain comparisonSymbols (chain sumSymbols (chain productSymbols operand))

/-! ## Primaries -/

/-- The address that a name token writes. -/
def address (t : Token) : Except Fault Address :=
  match Address.decode t.text with
  | .error f => .error f
  | .ok none =>
    if Address.hasReferenceShape t.text then
      .error (.formula (.badReference (.rowNumber t.text)))
    else malformed (.badReference t.text t.pos)
  | .ok (some a) =>
    if a.InBounds then .ok a else .error (.formula (.badReference (.outOfBounds t.text)))

/-- The formula of a name that stands where an address may stand: a cell, or a range if a colon
follows. -/
def reference (t : Token) (ts : List Token) : Except Fault (Formula × List Token) :=
  match address t with
  | .error f => .error f
  | .ok start =>
    if startsWith ":" ts then
      match ts.tail with
      | [] => malformed .unexpectedEnd
      | u :: rest =>
        if u.kind = .name then
          match address u with
          | .error f => .error f
          | .ok stop => .ok (.range ⟨start, stop⟩, rest)
        else malformed (.referenceExpected u.pos)
    else .ok (.ref start, ts)

/-- Further arguments of a call, each after a comma, for at most `fuel` commas. -/
def argumentsFrom (expression : Reader) :
    (fuel : Nat) → List Token → Except Fault (List Formula × List Token)
  | fuel + 1, t :: ts =>
    if isOperator [","] t then
      match expression ts with
      | .error f => .error f
      | .ok (arg, rest) =>
        match argumentsFrom expression fuel rest with
        | .error f => .error f
        | .ok (args, rest) => .ok (arg :: args, rest)
    else .ok ([], t :: ts)
  | _, ts => .ok ([], ts)

/-- The arguments of a call, up to its closing parenthesis. -/
def arguments (expression : Reader) (ts : List Token) :
    Except Fault (List Formula × List Token) :=
  if startsWith ")" ts then .ok ([], ts)
  else
    match expression ts with
    | .error f => .error f
    | .ok (arg, rest) =>
      match argumentsFrom expression rest.length rest with
      | .error f => .error f
      | .ok (args, rest) => .ok (arg :: args, rest)

/-- The call of a function, read from its opening parenthesis on. -/
def callOf (isFunction : Text → Bool) (expression : Reader) (t : Token) (ts : List Token) :
    Except Fault (Formula × List Token) :=
  let name := Text.upper t.text
  if isFunction name then do
    let ts ← expect "(" ts
    let (args, ts) ← arguments expression ts
    let ts ← expect ")" ts
    .ok (.call name args, ts)
  else malformed (.unknownFunction name)

/-- The formula of a name: a call, a reference, one of the two truth values, or a bare word that
stands for itself. A bare word is judged as `tokenize` cuts names, without a line end after it. -/
def named (isFunction : Text → Bool) (expression : Reader) (t : Token) (ts : List Token) :
    Except Fault (Formula × List Token) :=
  if startsWith "(" ts then callOf isFunction expression t ts
  else if Address.hasReferenceShape t.text then reference t ts
  else if Text.upper t.text = "TRUE" then .ok (.number 1, ts)
  else if Text.upper t.text = "FALSE" then .ok (.number 0, ts)
  else if !t.text.isEmpty && t.text.all Token.isNameStart then .ok (.text t.text, ts)
  else malformed (.badReference t.text t.pos)

/-- Undoes the doubling of the quotes inside a string. -/
def undouble (quote : CodePoint) : Text → Text
  | c :: d :: t =>
    if c = quote && d = quote then quote :: undouble quote t
    else c :: undouble quote (d :: t)
  | t => t

/-- The text that a string token stands for. -/
def unquote : Text → Text
  | quote :: t => undouble quote t.dropLast
  | [] => []

/-- A number token, whose text is a numeral as `tokenize` cuts it: no white space, sign, underscore
or word for infinity is read here. -/
def literal (t : Token) (ts : List Token) : Except Fault (Formula × List Token) :=
  match Numeral.ofText? t.text with
  | none => malformed (.unexpected t.text t.pos)
  | some n =>
    if n.value.isFinite then .ok (.number n.value, ts)
    else .error (.formula (.outOfRange (.literal t.text)))

/-- A number, a string, a name with what belongs to it, or an expression in parentheses. -/
def primary (isFunction : Text → Bool) (expression : Reader) : Reader
  | [] => malformed .unexpectedEnd
  | t :: ts =>
    match t.kind with
    | .number => literal t ts
    | .string => .ok (.text (unquote t.text), ts)
    | .name => named isFunction expression t ts
    | .operator =>
      if t.text = "(" then do
        let (f, ts) ← expression ts
        let ts ← expect ")" ts
        .ok (f, ts)
      else malformed (.unexpected t.text t.pos)

/-! ## Expressions -/

mutual

/-- An expression nested at most `depth` deep. -/
def expression (isFunction : Text → Bool) : (depth : Nat) → Reader
  | 0 => fun _ => .error .nestingTooDeep
  | depth + 1 => comparison (signed isFunction depth)

/-- A primary with any signs before it, nested at most `depth` deep. -/
def signed (isFunction : Text → Bool) : (depth : Nat) → Reader
  | 0 => fun _ => .error .nestingTooDeep
  | depth + 1 => fun ts =>
    match ts with
    | [] => malformed .unexpectedEnd
    | t :: rest =>
      if isOperator sumSymbols t then
        match signed isFunction depth rest with
        | .error f => .error f
        | .ok (operand, rest) => .ok (.unary t.text operand, rest)
      else primary isFunction (expression isFunction depth) (t :: rest)

end

/-- The formula that a list of tokens writes, nested at most `depth` deep. -/
def ofTokensWithin (depth : Nat) (isFunction : Text → Bool) (ts : List Token) :
    Except Fault Formula :=
  if ts.isEmpty then malformed .empty
  else
    match expression isFunction depth ts with
    | .error f => .error f
    | .ok (f, []) => .ok f
    | .ok (_, t :: _) => malformed (.unexpected t.text t.pos)

/-- The formula that a list of tokens writes. -/
def ofTokens (limit : NestingLimit) (isFunction : Text → Bool) (ts : List Token) :
    Except Fault Formula :=
  ofTokensWithin limit.depth isFunction ts

/-- Removes the `=` that marks a formula, if it is there. -/
def dropMark : Text → Text
  | .char '=' :: t => t
  | t => t

/-- The formula that a text writes, with or without the leading `=`. -/
def parse (limit : NestingLimit) (isFunction : Text → Bool) (t : Text) : Except Fault Formula :=
  match tokenize (dropMark t.trim) with
  | .error f => .error f
  | .ok ts => ofTokens limit isFunction ts

end Formula

end Spreadsheet
