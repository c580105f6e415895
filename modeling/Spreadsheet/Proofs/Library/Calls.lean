import Spreadsheet.Library.Standard
import Spreadsheet.Proofs.Formula.Reads
import Spreadsheet.Proofs.Evaluation

/-!
# Calls of standard functions

A call of a function of the standard library evaluates all its operands, or it is a choice
(`IsStandard.eager_or_choose`), so it keeps to its arguments (`IsStandard.keepsToArguments`).
`Evaluates` relates a formula to the parts of it that are evaluated on the way to its value.
-/

namespace Spreadsheet

open Standard (Function)

/-! ## Libraries of standard functions -/

/-- Every function of a library is a standard one, under any name and for any number of operands. -/
def Library.IsStandard (lib : Library) : Prop :=
  ∀ name e, lib.find? name = some e → ∃ f : Function, e.behaviour = f.behaviour

namespace Library

variable {lib : Library} {name : Text} {e : Entry}

/-- An entry that is found after another one was registered is that one, or was there before. -/
theorem find?_register {registered : Entry} {aliases : List Text}
    (h : (lib.register registered aliases).find? name = some e) :
    e = registered ∨ lib.find? name = some e := by
  have hinsert (keys : List Text) : ∀ entries,
      find? ⟨keys.foldl (fun m name => m.insert (Text.upper name) registered) entries⟩ name =
        some e → e = registered ∨ find? ⟨entries⟩ name = some e := by
    induction keys with
    | nil => exact fun _ h => .inr h
    | cons key keys ih =>
      intro entries h
      refine (ih _ h).elim .inl fun hfind => ?_
      unfold find? at hfind
      rw [Std.ExtTreeMap.getElem?_insert] at hfind
      split at hfind
      · exact .inl (Option.some.inj hfind).symm
      · exact .inr hfind
  exact hinsert _ _ h

theorem behaviour_entry (f : Function) : f.entry.behaviour = f.behaviour := by
  cases f <;> rfl

theorem exists_entry_of_find?_standard (h : standard.find? name = some e) :
    ∃ f : Function, e = f.entry := by
  have hregister (fs : List Function) : ∀ lib : Library,
      (fs.foldl (fun lib f => lib.register f.entry f.aliases) lib).find? name = some e →
        (∃ f : Function, e = f.entry) ∨ lib.find? name = some e := by
    induction fs with
    | nil => exact fun _ h => .inr h
    | cons f fs ih =>
      intro lib h
      refine (ih _ h).elim .inl fun hfind => ?_
      exact (find?_register hfind).imp (fun he => ⟨f, he⟩) id
  refine (hregister _ _ h).resolve_right fun hempty => ?_
  simp [find?, empty] at hempty

theorem isStandard_standard : standard.IsStandard := fun name e h => by
  obtain ⟨f, rfl⟩ := exists_entry_of_find?_standard h
  exact ⟨f, behaviour_entry f⟩

end Library

/-! ## Calls -/

section Calls

variable {lib : Library} {reader : CellReader} {depth : Nat} {name : Text} {args : List Formula}
  {e : Entry}

theorem Library.IsStandard.eager_or_choose (hlib : lib.IsStandard) {count : Int}
    (hentry : lib.checkCount name count = .ok e) :
    (∃ f : Function, ∃ result, e.behaviour = f.behaviour ∧ f.behaviour = .eager result) ∨
      e.behaviour = Function.choose.behaviour := by
  obtain ⟨f, hf⟩ := hlib name e (find?_of_checkCount hentry)
  cases f with
  | choose => exact .inr hf
  | sum | average | minimum | maximum | count | concat => exact .inl ⟨_, _, hf, rfl⟩

theorem evalWithin_eager {result : List Value → Outcome}
    (hentry : lib.checkCount name args.length = .ok e) (hbehaviour : e.behaviour = .eager result) :
    evalWithin lib reader (depth + 1) (.call name args) =
      args.mapM (evalWithin lib reader depth) >>= fun operands =>
        finiteOutcome (result operands) := by
  rw [evalWithin, applyCall, hentry]
  simp only [bind, Except.bind, hbehaviour]

theorem evalWithin_choose (hentry : lib.checkCount name args.length = .ok e)
    (hbehaviour : e.behaviour = Function.choose.behaviour) :
    evalWithin lib reader (depth + 1) (.call name args) =
      Standard.choose args (evalWithin lib reader depth) := by
  rw [evalWithin, applyCall, hentry]
  simp only [bind, Except.bind, hbehaviour, Function.behaviour]

theorem evalWithin_of_checkCount_error {fault : Fault}
    (hentry : lib.checkCount name args.length = .error fault) :
    evalWithin lib reader (depth + 1) (.call name args) = .error fault := by
  rw [evalWithin, applyCall, hentry]
  rfl

/-- What a choice of the given formulas gives. -/
theorem choose_cons (eval : Formula → Outcome) (condition : Formula) (branches : List Formula) :
    Standard.choose (condition :: branches) eval =
      eval condition >>= fun v => v.isTrue >>= fun holds =>
        (branches[if holds then 0 else 1]?).elim (.error .missingOperand) eval := by
  refine congrArg (eval condition >>= ·) (funext fun v => congrArg (v.isTrue >>= ·) ?_)
  funext holds
  cases branches[if holds then 0 else 1]? <;> rfl

/-- A choice evaluates its condition and one of its branches, and nothing else. -/
theorem keepsToArguments_choose : Function.choose.behaviour.KeepsToArguments := by
  intro args eval eval' h
  cases args with
  | nil => rfl
  | cons condition branches =>
    rw [choose_cons, choose_cons, h condition List.mem_cons_self _ (.self _)]
    refine congrArg (eval' condition >>= ·) (funext fun v => congrArg (v.isTrue >>= ·) ?_)
    funext holds
    cases hbranch : branches[if holds then 0 else 1]? with
    | none => rfl
    | some branch =>
      exact h branch (List.mem_cons_of_mem _ (List.mem_of_getElem? hbranch)) _ (.self _)

theorem Library.IsStandard.keepsToArguments (hlib : lib.IsStandard) : lib.KeepsToArguments := by
  intro name e he
  obtain ⟨f, hf⟩ := hlib name e he
  rw [hf]
  cases f with
  | choose => exact keepsToArguments_choose
  | sum | average | minimum | maximum | count | concat => trivial

end Calls

/-! ## Parts that are evaluated -/

theorem Formula.size_le_sizeAll {f : Formula} {fs : List Formula} (h : f ∈ fs) :
    f.size ≤ sizeAll fs := by
  obtain ⟨before, after, rfl⟩ := List.append_of_mem h
  rw [sizeAll_append, sizeAll]
  omega

theorem Formula.length_le_sizeAll (fs : List Formula) : fs.length ≤ sizeAll fs := by
  induction fs with
  | nil => exact Nat.le_refl 0
  | cons f fs ih =>
    have := f.size_pos
    rw [List.length_cons, sizeAll]
    omega

/-- What is evaluated on the way to the value of a formula: the formula itself, the operands of
operators and eager functions up to the first that fails, and of a choice the condition and the
branch that is taken. -/
inductive Evaluates (lib : Library) (reader : CellReader) :
    Nat → Formula → Nat → Formula → Prop where
  | self (depth : Nat) (f : Formula) : Evaluates lib reader depth f depth f
  | unary {depth n : Nat} {symbol : Text} {operand g : Formula}
    (h : Evaluates lib reader depth operand n g) :
    Evaluates lib reader (depth + 1) (.unary symbol operand) n g
  | left {depth n : Nat} {symbol : Text} {left right g : Formula}
    (h : Evaluates lib reader depth left n g) :
    Evaluates lib reader (depth + 1) (.binary symbol left right) n g
  | right {depth n : Nat} {symbol : Text} {left right g : Formula} {v : Value}
    (hleft : evalWithin lib reader depth left = .ok v) (h : Evaluates lib reader depth right n g) :
    Evaluates lib reader (depth + 1) (.binary symbol left right) n g
  | operand {depth n : Nat} {name : Text} {before after : List Formula} {arg g : Formula}
    {e : Entry} {result : List Value → Outcome}
    (hentry : lib.checkCount name (before ++ arg :: after).length = .ok e)
    (hbehaviour : e.behaviour = .eager result)
    (hbefore : ∀ b ∈ before, ∃ v, evalWithin lib reader depth b = .ok v)
    (h : Evaluates lib reader depth arg n g) :
    Evaluates lib reader (depth + 1) (.call name (before ++ arg :: after)) n g
  | condition {depth n : Nat} {name : Text} {condition g : Formula} {branches : List Formula}
    {e : Entry} (hentry : lib.checkCount name (condition :: branches).length = .ok e)
    (hbehaviour : e.behaviour = Function.choose.behaviour)
    (h : Evaluates lib reader depth condition n g) :
    Evaluates lib reader (depth + 1) (.call name (condition :: branches)) n g
  | branch {depth n : Nat} {name : Text} {condition branch g : Formula} {branches : List Formula}
    {e : Entry} {v : Value} {holds : Bool}
    (hentry : lib.checkCount name (condition :: branches).length = .ok e)
    (hbehaviour : e.behaviour = Function.choose.behaviour)
    (hcondition : evalWithin lib reader depth condition = .ok v) (hholds : v.isTrue = .ok holds)
    (hbranch : branches[if holds then 0 else 1]? = some branch)
    (h : Evaluates lib reader depth branch n g) :
    Evaluates lib reader (depth + 1) (.call name (condition :: branches)) n g

namespace Evaluates

variable {lib : Library} {reader : CellReader} {depth n m : Nat} {f g h : Formula}

theorem trans (hg : Evaluates lib reader depth f n g) (hh : Evaluates lib reader n g m h) :
    Evaluates lib reader depth f m h := by
  induction hg with
  | self => exact hh
  | unary _ ih => exact .unary (ih hh)
  | left _ ih => exact .left (ih hh)
  | right hleft _ ih => exact .right hleft (ih hh)
  | operand hentry hbehaviour hbefore _ ih => exact .operand hentry hbehaviour hbefore (ih hh)
  | condition hentry hbehaviour _ ih => exact .condition hentry hbehaviour (ih hh)
  | branch hentry hbehaviour hcondition hholds hbranch _ ih =>
    exact .branch hentry hbehaviour hcondition hholds hbranch (ih hh)

theorem contains (hg : Evaluates lib reader depth f n g) : f.Contains g := by
  induction hg with
  | self => exact .self _
  | unary _ ih => exact .unary ih
  | left _ ih => exact .left ih
  | right _ _ ih => exact .right ih
  | operand _ _ _ _ ih => exact .operand (by simp) ih
  | condition _ _ _ ih => exact .operand List.mem_cons_self ih
  | branch _ _ _ _ hbranch _ ih =>
    exact .operand (List.mem_cons_of_mem _ (List.mem_of_getElem? hbranch)) ih

theorem mem_leaves (hg : Evaluates lib reader depth f n g) {x : Reference} (hx : x ∈ g.leaves) :
    x ∈ f.leaves :=
  hg.contains.mem_leaves hx

/-- A part that lies some levels below the whole has fewer nodes by at least as many. -/
theorem size_add_le (hg : Evaluates lib reader depth f n g) :
    ∃ k, depth = n + k ∧ g.size + k ≤ f.size := by
  have hargs {k : Nat} {arg : Formula} {args : List Formula} {name : Text} (harg : arg ∈ args)
      (hk : k ≤ arg.size) : k + 1 ≤ (Formula.call name args).size :=
    Nat.succ_le_succ (Nat.le_trans hk (Formula.size_le_sizeAll harg))
  induction hg with
  | self => exact ⟨0, rfl, Nat.le_refl _⟩
  | unary _ ih =>
    obtain ⟨k, rfl, hsize⟩ := ih
    exact ⟨k + 1, rfl, Nat.succ_le_succ hsize⟩
  | left _ ih | right _ _ ih =>
    obtain ⟨k, rfl, hsize⟩ := ih
    refine ⟨k + 1, rfl, ?_⟩
    simp only [Formula.size]
    omega
  | operand _ _ _ _ ih =>
    obtain ⟨k, rfl, hsize⟩ := ih
    exact ⟨k + 1, rfl, hargs (by simp) hsize⟩
  | condition _ _ _ ih =>
    obtain ⟨k, rfl, hsize⟩ := ih
    exact ⟨k + 1, rfl, hargs List.mem_cons_self hsize⟩
  | branch _ _ _ _ hbranch _ ih =>
    obtain ⟨k, rfl, hsize⟩ := ih
    exact ⟨k + 1, rfl, hargs (List.mem_cons_of_mem _ (List.mem_of_getElem? hbranch)) hsize⟩

end Evaluates

end Spreadsheet
