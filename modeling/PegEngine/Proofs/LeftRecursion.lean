import PegEngine.Proofs.Spans
import Mathlib.Data.Fintype.EquivFin

/-!
# Left recursion

A rule calls another one on the left if it refers to it where nothing has to be
consumed before.  What can match without consuming anything is
over-approximated by the shape of expressions (`Grammar.Nullable`), and a
grammar is left recursive if some rule calls itself on the left, directly or
through other rules.  Without left recursion the calls of an evaluation are
well founded (`Grammar.acc_called`): in a chain of calls at a single offset
every rule is called on the left by the one before, and the offsets of a chain
never decrease.
-/

namespace PegEngine

namespace Grammar

variable {α σ : Type}

/-- The shape of an expression allows it to match without consuming
anything. -/
inductive Nullable (grammar : Grammar α σ) : Expr α σ → Prop
  | literal {text : String} {ignoresCase : Bool} (isEmpty : text = "") :
      Nullable grammar (.literal text ignoresCase)
  | sequenceNil : Nullable grammar (.sequence [])
  | sequenceCons {expr : Expr α σ} {exprs : List (Expr α σ)}
      (first : Nullable grammar expr)
      (later : Nullable grammar (.sequence exprs)) :
      Nullable grammar (.sequence (expr :: exprs))
  | choice {alternatives : List (Expr α σ)} {expr : Expr α σ}
      (isAlternative : expr ∈ alternatives) (nullable : Nullable grammar expr) :
      Nullable grammar (.choice alternatives)
  | zeroOrMore (body : Expr α σ) : Nullable grammar (.zeroOrMore body)
  | oneOrMore {body : Expr α σ} (nullable : Nullable grammar body) :
      Nullable grammar (.oneOrMore body)
  | optional (body : Expr α σ) : Nullable grammar (.optional body)
  | followedBy (body : Expr α σ) : Nullable grammar (.followedBy body)
  | notFollowedBy (body : Expr α σ) : Nullable grammar (.notFollowedBy body)
  | labeled {label : String} {body : Expr α σ}
      (nullable : Nullable grammar body) :
      Nullable grammar (.labeled label body)
  | reference {name : String} {rule : Rule α σ} {index : Nat}
      (target : grammar.target? name = some (rule, index))
      (nullable : Nullable grammar rule.body) :
      Nullable grammar (.reference name)
  | action {body : Expr α σ} {run : Action α σ}
      (nullable : Nullable grammar body) : Nullable grammar (.action body run)
  | require (test : Predicate α σ) : Nullable grammar (.require test)
  | forbid (test : Predicate α σ) : Nullable grammar (.forbid test)

/-- An expression refers to a name where only what is nullable stands before, in
the sequences around. -/
inductive LeftRefers (grammar : Grammar α σ) : Expr α σ → String → Prop
  | reference (name : String) : LeftRefers grammar (.reference name) name
  | sequenceFirst {expr : Expr α σ} {exprs : List (Expr α σ)} {name : String}
      (refers : LeftRefers grammar expr name) :
      LeftRefers grammar (.sequence (expr :: exprs)) name
  | sequenceLater {expr : Expr α σ} {exprs : List (Expr α σ)} {name : String}
      (nullable : grammar.Nullable expr)
      (refers : LeftRefers grammar (.sequence exprs) name) :
      LeftRefers grammar (.sequence (expr :: exprs)) name
  | choice {alternatives : List (Expr α σ)} {expr : Expr α σ} {name : String}
      (isAlternative : expr ∈ alternatives)
      (refers : LeftRefers grammar expr name) :
      LeftRefers grammar (.choice alternatives) name
  | zeroOrMore {body : Expr α σ} {name : String}
      (refers : LeftRefers grammar body name) :
      LeftRefers grammar (.zeroOrMore body) name
  | oneOrMore {body : Expr α σ} {name : String}
      (refers : LeftRefers grammar body name) :
      LeftRefers grammar (.oneOrMore body) name
  | optional {body : Expr α σ} {name : String}
      (refers : LeftRefers grammar body name) :
      LeftRefers grammar (.optional body) name
  | followedBy {body : Expr α σ} {name : String}
      (refers : LeftRefers grammar body name) :
      LeftRefers grammar (.followedBy body) name
  | notFollowedBy {body : Expr α σ} {name : String}
      (refers : LeftRefers grammar body name) :
      LeftRefers grammar (.notFollowedBy body) name
  | labeled {label : String} {body : Expr α σ} {name : String}
      (refers : LeftRefers grammar body name) :
      LeftRefers grammar (.labeled label body) name
  | action {body : Expr α σ} {run : Action α σ} {name : String}
      (refers : LeftRefers grammar body name) :
      LeftRefers grammar (.action body run) name

/-- A rule refers on the left to a name that runs another rule. -/
def LeftCalls (grammar : Grammar α σ)
    (caller callee : Fin grammar.rules.length) : Prop :=
  ∃ name rule, grammar.LeftRefers grammar.rules[caller].body name ∧
    grammar.target? name = some (rule, callee.val)

/-- Some rule calls itself on the left, directly or through other rules. -/
def LeftRecursive (grammar : Grammar α σ) : Prop :=
  ∃ index, Relation.TransGen grammar.LeftCalls index index

section Nullable

variable {grammar : Grammar α σ} {input : ByteArray} {place callee : ExprPlace}
  {expr called : Expr α σ} {start : Nat} {value : Value α}

/-- What matches without consuming anything has the shape for it. -/
theorem Spans.nullable
    (spans : grammar.Spans input expr start value start) :
    grammar.Nullable expr := by
  suffices general : ∀ {expr : Expr α σ} {start finish : Nat} {value : Value α},
      grammar.Spans input expr start value finish → start = finish →
        grammar.Nullable expr from
    general spans rfl
  intro expr start finish value spans unmoved
  induction spans with
  | @literal text ignoresCase start finish spelled =>
      subst unmoved
      have noChars := spelled.eq_nil
      rw [String.toList_eq_nil_iff] at noChars
      exact .literal noChars
  | oneOf read accepted =>
      have forward := Decoded.width_pos_of_read read
      omega
  | any read =>
      have forward := Decoded.width_pos_of_read read
      omega
  | sequenceNil => exact .sequenceNil
  | sequenceCons first later firstIH laterIH =>
      have atMost := first.le
      have atLeast := later.le
      exact .sequenceCons (firstIH (by omega)) (laterIH (by omega))
  | choice isAlternative spans ih => exact .choice isAlternative (ih unmoved)
  | zeroOrMoreNil | zeroOrMoreCons => exact .zeroOrMore _
  | oneOrMore first later firstIH laterIH =>
      have atMost := first.le
      have atLeast := later.le
      exact .oneOrMore (firstIH (by omega))
  | optionalNone | optionalSome => exact .optional _
  | followedBy => exact .followedBy _
  | notFollowedBy => exact .notFollowedBy _
  | labeled spans ih => exact .labeled (ih unmoved)
  | reference target spans ih => exact .reference target (ih unmoved)
  | answered spans sameText sameValue answers ih => exact .action (ih unmoved)
  | complained spans ih => exact .action (ih unmoved)
  | require => exact .require _
  | forbid => exact .forbid _

/-- Behind members that consumed nothing, a sequence still refers on the
left. -/
theorem LeftRefers.sequence {earlier later : List (Expr α σ)} {name : String}
    {values : List (Value α)}
    (spans : grammar.Spans input (.sequence earlier) start (.list values) start)
    (refers : grammar.LeftRefers expr name) :
    grammar.LeftRefers (.sequence (earlier ++ expr :: later)) name := by
  induction earlier generalizing values with
  | nil => exact .sequenceFirst refers
  | cons first earlier ih =>
      cases spans with
      | sequenceCons spansFirst spansLater =>
          have atMost := spansFirst.le
          have atLeast := spansLater.le
          obtain rfl := Nat.le_antisymm atMost atLeast
          exact .sequenceLater spansFirst.nullable (ih spansLater)

/-- A call that stays at its offset either runs a rule, or goes on to a smaller
expression whose references on the left are such of the caller, too. -/
theorem Calls.stays
    (calls : grammar.Calls input place start expr callee called start) :
    (∃ name rule index, expr = .reference name ∧
      grammar.target? name = some (rule, index) ∧
      called = rule.body ∧ callee = .body index) ∨
    (sizeOf called < sizeOf expr ∧
      ∀ name, grammar.LeftRefers called name →
        grammar.LeftRefers expr name) := by
  cases calls with
  | @sequence exprs earlier later called values middle split spans =>
      subst split
      refine .inr ⟨?_, fun name refers => .sequence spans refers⟩
      have isMember : called ∈ earlier ++ called :: later := by simp
      have smaller := List.sizeOf_lt_of_mem isMember
      simp only [Expr.sequence.sizeOf_spec]
      omega
  | choice isAlternative =>
      have isMember := List.mem_of_getElem? isAlternative
      refine .inr ⟨?_, fun name refers => .choice isMember refers⟩
      have smaller := List.sizeOf_lt_of_mem isMember
      simp only [Expr.choice.sizeOf_spec]
      omega
  | zeroOrMore => exact .inr ⟨by simp, fun name => .zeroOrMore⟩
  | oneOrMore => exact .inr ⟨by simp, fun name => .oneOrMore⟩
  | optional => exact .inr ⟨by simp, fun name => .optional⟩
  | followedBy => exact .inr ⟨by simp, fun name => .followedBy⟩
  | notFollowedBy => exact .inr ⟨by simp, fun name => .notFollowedBy⟩
  | labeled =>
      refine .inr ⟨?_, fun name => .labeled⟩
      simp only [Expr.labeled.sizeOf_spec]
      omega
  | action => exact .inr ⟨by simp, fun name => .action⟩
  | reference target => exact .inl ⟨_, _, _, rfl, target, rfl, rfl⟩

end Nullable

/-- One evaluation calls for another.  Each of them is of the expression at a
place, from some offset on. -/
def Called (grammar : Grammar α σ) (input : ByteArray)
    (callee caller : ExprPlace × Nat) : Prop :=
  callee.2 ≤ input.size ∧
    ∃ expr called, grammar.exprAt? caller.1 = some expr ∧
      grammar.Calls input caller.1 caller.2 expr callee.1 called callee.2

section WellFounded

variable {grammar : Grammar α σ} {input : ByteArray}

/-- Without left recursion, whatever a rule calls on the left is of lower
rank. -/
theorem leftCalls_wellFounded (notLeftRecursive : ¬ grammar.LeftRecursive) :
    WellFounded (flip grammar.LeftCalls) := by
  let below := flip (Relation.TransGen grammar.LeftCalls)
  have irrefl : Std.Irrefl below :=
    ⟨fun index cycle => notLeftRecursive ⟨index, cycle⟩⟩
  have trans : IsTrans _ below :=
    ⟨fun first second third left right => right.trans left⟩
  have wellFounded := Finite.wellFounded_of_trans_of_irrefl below
  exact Subrelation.wf (fun step => .single step) wellFounded

/-- Rules that call only later ones on the left do not form a cycle. -/
theorem not_leftRecursive_of_lt
    (later : ∀ caller callee, grammar.LeftCalls caller callee →
      caller < callee) :
    ¬ grammar.LeftRecursive := by
  rintro ⟨index, cycle⟩
  have increasing : ∀ {first last},
      Relation.TransGen grammar.LeftCalls first last → first < last := by
    intro first last chain
    induction chain with
    | single call => exact later _ _ call
    | tail _ call ih => exact Nat.lt_trans ih (later _ _ call)
  exact Nat.lt_irrefl _ (increasing cycle)

/-- The calls of an expression at an offset come to an end if those at later
offsets do and those of the rules that it calls on the left. -/
theorem acc_called_of_left {offset : Nat} {expr : Expr α σ} {place : ExprPlace}
    (found : grammar.exprAt? place = some expr)
    (later : ∀ (place : ExprPlace) (expr : Expr α σ) (middle : Nat),
      grammar.exprAt? place = some expr → offset < middle →
        middle ≤ input.size → Acc (grammar.Called input) (place, middle))
    (rules : ∀ name rule index, grammar.LeftRefers expr name →
      grammar.target? name = some (rule, index) →
        Acc (grammar.Called input) (.body index, offset)) :
    Acc (grammar.Called input) (place, offset) := by
  induction size : sizeOf expr using Nat.strong_induction_on
    generalizing expr place with
  | h size ih =>
      refine .intro _ ?_
      rintro ⟨callee, middle⟩ ⟨inside, caller, called, isCaller, calls⟩
      obtain rfl := Option.some.inj (found.symm.trans isCaller)
      have isCalled := calls.placed found
      rcases Nat.lt_or_eq_of_le calls.le with forward | rfl
      · exact later callee called middle isCalled forward inside
      · rcases calls.stays with
          ⟨name, rule, index, rfl, target, -, rfl⟩ | ⟨smaller, left⟩
        · exact rules name rule index (.reference name) target
        · exact ih _ (size ▸ smaller) isCalled
            (fun name rule index refers =>
              rules name rule index (left name refers)) rfl

/-- Without left recursion, every evaluation calls for others only finitely
often in a row. -/
theorem acc_called (notLeftRecursive : ¬ grammar.LeftRecursive)
    {place : ExprPlace} {expr : Expr α σ}
    (found : grammar.exprAt? place = some expr) {offset : Nat}
    (inside : offset ≤ input.size) :
    Acc (grammar.Called input) (place, offset) := by
  induction remaining : input.size - offset using Nat.strong_induction_on
    generalizing place expr offset with
  | h remaining ih =>
      have later : ∀ (place : ExprPlace) (expr : Expr α σ) (middle : Nat),
          grammar.exprAt? place = some expr → offset < middle →
            middle ≤ input.size → Acc (grammar.Called input) (place, middle) :=
        fun place expr middle found forward inside =>
          ih _ (by omega) found inside rfl
      -- The rules are ordered by the calls on the left.
      have bodies : ∀ index : Fin grammar.rules.length,
          Acc (grammar.Called input) (.body index, offset) := by
        intro index
        induction index using
            (leftCalls_wellFounded notLeftRecursive).induction with
        | h index ih =>
            refine acc_called_of_left
              (exprAt?_body (List.getElem?_eq_getElem index.isLt)) later ?_
            intro name rule callee refers target
            have bound : callee < grammar.rules.length := by
              have isRule := rule_of_target? target
              exact (List.getElem?_eq_some_iff.mp isRule).1
            exact ih ⟨callee, bound⟩ ⟨name, rule, refers, target⟩
      apply acc_called_of_left found later
      intro name rule index _ target
      have isRule := rule_of_target? target
      exact bodies ⟨index, (List.getElem?_eq_some_iff.mp isRule).1⟩

end WellFounded

end Grammar

end PegEngine
