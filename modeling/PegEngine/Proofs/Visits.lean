import PegEngine.Proofs.Parses

/-!
# The calls of an evaluation

While an expression is evaluated, its members and the rules to which it refers
are evaluated in turn, each in the state to which the evaluation has come by
then.  `Eval.visits` lists these calls in the order in which they are made, with
the number of negative lookaheads around each of them.  A call is listed whether
the result is come to or replayed; what is replayed makes no calls.

The states in which a parse calls something are the states that it reaches
(`Session.Reaches`).  In every one of them the parse is in good order
(`Session.Reaches.callable`).
-/

namespace PegEngine

open ParseState

/-- A call: the evaluation of a rule or of an expression, under a number of
negative lookaheads and in a state. -/
inductive Visit (α σ : Type) where
  | rule (rule : Rule α σ) (index : Nat) (nots : Nat) (state : ParseState α σ)
  | expression (place : ExprPlace) (expr : Expr α σ) (nots : Nat)
    (state : ParseState α σ)

def Visit.state {α σ : Type} : Visit α σ → ParseState α σ
  | .rule _ _ _ state => state
  | .expression _ _ _ state => state

namespace Eval

variable {α σ : Type}

/-- Test whether the result of a node is replayed. -/
def replays (enabled : Bool) (node : NodeKey) (state : ParseState α σ) : Bool :=
  enabled && (state.memo.lookup (state.memoKey node)).isSome

/-- Test whether an expression is evaluated when it is called: its result is not
replayed, and the limit leaves room for it. -/
def enters (session : Session α σ) (place : ExprPlace) (expr : Expr α σ)
    (state : ParseState α σ) : Bool :=
  !replays (session.options.memoize && !expr.usesScope) (.expression place)
    state && !state.countExpression.overLimit session

/-- What depends on whether an expression is evaluated is decided in two
steps. -/
theorem ite_enters {β : Type} (session : Session α σ) (place : ExprPlace)
    (expr : Expr α σ) (state : ParseState α σ) (inside outside : β) :
    (if enters session place expr state then inside else outside) =
      if replays (session.options.memoize && !expr.usesScope)
        (.expression place) state then outside
      else if state.countExpression.overLimit session then outside
      else inside := by
  unfold enters
  cases replays (session.options.memoize && !expr.usesScope)
    (.expression place) state <;>
  cases state.countExpression.overLimit session <;> rfl

/-- An expression that is evaluated has been counted within the limit. -/
theorem ready_of_enters {session : Session α σ} {place : ExprPlace}
    {expr : Expr α σ} {state : ParseState α σ} (ready : state.Ready session)
    (enters : enters session place expr state = true) :
    state.countExpression.Ready session := by
  simp only [Eval.enters, Bool.and_eq_true, Bool.not_eq_true'] at enters
  exact { ready.toSound with within := overLimit_eq_false.mp enters.2 }

section Combining

variable (session : Session α σ)
  (evaluate : ExprPlace → Expr α σ → Eval α σ (Verdict α))
  (visits : ExprPlace → Expr α σ → (nots : Nat) → ParseState α σ →
    List (Visit α σ))

def visitsInSequence (place : ExprPlace) (nots : Nat) :
    (index : Nat) → List (Expr α σ) → ParseState α σ → List (Visit α σ)
  | _, [], _ => []
  | index, expr :: exprs, state =>
    visits (place.member index) expr nots state ++
      match evaluate (place.member index) expr state with
      | .ok (.matched _) after =>
        visitsInSequence place nots (index + 1) exprs after
      | _ => []

def visitsInChoice (place : ExprPlace) (nots : Nat) :
    (index : Nat) → List (Expr α σ) → ParseState α σ → List (Visit α σ)
  | _, [], _ => []
  | index, expr :: exprs, state =>
    visits (place.member index) expr nots state.pushScope ++
      match evaluate (place.member index) expr state.pushScope with
      | .ok .unmatched after =>
        visitsInChoice place nots (index + 1) exprs after.popScope
      | _ => []

def visitsInRounds (body : Eval α σ (Verdict α))
    (visits : ParseState α σ → List (Visit α σ)) :
    (rounds : Nat) → ParseState α σ → List (Visit α σ)
  | 0, _ => []
  | rounds + 1, state =>
    visits state.pushScope ++
      match body state.pushScope with
      | .ok (.matched _) after =>
        if after.cursor.offset = state.cursor.offset then []
        else visitsInRounds body visits rounds after.popScope
      | _ => []

/-- The call of a rule, and the calls that it makes. -/
def visitsOfRule (rule : Rule α σ) (index nots : Nat) (state : ParseState α σ) :
    List (Visit α σ) :=
  .rule rule index nots state ::
    if replays session.options.memoize (.rule index) state then []
    else visits (.body index) rule.body nots
      ((state.enterNode session (.rule rule.name)).enterRule rule)

/-- The calls that an expression makes. -/
def visitsOfNode (place : ExprPlace) (nots : Nat) (state : ParseState α σ) :
    Expr α σ → List (Visit α σ)
  | .literal _ _ | .oneOf _ | .any | .require _ | .forbid _ => []
  | .sequence members =>
    visitsInSequence evaluate visits place nots 0 members state
  | .choice alternatives =>
    visitsInChoice evaluate visits place nots 0 alternatives state
  | .zeroOrMore body | .oneOrMore body =>
    visitsInRounds (evaluate (place.member 0) body)
      (visits (place.member 0) body nots)
      (session.input.size - state.cursor.offset + 1) state
  | .optional body | .followedBy body | .labeled _ body =>
    visits (place.member 0) body nots state.pushScope
  | .notFollowedBy body =>
    visits (place.member 0) body (nots + 1) state.pushScope.toggle
  | .reference name =>
    match session.grammar.target? name with
    | some (rule, index) =>
      if name.isEmpty then []
      else visitsOfRule session visits rule index nots state
    | none => []
  | .action body _ => visits (place.member 0) body nots state

end Combining

/-- The call of an expression, and the calls that it makes, with nodes nested no
deeper than the given depth. -/
def visits (session : Session α σ) :
    (depth : Nat) → ExprPlace → Expr α σ → (nots : Nat) → ParseState α σ →
      List (Visit α σ)
  | 0, _, _, _, _ => []
  | depth + 1, place, expr, nots, state =>
    .expression place expr nots state ::
      if enters session place expr state then
        visitsOfNode session (evalExpr session depth) (visits session depth)
          place nots
          (state.countExpression.enterNode session
            (.expression expr.kindName))
          expr
      else []

end Eval

/-- A state in which something may be called: the parse is in good order, and if
a rule is being evaluated, it is one of the grammar's. -/
structure ParseState.Callable {α σ : Type} (session : Session α σ)
    (state : ParseState α σ) : Prop where
  ready : state.Ready session
  rule : state.activeRules = [] ∨ ∃ index, state.Runs session index

namespace Eval

variable {α σ : Type} {session : Session α σ}

/-- All calls in a list are made in good order. -/
def AllCallable (session : Session α σ) (calls : List (Visit α σ)) : Prop :=
  ∀ visit ∈ calls, visit.state.Callable session

theorem allCallable_nil : AllCallable session [] :=
  fun _ isVisit => nomatch isVisit

theorem AllCallable.append {calls later : List (Visit α σ)}
    (first : AllCallable session calls) (second : AllCallable session later) :
    AllCallable session (calls ++ later) :=
  List.forall_mem_append.mpr ⟨first, second⟩

/-- The calls that are made in evaluating a place of the grammar from that rule
are made in good order. -/
def CallsInOrder (session : Session α σ)
    (visits : ExprPlace → Expr α σ → (nots : Nat) → ParseState α σ →
      List (Visit α σ)) : Prop :=
  ∀ (place : ExprPlace) (expr : Expr α σ) (nots : Nat) (state : ParseState α σ),
    session.grammar.exprAt? place = some expr → state.Ready session →
      state.Runs session place.rule →
        AllCallable session (visits place expr nots state)

section Order

variable (valid : session.grammar.error? = none) {depth : Nat}
  {visits : ExprPlace → Expr α σ → (nots : Nat) → ParseState α σ →
    List (Visit α σ)}
  (members : CallsInOrder session visits) {place : ExprPlace} {nots : Nat}
  {state : ParseState α σ}
include valid members

theorem visitsInSequence_allCallable {index : Nat} {exprs : List (Expr α σ)}
    (lists : session.grammar.Lists place index exprs)
    (ready : state.Ready session) (runs : state.Runs session place.rule) :
    AllCallable session (visitsInSequence (evalExpr session depth) visits place
      nots index exprs state) := by
  induction exprs generalizing index state with
  | nil => exact allCallable_nil
  | cons expr exprs ih =>
      refine (members _ _ _ _ lists.head ready runs).append ?_
      have settles := evalExpr_settles valid depth lists.head ready runs
      split
      case h_1 value after run =>
        have settled := settles.result run
        exact ih lists.tail settled.ready_of_matched
          (runs.of_eq settled.balanced.activeRules)
      case h_2 => exact allCallable_nil

theorem visitsInChoice_allCallable {index : Nat} {exprs : List (Expr α σ)}
    (lists : session.grammar.Lists place index exprs)
    (ready : state.Ready session) (runs : state.Runs session place.rule) :
    AllCallable session (visitsInChoice (evalExpr session depth) visits place
      nots index exprs state) := by
  induction exprs generalizing index state with
  | nil => exact allCallable_nil
  | cons expr exprs ih =>
      refine (members _ _ _ _ lists.head ready.pushScope runs).append ?_
      have settles :=
        evalExpr_settles valid depth lists.head ready.pushScope runs
      split
      case h_1 after run =>
        have settled := (settles.result run).popScope
        exact ih lists.tail settled.ready_of_unmatched
          (runs.of_eq settled.balanced.activeRules)
      case h_2 => exact allCallable_nil

theorem visitsInRounds_allCallable {body : Expr α σ} {rounds : Nat}
    (found : session.grammar.exprAt? place = some body)
    (ready : state.Ready session) (runs : state.Runs session place.rule) :
    AllCallable session (visitsInRounds (evalExpr session depth place body)
      (visits place body nots) rounds state) := by
  induction rounds generalizing state with
  | zero => exact allCallable_nil
  | succ rounds ih =>
      refine (members _ _ _ _ found ready.pushScope runs).append ?_
      have settles := evalExpr_settles valid depth found ready.pushScope runs
      split
      case h_1 value after run =>
        have settled := (settles.result run).popScope
        split
        · exact allCallable_nil
        · exact ih settled.ready_of_matched
            (runs.of_eq settled.balanced.activeRules)
      case h_2 => exact allCallable_nil

omit valid in
theorem visitsOfRule_allCallable {rule : Rule α σ} {index : Nat}
    (isRule : session.grammar.rules[index]? = some rule)
    (callable : state.Callable session) :
    AllCallable session
      (visitsOfRule session visits rule index nots state) := by
  refine List.forall_mem_cons.mpr ⟨callable, ?_⟩
  split
  · exact allCallable_nil
  · exact members _ _ _ _ (Grammar.exprAt?_body isRule)
      ((callable.ready.enterNode _).enterRule rule) (runs_enterRule isRule)

theorem visitsOfNode_allCallable {expr : Expr α σ}
    (found : session.grammar.exprAt? place = some expr)
    (ready : state.Ready session) (runs : state.Runs session place.rule) :
    AllCallable session (visitsOfNode session (evalExpr session depth) visits
      place nots state expr) := by
  have only : ∀ {body : Expr α σ}, expr.members = [body] →
      session.grammar.exprAt? (place.member 0) = some body :=
    Grammar.exprAt?_onlyMember found
  cases expr with
  | literal | oneOf | any | require | forbid => exact allCallable_nil
  | sequence exprs =>
      exact visitsInSequence_allCallable valid members
        (Grammar.lists_members found) ready runs
  | choice exprs =>
      exact visitsInChoice_allCallable valid members
        (Grammar.lists_members found) ready runs
  | zeroOrMore body | oneOrMore body =>
      exact visitsInRounds_allCallable valid members (only rfl) ready runs
  | optional body | followedBy body | labeled label body =>
      exact members _ _ _ _ (only rfl) ready.pushScope runs
  | notFollowedBy body =>
      exact members _ _ _ _ (only rfl) ready.pushScope.toggle runs
  | action body run => exact members _ _ _ _ (only rfl) ready runs
  | reference name =>
      obtain ⟨named, rule, index, target⟩ :=
        Grammar.target?_of_valid valid found
      simp only [visitsOfNode, target, named]
      exact visitsOfRule_allCallable members (Grammar.rule_of_target? target)
        ⟨ready, .inr ⟨_, runs⟩⟩

end Order

/-- Whatever is called in evaluating an expression is called in good order. -/
theorem visits_allCallable (valid : session.grammar.error? = none)
    (depth : Nat) : CallsInOrder session (visits session depth) := by
  induction depth with
  | zero => exact fun _ _ _ _ _ _ _ => allCallable_nil
  | succ depth ih =>
      intro place expr nots state found ready runs
      refine List.forall_mem_cons.mpr ⟨⟨ready, .inr ⟨_, runs⟩⟩, ?_⟩
      split
      case isFalse => exact allCallable_nil
      case isTrue enters =>
        have counted := ready_of_enters ready enters
        have runsInside : state.countExpression.Runs session place.rule :=
          runs.of_eq rfl
        exact visitsOfNode_allCallable valid ih found (counted.enterNode _)
          (runsInside.enterNode _)

end Eval

namespace Session

variable {α σ : Type}

/-- The calls of a parse, with nodes nested no deeper than the given depth. -/
def visits (session : Session α σ) (depth : Nat) (entry : Rule α σ) :
    List (Visit α σ) :=
  Eval.visitsOfRule session (Eval.visits session depth) entry 0 0
    session.opening

/-- A parse comes to call something in a state. -/
def Reaches (session : Session α σ) (state : ParseState α σ) : Prop :=
  session.grammar.error? = none ∧
    ∃ entry depth, session.grammar.start? = some entry ∧
      ∃ visit ∈ session.visits depth entry, visit.state = state

/-- In every state that a parse reaches it is in good order. -/
theorem Reaches.callable {session : Session α σ} {state : ParseState α σ}
    (reaches : session.Reaches state) : state.Callable session := by
  obtain ⟨valid, entry, depth, starts, visit, isVisit, rfl⟩ := reaches
  have opening : session.opening.Callable session :=
    ⟨session.opening_ready, .inl session.activeRules_opening⟩
  exact Eval.visitsOfRule_allCallable (Eval.visits_allCallable valid depth)
    (Grammar.entry_of_start? starts) opening visit isVisit

end Session

end PegEngine
