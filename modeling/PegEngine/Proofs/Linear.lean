import PegEngine.Proofs.Ceiling
import PegEngine.Proofs.Faults
import PegEngine.Proofs.Freshness
import PegEngine.Proofs.Memoization

/-!
# The cost of a parse that keeps results

A parse that keeps results counts no more expressions than a multiple of the
length of its input (`Session.expressions_le`).  Whatever is counted while a
node is evaluated is paid for with the share of the node, which is held from
then on (`Eval.memoized_charged`), since no result was kept for it before.  What
is counted for an expression of which no results are kept is charged to the node
around it (`Eval.evalNode_charged`); as a repetition may evaluate its body any
number of times, results of the body have to be kept.
-/

namespace PegEngine

open ParseState

/-- No repetition of a grammar has a body that uses the labels around it. -/
def Grammar.RepeatsApart {α σ : Type} (grammar : Grammar α σ) : Prop :=
  ∀ (place : ExprPlace) (body : Expr α σ),
    grammar.exprAt? place = some (.zeroOrMore body) ∨
        grammar.exprAt? place = some (.oneOrMore body) →
      body.usesScope = false

/-- What has been counted between two states, except for a charge, is paid for
with the shares of the results that have been kept since. -/
def ParseState.Charged {α σ : Type} (session : Session α σ) (charge : Nat)
    (before after : ParseState α σ) : Prop :=
  after.expressions + session.held before.memo ≤
    before.expressions + session.held after.memo + charge

/-- An evaluation has left the parse in good order for a charge. -/
structure ParseState.Proceeds {α σ : Type} (session : Session α σ)
    (good : MemoTable α → Prop) (charge : Nat) (before after : ParseState α σ) :
    Prop where
  ready : after.Ready session
  activeRules : after.activeRules = before.activeRules
  good : good after.memo
  charged : Charged session charge before after

namespace ParseState

variable {α σ : Type} {session other : Session α σ} {good : MemoTable α → Prop}
  {charge more : Nat} {before middle after last : ParseState α σ}

theorem charged_refl (session : Session α σ) (state : ParseState α σ) :
    Charged session 0 state state :=
  Nat.le_refl _

theorem Charged.trans (first : Charged session charge before middle)
    (second : Charged session more middle after) :
    Charged session (charge + more) before after := by
  unfold Charged at first second ⊢
  omega

theorem Charged.mono (charged : Charged session charge before after)
    (atMost : charge ≤ more) : Charged session more before after :=
  Nat.le_trans charged (Nat.add_le_add_left atMost _)

/-- Steps that neither count nor keep anything are free. -/
theorem Charged.steady (charged : Charged session charge before after)
    (steady : Steady other after last) : Charged session charge before last :=
    by
  rw [Charged, steady.expressions, steady.memo]
  exact charged

theorem Charged.leaveNode (charged : Charged session charge before after)
    (subject : Subject) :
    Charged session charge before (after.leaveNode other subject) := by
  rw [leaveNode_eq]
  exact charged

theorem Charged.enterNode (subject : Subject)
    (charged : Charged session charge (before.enterNode other subject) after) :
    Charged session charge before after := by
  rw [enterNode_eq] at charged
  exact charged

theorem Charged.bind (charged : Charged session charge before after)
    (label : String) (value : Value α) :
    Charged session charge before (after.bind label value) := by
  unfold ParseState.bind
  split <;> exact charged

theorem Proceeds.popScope
    (proceeds : Proceeds session good charge before.pushScope after) :
    Proceeds session good charge before after.popScope where
  ready := { proceeds.ready.toSound.popScope with
    within := proceeds.ready.within }
  activeRules := proceeds.activeRules
  good := proceeds.good
  charged := proceeds.charged

theorem Proceeds.runs {rule : Nat}
    (proceeds : Proceeds session good charge before after)
    (runs : before.Runs session rule) : after.Runs session rule :=
  runs.of_eq proceeds.activeRules

end ParseState

namespace Eval

variable {α σ β : Type} {session : Session α σ} {good : MemoTable α → Prop}
  {charge : Nat} {program : Eval α σ (Verdict α)} {state : ParseState α σ}

/-- What a program counts is covered by a charge. -/
def Costs (session : Session α σ) (charge : Nat) (program : Eval α σ β)
    (state : ParseState α σ) : Prop :=
  Ends program (fun _ => Charged session charge state) (fun _ => True) True
    state

/-- A program that ends leaves the parse in good order for a charge. -/
def Advances (session : Session α σ) (good : MemoTable α → Prop) (charge : Nat)
    (program : Eval α σ β) (state : ParseState α σ) : Prop :=
  Ends program (fun _ => Proceeds session good charge state) (fun _ => True)
    True state

/-- Every expression of the grammar is evaluated for what is not kept of it. -/
def MembersAdvance (session : Session α σ) (good : MemoTable α → Prop)
    (evaluate : ExprPlace → Expr α σ → Eval α σ (Verdict α)) : Prop :=
  ∀ (place : ExprPlace) (expr : Expr α σ) (state : ParseState α σ),
    session.grammar.exprAt? place = some expr → state.Ready session →
      state.Runs session place.rule → good state.memo →
        Advances session good expr.unkept (evaluate place expr) state

/-- Every rule of the grammar is evaluated for free. -/
def RulesCost (session : Session α σ) (good : MemoTable α → Prop)
    (evaluate : ExprPlace → Expr α σ → Eval α σ (Verdict α)) : Prop :=
  ∀ (rule : Rule α σ) (index : Nat) (state : ParseState α σ),
    session.grammar.rules[index]? = some rule → state.Ready session →
      good state.memo →
        Costs session 0 (evalRule session evaluate rule index) state

theorem costs_matcher {change : ParseState α σ → Verdict α × ParseState α σ}
    (steady : Steady session state (change state).2) :
    Costs session 0 (modifyGet change) state :=
  (charged_refl session state).steady steady

theorem Advances.inScope
    (advances : Advances session good charge program state.pushScope) :
    Advances session good charge (inScope program) state :=
  ends_inScope.mpr
    (Ends.mono_result advances fun _ _ proceeds => proceeds.popScope)

theorem costs_lookahead
    (costs : Costs session charge program state.pushScope) :
    Costs session charge (lookahead session program) state := by
  refine (ends_lookahead session).mpr (Ends.mono_result costs ?_)
  intro verdict after charged
  have popped : Charged session charge state after.popScope := charged
  exact popped.steady (steady_restore session state.cursor after.popScope)

theorem costs_evalPredicate (test : Predicate α σ) (expected : Bool) :
    Costs session 0 (evalPredicate session test expected) state := by
  simp only [Costs, evalPredicate, ends_bind, ends_cursor]
  rw [ends_runCode]
  rcases test (state.context session state.cursor .nil) with ⟨reply, store⟩
  cases reply with
  | answer holds =>
      dsimp only
      split <;> exact charged_refl session state
  | complaint message => exact charged_refl session state
  | failure fault => trivial

/-- An action costs what the expression costs on which it runs. -/
theorem costs_evalAction (run : Action α σ)
    (costs : Costs session charge program state) :
    Costs session charge (evalAction session run program) state := by
  simp only [Costs, evalAction, ends_bind, ends_cursor]
  refine Ends.mono_result costs ?_
  intro verdict after charged
  cases verdict with
  | matched value =>
      simp only [ends_bind, ends_modify]
      rw [ends_runCode]
      rcases run (after.context session state.cursor value) with ⟨reply, store⟩
      have stored : Charged session charge state
          { after with store := store } := charged
      have traced := stored.steady
        (steady_traceMatch session state.cursor { after with store := store })
      cases reply with
      | answer result => exact traced
      | complaint message => exact traced.steady (steady_report session _ _ _)
      | failure fault => trivial
  | unmatched => exact charged
  | aborted error => exact charged

section Members

variable {evaluate : ExprPlace → Expr α σ → Eval α σ (Verdict α)}
  {place : ExprPlace} {index : Nat}

theorem evalSequence_charged {exprs : List (Expr α σ)} (start : Cursor)
    (values : List (Value α)) (members : MembersAdvance session good evaluate)
    (lists : session.grammar.Lists place index exprs)
    (ready : state.Ready session) (runs : state.Runs session place.rule)
    (kept : good state.memo) :
    Costs session (exprs.map Expr.unkept).sum
      (evalSequence session evaluate place start index values exprs) state := by
  induction exprs generalizing index values state with
  | nil => exact charged_refl session state
  | cons expr exprs ih =>
      refine ends_bind.mpr (Ends.mono_result
        (members _ _ state lists.head ready runs kept) ?_)
      intro verdict after proceeds
      have atMost : expr.unkept ≤ ((expr :: exprs).map Expr.unkept).sum := by
        simp
      cases verdict with
      | matched value =>
          refine (ih (value :: values) lists.tail proceeds.ready
            (proceeds.runs runs) proceeds.good).mono_result ?_
          intro verdict last charged
          simpa using proceeds.charged.trans charged
      | unmatched =>
          exact (proceeds.charged.steady
            (steady_restore session start after)).mono atMost
      | aborted error => exact proceeds.charged.mono atMost

theorem evalChoice_charged {exprs : List (Expr α σ)}
    (members : MembersAdvance session good evaluate)
    (lists : session.grammar.Lists place index exprs)
    (ready : state.Ready session) (runs : state.Runs session place.rule)
    (kept : good state.memo) :
    Costs session (exprs.map Expr.unkept).sum
      (evalChoice evaluate place index exprs) state := by
  induction exprs generalizing index state with
  | nil => exact charged_refl session state
  | cons expr exprs ih =>
      have first := members _ _ state.pushScope lists.head ready.pushScope runs
        kept
      refine ends_bind.mpr (Ends.mono_result first.inScope ?_)
      intro verdict after proceeds
      have atMost : expr.unkept ≤ ((expr :: exprs).map Expr.unkept).sum := by
        simp
      cases verdict with
      | matched value => exact proceeds.charged.mono atMost
      | unmatched =>
          refine (ih lists.tail proceeds.ready (proceeds.runs runs)
            proceeds.good).mono_result ?_
          intro verdict last charged
          simpa using proceeds.charged.trans charged
      | aborted error => exact proceeds.charged.mono atMost

/-- Rounds that are free, each of them, are free all together. -/
theorem evalRounds_charged {rounds : Nat} (values : List (Value α))
    (member : ∀ inner : ParseState α σ, inner.Ready session →
      inner.Runs session index → good inner.memo →
        Advances session good 0 program inner)
    (ready : state.Ready session) (runs : state.Runs session index)
    (kept : good state.memo) :
    Costs session 0 (evalRounds program rounds values) state := by
  induction rounds generalizing values state with
  | zero => trivial
  | succ rounds ih =>
      have first := member state.pushScope ready.pushScope runs kept
      simp only [Costs, evalRounds, ends_bind, ends_cursor]
      refine Ends.mono_result first.inScope ?_
      intro verdict after proceeds
      cases verdict with
      | matched value =>
          simp only [ends_bind, ends_cursor]
          split
          · exact proceeds.charged
          · exact (ih (value :: values) proceeds.ready (proceeds.runs runs)
              proceeds.good).mono_result
                fun _ _ charged => proceeds.charged.trans charged
      | unmatched => exact proceeds.charged
      | aborted error => exact proceeds.charged

theorem evalRepetition_charged {required : Nat}
    (member : ∀ inner : ParseState α σ, inner.Ready session →
      inner.Runs session index → good inner.memo →
        Advances session good 0 program inner)
    (ready : state.Ready session) (runs : state.Runs session index)
    (kept : good state.memo) :
    Costs session 0 (evalRepetition session required program) state := by
  simp only [Costs, evalRepetition, ends_bind, ends_cursor]
  refine Ends.mono_result (evalRounds_charged [] member ready runs kept) ?_
  intro result after charged
  cases result with
  | ok values =>
      dsimp only
      split <;> exact charged
  | error error => exact charged

/-- What an expression does with its members costs what they cost, if the rules
to which it refers are free and so are the rounds of repetitions. -/
theorem evalNode_charged {expr : Expr α σ}
    (apart : session.grammar.RepeatsApart)
    (members : MembersAdvance session good evaluate)
    (rules : RulesCost session good evaluate)
    (found : session.grammar.exprAt? place = some expr)
    (ready : state.Ready session) (runs : state.Runs session place.rule)
    (kept : good state.memo) :
    Costs session (expr.members.map Expr.unkept).sum
      (evalNode session evaluate place expr) state := by
  have only : ∀ {body : Expr α σ}, expr.members = [body] →
      ∀ inner : ParseState α σ, inner.Ready session →
        inner.Runs session place.rule → good inner.memo →
          Advances session good (expr.members.map Expr.unkept).sum
            (evaluate (place.member 0) body) inner := by
    intro body isBody inner ready runs kept
    have member := members _ _ inner
      (Grammar.exprAt?_onlyMember found isBody) ready runs kept
    simpa [isBody] using member
  have free : ∀ {body : Expr α σ}, expr.members = [body] →
      body.usesScope = false → ∀ inner : ParseState α σ, inner.Ready session →
        inner.Runs session place.rule → good inner.memo →
          Advances session good 0 (evaluate (place.member 0) body) inner := by
    intro body isBody unscoped inner ready runs kept
    have member := members _ _ inner
      (Grammar.exprAt?_onlyMember found isBody) ready runs kept
    rwa [Expr.unkept_eq, unscoped] at member
  cases expr with
  | literal text ignoresCase => exact costs_matcher (steady_matchLiteral ..)
  | oneOf charClass => exact costs_matcher (steady_matchChar ..)
  | any => exact costs_matcher (steady_matchChar ..)
  | sequence exprs =>
      simp only [Costs, evalNode, ends_bind, ends_cursor]
      exact evalSequence_charged state.cursor [] members
        (Grammar.lists_members found) ready runs kept
  | choice exprs =>
      exact evalChoice_charged members (Grammar.lists_members found) ready runs
        kept
  | zeroOrMore body =>
      have unscoped := apart place body (.inl found)
      exact (evalRepetition_charged (free rfl unscoped) ready runs
        kept).mono_result fun _ _ charged => charged.mono (Nat.zero_le _)
  | oneOrMore body =>
      have unscoped := apart place body (.inr found)
      exact (evalRepetition_charged (free rfl unscoped) ready runs
        kept).mono_result fun _ _ charged => charged.mono (Nat.zero_le _)
  | optional body =>
      have member := only rfl state.pushScope ready.pushScope runs kept
      refine ends_bind.mpr (Ends.mono_result member.inScope ?_)
      intro verdict after proceeds
      cases verdict <;> exact proceeds.charged
  | followedBy body =>
      have member := only rfl state.pushScope ready.pushScope runs kept
      have looks := costs_lookahead (Ends.mono_result member
        fun _ _ proceeds => proceeds.charged)
      refine ends_bind.mpr (Ends.mono_result looks ?_)
      intro verdict after charged
      cases verdict <;> exact charged
  | notFollowedBy body =>
      have member := only rfl state.pushScope.toggle ready.pushScope.toggle runs
        kept
      have looks := costs_lookahead (ends_underNot.mpr (Ends.mono_result member
        fun _ _ proceeds => proceeds.charged))
      refine ends_bind.mpr (Ends.mono_result looks ?_)
      intro verdict after charged
      cases verdict <;> exact charged
  | labeled label body =>
      have member := only rfl state.pushScope ready.pushScope runs kept
      refine ends_bind.mpr (Ends.mono_result member.inScope ?_)
      intro verdict after proceeds
      cases verdict with
      | matched value => exact proceeds.charged.bind label value
      | unmatched => exact proceeds.charged
      | aborted error => exact proceeds.charged
  | reference name =>
      simp only [evalNode, evalReference]
      split
      · exact charged_refl session state
      · cases target : session.grammar.target? name with
        | some callee =>
            exact rules callee.1 callee.2 state (Grammar.rule_of_target? target)
              ready kept
        | none => exact charged_refl session state
  | action body run =>
      exact costs_evalAction run (Ends.mono_result (only rfl state ready runs
        kept) fun _ _ proceeds => proceeds.charged)
  | require test => exact costs_evalPredicate test true
  | forbid test => exact costs_evalPredicate test false

end Members

/-- Counting an expression costs one more than evaluating it. -/
theorem costs_counted (expr : Expr α σ)
    (costs : Costs session charge program
      (state.countExpression.enterNode session
        (.expression expr.kindName))) :
    Costs session (charge + 1) (counted session expr program) state := by
  have counts : ∀ {after : ParseState α σ},
      Charged session charge state.countExpression after →
        Charged session (charge + 1) state after := by
    intro after charged
    unfold Charged at charged ⊢
    change _ ≤ state.expressions + 1 + _ + charge at charged
    change _ + session.held state.memo ≤ _ at charged
    omega
  rw [Costs, ends_counted]
  split
  · exact counts ((charged_refl session _).mono (Nat.zero_le _))
  · refine (ends_traced session _).mpr (Ends.mono_result costs ?_)
    intro verdict after charged
    exact (counts (charged.enterNode _)).leaveNode _

/-- Running a rule costs what its body costs. -/
theorem costs_runRule {rule : Rule α σ}
    (costs : Costs session charge program
      ((state.enterNode session (.rule rule.name)).enterRule rule)) :
    Costs session charge (runRule session rule program) state := by
  refine (ends_runRule session rule).mpr ((ends_traced session _).mpr
    ((ends_inRule rule).mpr (Ends.mono_result costs ?_)))
  intro verdict after charged
  have left : Charged session charge
      (state.enterNode session (.rule rule.name)) after.leaveRule := charged
  have behind : Charged session charge state
      (after.leaveRule.leaveNode session (.rule rule.name)) :=
    (left.enterNode _).leaveNode _
  cases verdict with
  | matched value => exact behind.steady (steady_traceMatch session _ _)
  | unmatched => exact behind
  | aborted error => exact behind

section Keeping

variable {ample : Nat} (valid : session.grammar.error? = none)
  (free : session.grammar.StoreFree)
  (unlimited : session.options.maxExpressions = none)
  (enough : Suffices session ample)
include valid free unlimited enough

/-- Evaluating a node whose result is kept is free: either the result is
replayed, or the evaluation is paid for with the share of the node, which is
held from then on. -/
theorem memoized_charged {node : NodeKey} {depth share : Nat}
    {bindsLabels : Bool} {spans : Value α → Nat → Prop}
    (isShare : (node, share) ∈ session.grammar.shares)
    (meets : state.Meets session (state.memoKey node))
    (founded : state.memo.Founded session ample)
    (settles : Settles (session.memoizing true) True bindsLabels spans
      state.cursor
      (memoized (session.memoizing true) true node
        (evalUnkept (session.memoizing true) depth node)) state)
    (costs : Costs (session.memoizing true) share
      (evalUnkept (session.memoizing true) depth node) state) :
    Costs (session.memoizing true) 0
      (memoized (session.memoizing true) true node
        (evalUnkept (session.memoizing true) depth node)) state := by
  rw [Costs, ends_memoized, if_pos rfl]
  cases kept : state.memo.lookup (state.memoKey node) with
  | some entry =>
      exact (charged_refl _ state).steady
        (steady_restore (session.memoizing true) entry.finish state)
  | none =>
      refine Ends.mono_run costs fun verdict after run charged => ?_
      have fresh := fresh_of_evalUnkept valid free unlimited enough meets
        founded kept run
      have boundary : Decoded.Boundary session.input
          (state.memoKey node).offset := meets.ready.stands.boundary
      have pays (value : Option (Value α)) :
          Charged (session.memoizing true) 0 state
            (after.remember (state.memoKey node) value) := by
        have held := Session.held_store fresh
          (Session.mem_shares boundary isShare) ⟨value, after.cursor⟩
        unfold Charged at charged ⊢
        change after.expressions + session.held state.memo ≤
          state.expressions + session.held after.memo + share at charged
        change after.expressions + session.held state.memo ≤
          state.expressions + session.held (after.memo.store _ _) + 0
        omega
      cases verdict with
      | matched value => exact pays (some value)
      | unmatched => exact pays none
      | aborted error =>
          have whole : memoized (session.memoizing true) true node
              (evalUnkept (session.memoizing true) depth node) state =
                .ok (.aborted error) after := by
            rw [memoized_of_not_kept kept]
            simp only [Bind.bind, EStateM.bind, run]
            rfl
          obtain ⟨-, limit, limited, -⟩ := (settles.result whole).describes
          cases unlimited.symm.trans limited

theorem rules_charged {depth : Nat}
    (members : MembersAdvance (session.memoizing true)
      (MemoTable.Founded session ample)
      (evalExpr (session.memoizing true) depth)) :
    RulesCost (session.memoizing true) (MemoTable.Founded session ample)
      (evalExpr (session.memoizing true) depth) := by
  intro rule index state isRule ready founded
  have isRuleHere : session.grammar.rules[index]? = some rule := isRule
  have isNode := evalUnkept_rule (session.memoizing true) isRule depth
  have body := members (.body index) rule.body
    ((state.enterNode (session.memoizing true) (.rule rule.name)).enterRule
      rule) (Grammar.exprAt?_body isRule) ((ready.enterNode _).enterRule rule)
    (runs_enterRule isRule) (by rw [enterNode_eq]; exact founded)
  have costs := costs_runRule (Ends.mono_result body
    fun _ _ proceeds => proceeds.charged)
  have settles := evalRule_memoizing_settles valid true depth isRule ready
  rw [← isNode] at costs
  unfold evalRule at settles ⊢
  rw [← isNode] at settles ⊢
  exact memoized_charged valid free unlimited enough
    (Grammar.mem_shares_of_rule isRuleHere)
    (meets_rule (ready_memoizing true false ready) rfl rfl index) founded
    settles costs

section Expressions

variable (apart : session.grammar.RepeatsApart) {depth : Nat}
  {place : ExprPlace} {expr : Expr α σ}
include apart

/-- Evaluating an expression of which no result is kept costs its charge. -/
theorem evalUnkept_charged
    (members : MembersAdvance (session.memoizing true)
      (MemoTable.Founded session ample)
      (evalExpr (session.memoizing true) depth))
    (found : session.grammar.exprAt? place = some expr)
    (ready : state.Ready (session.memoizing true))
    (runs : state.Runs (session.memoizing true) place.rule)
    (founded : state.memo.Founded session ample) :
    Costs (session.memoizing true) expr.charge
      (evalUnkept (session.memoizing true) (depth + 1) (.expression place))
      state := by
  have counted : state.countExpression.Ready (session.memoizing true) :=
    { ready.toSound with within := .of_unlimited unlimited }
  rw [evalUnkept_expression (session.memoizing true) found depth]
  exact costs_counted expr (evalNode_charged apart members
    (rules_charged valid free unlimited enough members) found
    (counted.enterNode _) (runs.of_eq (by rw [enterNode_eq]; rfl))
    (by rw [enterNode_eq]; exact founded))

/-- Evaluating an expression costs what is not kept of it. -/
theorem evalExpr_charged
    (members : MembersAdvance (session.memoizing true)
      (MemoTable.Founded session ample)
      (evalExpr (session.memoizing true) depth))
    (found : session.grammar.exprAt? place = some expr)
    (ready : state.Ready (session.memoizing true))
    (runs : state.Runs (session.memoizing true) place.rule)
    (founded : state.memo.Founded session ample) :
    Costs (session.memoizing true) expr.unkept
      (evalExpr (session.memoizing true) (depth + 1) place expr) state := by
  have charged := evalUnkept_charged valid free unlimited enough apart members
    found ready runs founded
  have settles := evalExpr_memoizing_settles valid true (depth + 1) found ready
    runs
  unfold evalExpr visit at settles ⊢
  rw [← evalUnkept_expression (session.memoizing true) found depth]
    at settles ⊢
  rw [Expr.unkept_eq]
  cases uses : expr.usesScope with
  | true => exact charged
  | false =>
      rw [uses] at settles
      have share : expr.share = expr.charge := by
        simp [Expr.share, uses]
      have meets := meets_expression found uses
        (ready_memoizing true false ready) runs rfl rfl
      exact memoized_charged valid free unlimited enough
        (Grammar.mem_shares_of_expr found) meets founded settles
        (share ▸ charged)

/-- An expression is evaluated for what is not kept of it. -/
theorem evalExpr_advances (depth : Nat) :
    MembersAdvance (session.memoizing true) (MemoTable.Founded session ample)
      (evalExpr (session.memoizing true) depth) := by
  induction depth with
  | zero => exact fun _ _ _ _ _ _ _ => trivial
  | succ depth ih =>
      intro place expr state found ready runs founded
      have costs := evalExpr_charged valid free unlimited enough apart ih found
        ready runs founded
      have settles := evalExpr_memoizing_settles valid true (depth + 1) found
        ready runs
      -- What is kept is founded, since a parse without kept results follows.
      have abreast : Abreast session false (Record.Founds session ample) True
          state state := .of_ready founded ready
      have unfolds := evalExpr_unfolds valid free unlimited enough (depth + 1)
        place expr True state state found (fun _ => trivial) abreast runs runs
      refine (costs.and settles).mono_run ?_
      rintro verdict after run ⟨charged, settled⟩
      obtain ⟨last, -, stride⟩ := unfolds.result verdict after run
      exact ⟨settled.sound.ready (.of_unlimited unlimited),
        settled.balanced.activeRules, stride.records, charged⟩

end Expressions

end Keeping

end Eval

namespace Session

variable {α σ : Type} {session : Session α σ}

/-- What the evaluation of the entry rule counts is bounded. -/
theorem entering_expressions_le {entry : Rule α σ} {depth : Nat}
    {verdict : Verdict α} {after : ParseState α σ}
    (valid : session.grammar.error? = none)
    (free : session.grammar.StoreFree)
    (unlimited : session.options.maxExpressions = none)
    (apart : session.grammar.RepeatsApart)
    (starts : session.grammar.start? = some entry)
    (run : (session.memoizing true).entering depth entry = .ok verdict after) :
    after.expressions ≤
      2 * session.grammar.size * (Decoded.count session.input + 1) := by
  obtain ⟨ample, enough⟩ := Eval.exists_suffices session
  have members :=
    Eval.evalExpr_advances valid free unlimited enough apart depth
  have costs := Eval.rules_charged valid free unlimited enough members entry 0
    (session.memoizing true).opening (Grammar.entry_of_start? starts)
    (opening_ready _) (session.founded_opening true ample)
  have charged : after.expressions +
      session.held (session.memoizing true).opening.memo ≤
        (session.memoizing true).opening.expressions +
          session.held after.memo + 0 := Eval.Ends.result costs run
  have atFirst : (session.memoizing true).opening.expressions = 0 := by
    rw [opening, (steady_read _ _).expressions]
    rfl
  have bound := session.held_le after.memo
  omega

/-- A parse that keeps results and completes counts no more expressions than
twice those of the grammar for each code point of the input and for its end,
provided that the bodies of repetitions do not use the labels around them, that
the code of the grammar does not base its replies on the store, and that
expressions are not limited. -/
theorem expressions_le (session : Session α σ)
    (free : session.grammar.StoreFree)
    (unlimited : session.options.maxExpressions = none)
    (apart : session.grammar.RepeatsApart) {parsed : Parsed α}
    {log : Array LogEntry}
    (gives : (session.memoizing true).Gives ⟨.parsed parsed, log⟩)
    (completes : ∀ fault after,
      ¬ (session.memoizing true).FailsIn fault after) :
    parsed.expressions ≤
      2 * session.grammar.size * (Decoded.count session.input + 1) := by
  cases verdict : session.grammar.error? with
  | some error =>
      have rejected : ∃ log : LogEntry, (session.memoizing true).Gives
          ((session.memoizing true).reject log error) :=
        gives_of_invalid verdict
      obtain ⟨entry, rejected⟩ := rejected
      cases gives.unique rejected
      exact Nat.zero_le _
  | none =>
      obtain ⟨entry, starts⟩ := Grammar.start?_of_valid verdict
      have startsHere : (session.memoizing true).grammar.start? = some entry :=
        starts
      obtain ⟨depth, reported⟩ := (gives_iff startsHere verdict).mp gives
      rcases run : (session.memoizing true).entering depth entry with
        ⟨result, after⟩ | ⟨interrupt, after⟩
      all_goals rw [run] at reported
      · have bound :=
          entering_expressions_le verdict free unlimited apart starts run
        cases result with
        | matched value =>
            cases reported
            exact bound
        | unmatched =>
            cases reported
            rwa [expressions_reportNoMatch]
        | aborted error =>
            cases reported
            exact bound
      · cases interrupt with
        | exhausted => cases reported
        | fault fault =>
            exact absurd ⟨verdict, entry, depth, starts, run⟩
              (completes fault after)

end Session

namespace Grammar

/-- Any number of greetings, in each of which the second alternative finds the
word again that the first one has matched. -/
def greetings : Grammar Unit :=
  ⟨⟨"Greetings", "", .zeroOrMore (.reference "Greeting")⟩ ::
    retrying.rules⟩

def greetingsSession : Session Unit :=
  .ofSettings greetings "" "hi?hi!hi?".toUTF8 []

theorem repeatsApart_greetings : greetings.RepeatsApart := by
  rintro place body (found | found)
  all_goals
    have isPlaced := mem_placed found
    simp [placed, greetings, retrying, Expr.placed, Expr.placedAll,
      Expr.exactly] at isPlaced
  rw [isPlaced.2]
  rfl

theorem greetings_expressions_le :
    greetings.StoreFree ∧ greetingsSession.options.maxExpressions = none ∧
      greetings.RepeatsApart ∧
      ∃ parsed log,
        (greetingsSession.memoizing true).Gives ⟨.parsed parsed, log⟩ ∧
          (∀ fault after,
            ¬ (greetingsSession.memoizing true).FailsIn fault after) ∧
          parsed.expressions = 36 ∧
          parsed.expressions ≤ 2 * greetings.size *
            (Decoded.count greetingsSession.input + 1) := by
  have free : greetings.StoreFree := by
    simp [StoreFree, greetings, retrying, Expr.StoreFree, Expr.AllStoreFree,
      Code.StoreFree, mark, Expr.exactly]
  have counts : (((greetingsSession.memoizing true).parseWithin 8).bind
      ParseReport.parsed?).map
        (fun parsed => (parsed.value.isSome, parsed.expressions)) =
      some (true, 36) := by
    decide +kernel
  obtain ⟨parsed, isParsed, same⟩ := Option.map_eq_some_iff.mp counts
  obtain ⟨hasValue, isCount⟩ := Prod.mk.inj same
  obtain ⟨log, gives⟩ := Session.gives_of_parsed? isParsed
  have completes : ∀ fault after,
      ¬ (greetingsSession.memoizing true).FailsIn fault after := by
    intro fault after fails
    obtain ⟨logToo, givesToo⟩ := fails.gives rfl
    cases gives.unique givesToo
    cases hasValue
  exact ⟨free, rfl, repeatsApart_greetings, parsed, log, gives, completes,
    isCount, Session.expressions_le greetingsSession free rfl
      repeatsApart_greetings gives completes⟩

end Grammar

end PegEngine
