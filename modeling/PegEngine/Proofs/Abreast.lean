import PegEngine.Proofs.Combinators
import PegEngine.Proofs.Levels
import PegEngine.Proofs.Pairing

/-!
# Parses that keep abreast

An expression leads two parses from one point that they share to another
(`Eval.evalNode_paired`) if its members and the rules to which it refers do,
provided that the code of the grammar does not base its replies on the store
(`Grammar.StoreFree`).  The same lemma serves to compare a parse with itself at
another time, and with one that keeps results.
-/

namespace PegEngine

open ParseState

/-- Code whose replies do not depend on the store. -/
def Code.StoreFree {α σ β : Type} (code : Code α σ β) : Prop :=
  ∀ (context : MatchContext α σ) (store : Store σ),
    (code { context with store := store }).1 = (code context).1

namespace Expr

variable {α σ : Type}

mutual

/-- No code in an expression bases its replies on the store. -/
def StoreFree : Expr α σ → Prop
  | .literal _ _ | .oneOf _ | .any | .reference _ => True
  | .sequence members => AllStoreFree members
  | .choice alternatives => AllStoreFree alternatives
  | .zeroOrMore body | .oneOrMore body | .optional body | .followedBy body
  | .notFollowedBy body | .labeled _ body => body.StoreFree
  | .action body run => body.StoreFree ∧ Code.StoreFree run
  | .require test | .forbid test => Code.StoreFree test

/-- No code in any of some expressions bases its replies on the store. -/
def AllStoreFree : List (Expr α σ) → Prop
  | [] => True
  | expr :: exprs => expr.StoreFree ∧ AllStoreFree exprs

end

theorem AllStoreFree.of_mem {exprs : List (Expr α σ)} {expr : Expr α σ}
    (free : AllStoreFree exprs) (isMember : expr ∈ exprs) : expr.StoreFree := by
  induction exprs with
  | nil => cases isMember
  | cons first later ih =>
      rcases List.mem_cons.mp isMember with rfl | isLater
      · exact free.1
      · exact ih free.2 isLater

theorem StoreFree.member {expr member : Expr α σ} (free : expr.StoreFree)
    (isMember : member ∈ expr.members) : member.StoreFree := by
  cases expr with
  | sequence exprs => exact AllStoreFree.of_mem free isMember
  | choice exprs => exact AllStoreFree.of_mem free isMember
  | zeroOrMore body | oneOrMore body | optional body | followedBy body
  | notFollowedBy body | labeled label body =>
      obtain rfl := List.mem_singleton.mp isMember
      exact free
  | action body run =>
      obtain rfl := List.mem_singleton.mp isMember
      exact free.1
  | literal text ignoresCase | oneOf charClass | any | reference name
  | require test | forbid test =>
      cases isMember

end Expr

namespace Grammar

variable {α σ : Type} {grammar : Grammar α σ}

/-- No code of a grammar bases its replies on the store. -/
def StoreFree (grammar : Grammar α σ) : Prop :=
  ∀ rule ∈ grammar.rules, rule.body.StoreFree

theorem StoreFree.exprAt? {place : ExprPlace} {expr : Expr α σ}
    (free : grammar.StoreFree) (found : grammar.exprAt? place = some expr) :
    expr.StoreFree :=
  of_exprAt? free Expr.StoreFree.member found

end Grammar

namespace Eval

variable {α σ : Type}

/-- Two parses have stopped at the same point, where nothing but a report can
follow. -/
structure Stopped (related : Record α σ → Record α σ → Prop)
    (left right : ParseState α σ) : Prop where
  cursor : right.cursor = left.cursor
  sameRule : SameRule left right
  records : related left.record right.record

/-- Two parses are at the same point, and evaluation can go on in both. -/
structure Abreast (session : Session α σ) (flag : Bool)
    (related : Record α σ → Record α σ → Prop) (shared : Prop)
    (left right : ParseState α σ) : Prop
    extends Level related shared left right where
  ready : left.Ready (session.memoizing false)
  readyToo : right.Ready (session.memoizing flag)

/-- An evaluation has kept two parses abreast. -/
structure Stride (session : Session α σ) (flag : Bool)
    (related : Record α σ → Record α σ → Prop) (shared : Prop)
    (left right after afterToo : ParseState α σ) : Prop
    extends Abreast session flag related shared after afterToo where
  balanced : Balanced left after
  balancedToo : Balanced right afterToo

/-- Whatever is evaluated in a place of the grammar keeps two parses abreast,
which share their labels if the expression uses some. -/
def KeepsAbreast (session : Session α σ) (flag : Bool)
    (related : Record α σ → Record α σ → Prop)
    (evaluate evaluateToo : ExprPlace → Expr α σ → Eval α σ (Verdict α)) :
    Prop :=
  ∀ (place : ExprPlace) (expr : Expr α σ) (shared : Prop)
    (left right : ParseState α σ),
    session.grammar.exprAt? place = some expr →
      (expr.usesScope = true → shared) →
        Abreast session flag related shared left right →
          left.Runs session place.rule → right.Runs session place.rule →
            Paired (evaluate place expr) (evaluateToo place expr)
              (fun _ => Stride session flag related shared left right)
              (Stopped related) left right

/-- Every rule leads two parses from one point to another. -/
def RulesKeepAbreast (session : Session α σ) (flag : Bool)
    (related : Record α σ → Record α σ → Prop)
    (evaluate evaluateToo : ExprPlace → Expr α σ → Eval α σ (Verdict α)) :
    Prop :=
  ∀ (rule : Rule α σ) (index : Nat) (shared : Prop)
    (left right : ParseState α σ),
    session.grammar.rules[index]? = some rule →
      Abreast session flag related shared left right →
        Paired (evalRule (session.memoizing false) evaluate rule index)
          (evalRule (session.memoizing flag) evaluateToo rule index)
          (fun _ => Level related shared) (Stopped related) left right

variable {session : Session α σ} {flag : Bool}
  {related : Record α σ → Record α σ → Prop} {shared : Prop}
  {left right after afterToo : ParseState α σ}

theorem Abreast.pushScope
    (abreast : Abreast session flag related shared left right) :
    Abreast session flag related True left.pushScope right.pushScope :=
  { abreast with
    labels := fun _ =>
      (ScopeStack.top_push abreast.readyToo.spare).trans
        (ScopeStack.top_push abreast.ready.spare).symm
    ready := abreast.ready.pushScope
    readyToo := abreast.readyToo.pushScope }

theorem Abreast.toggle
    (abreast : Abreast session flag related shared left right) :
    Abreast session flag related shared left.toggle right.toggle :=
  { abreast.toLevel.toggle with
    ready := abreast.ready.toggle
    readyToo := abreast.readyToo.toggle }

theorem Stride.runs {rule : Nat}
    (stride : Stride session flag related shared left right after afterToo)
    (runs : left.Runs session rule) : after.Runs session rule :=
  runs.of_eq stride.balanced.activeRules

theorem Stride.runsToo {rule : Nat}
    (stride : Stride session flag related shared left right after afterToo)
    (runs : right.Runs session rule) : afterToo.Runs session rule :=
  runs.of_eq stride.balancedToo.activeRules

theorem Stride.popScope
    (stride : Stride session flag related True left.pushScope right.pushScope
      after afterToo)
    (labels : shared → right.scopes.top = left.scopes.top) :
    Stride session flag related shared left right after.popScope
      afterToo.popScope where
  cursor := stride.cursor
  inverted := stride.inverted
  labels isShared := by
    rw [stride.balanced.top_popScope, stride.balancedToo.top_popScope,
      labels isShared]
  records := stride.records
  ready := { stride.ready.toSound.popScope with within := stride.ready.within }
  readyToo :=
    { stride.readyToo.toSound.popScope with within := stride.readyToo.within }
  balanced := stride.balanced.popScope
  balancedToo := stride.balancedToo.popScope

theorem Stride.toggle
    (stride : Stride session flag related shared left.toggle right.toggle
      after afterToo) :
    Stride session flag related shared left right after.toggle
      afterToo.toggle :=
  { stride.toAbreast.toggle with
    balanced := stride.balanced.toggle
    balancedToo := stride.balancedToo.toggle }

theorem Abreast.countExpression (stable : Record.Stable related)
    (unlimited : session.options.maxExpressions = none)
    (abreast : Abreast session flag related shared left right) :
    Abreast session flag related shared left.countExpression
      right.countExpression :=
  { abreast.toLevel.countExpression stable with
    ready := { abreast.ready with within := .of_unlimited unlimited }
    readyToo := { abreast.readyToo with within := .of_unlimited unlimited } }

theorem Abreast.enterNode (subject : Subject)
    (abreast : Abreast session flag related shared left right) :
    Abreast session flag related shared
      (left.enterNode (session.memoizing false) subject)
      (right.enterNode (session.memoizing flag) subject) :=
  { abreast.toLevel.enterNode subject with
    ready := abreast.ready.enterNode subject
    readyToo := abreast.readyToo.enterNode subject }

theorem Abreast.enterRule (rule : Rule α σ)
    (abreast : Abreast session flag related shared left right) :
    Abreast session flag related True (left.enterRule rule)
      (right.enterRule rule) :=
  { abreast.pushScope with
    ready := abreast.ready.enterRule rule
    readyToo := abreast.readyToo.enterRule rule }

theorem Stride.leaveRule {rule : Rule α σ}
    (stride : Stride session flag related True (left.enterRule rule)
      (right.enterRule rule) after afterToo)
    (labels : shared → right.scopes.top = left.scopes.top) :
    Level related shared after.leaveRule afterToo.leaveRule := by
  have popped : Stride session flag related shared
      { left with activeRules := rule :: left.activeRules }
      { right with activeRules := rule :: right.activeRules }
      after.popScope afterToo.popScope :=
    Stride.popScope stride labels
  exact { popped.toLevel with }

section Members

variable {evaluate evaluateToo : ExprPlace → Expr α σ → Eval α σ (Verdict α)}
  {first second : Eval α σ (Verdict α)} {index : Nat}

/-- In a scope of its own an evaluation does not see the labels around it. -/
theorem inScope_paired
    (abreast : Abreast session flag related shared left right)
    (paired : Paired first second
      (fun _ => Stride session flag related True left.pushScope right.pushScope)
      (Stopped related) left.pushScope right.pushScope) :
    Paired (inScope first) (inScope second)
      (fun _ => Stride session flag related shared left right) (Stopped related)
      left right :=
  paired_inScope (paired.imp
    (fun _ _ _ stride => stride.popScope abreast.labels))

theorem evalSequence_paired {place : ExprPlace} {exprs : List (Expr α σ)}
    (start : Cursor) (values : List (Value α))
    (members : KeepsAbreast session flag related evaluate evaluateToo)
    (lists : session.grammar.Lists place index exprs)
    (uses : Expr.anyUsesScope exprs = true → shared)
    (abreast : Abreast session flag related shared left right)
    (runs : left.Runs session place.rule)
    (runsToo : right.Runs session place.rule) :
    Paired
      (evalSequence (session.memoizing false) evaluate place start index values
        exprs)
      (evalSequence (session.memoizing flag) evaluateToo place start index
        values exprs)
      (fun _ => Level related shared) (Stopped related) left right := by
  induction exprs generalizing index values left right with
  | nil => exact paired_pure abreast.toLevel
  | cons expr exprs ih =>
      have usesFirst : expr.usesScope = true → shared := fun used =>
        uses (by simp [Expr.anyUsesScope, used])
      have usesLater : Expr.anyUsesScope exprs = true → shared := fun used =>
        uses (by simp [Expr.anyUsesScope, used])
      have first := members _ _ shared _ _ lists.head usesFirst abreast runs
        runsToo
      apply paired_bind
      apply first.imp
      intro verdict after afterToo stride
      cases verdict with
      | matched value =>
          exact ih (value :: values) lists.tail usesLater stride.toAbreast
            (stride.runs runs) (stride.runsToo runsToo)
      | unmatched =>
          exact paired_bind (paired_modify (paired_pure
            (stride.toLevel.restore start)))
      | aborted error => exact paired_pure stride.toLevel

theorem evalChoice_paired {place : ExprPlace} {exprs : List (Expr α σ)}
    (members : KeepsAbreast session flag related evaluate evaluateToo)
    (lists : session.grammar.Lists place index exprs)
    (abreast : Abreast session flag related shared left right)
    (runs : left.Runs session place.rule)
    (runsToo : right.Runs session place.rule) :
    Paired (evalChoice evaluate place index exprs)
      (evalChoice evaluateToo place index exprs)
      (fun _ => Level related shared) (Stopped related) left right := by
  induction exprs generalizing index left right with
  | nil => exact paired_pure abreast.toLevel
  | cons expr exprs ih =>
      have first := members _ _ True _ _ lists.head (fun _ => trivial)
        abreast.pushScope runs runsToo
      apply paired_bind
      apply (inScope_paired abreast first).imp
      intro verdict after afterToo stride
      cases verdict with
      | matched value => exact paired_pure stride.toLevel
      | unmatched =>
          exact ih lists.tail stride.toAbreast
            (stride.runs runs) (stride.runsToo runsToo)
      | aborted error => exact paired_pure stride.toLevel

theorem evalRounds_paired {rounds : Nat} (values : List (Value α))
    (member : ∀ left right : ParseState α σ,
      Abreast session flag related True left right →
        left.Runs session index → right.Runs session index →
          Paired first second
            (fun _ => Stride session flag related True left right)
            (Stopped related) left right)
    (abreast : Abreast session flag related shared left right)
    (runs : left.Runs session index) (runsToo : right.Runs session index) :
    Paired (evalRounds first rounds values) (evalRounds second rounds values)
      (fun _ => Level related shared) (Stopped related) left right := by
  induction rounds generalizing values left right with
  | zero => exact .of_exhausted rfl
  | succ rounds ih =>
      have inside := member _ _ abreast.pushScope runs runsToo
      apply paired_bind
      apply paired_cursor abreast.cursor
      apply paired_bind
      apply (inScope_paired abreast inside).imp
      intro verdict after afterToo stride
      cases verdict with
      | matched value =>
          apply paired_bind
          apply paired_cursor stride.cursor
          split
          · exact paired_pure stride.toLevel
          · exact ih (value :: values) stride.toAbreast
              (stride.runs runs) (stride.runsToo runsToo)
      | unmatched => exact paired_pure stride.toLevel
      | aborted error => exact paired_pure stride.toLevel

theorem evalRepetition_paired {required : Nat}
    (member : ∀ left right : ParseState α σ,
      Abreast session flag related True left right →
        left.Runs session index → right.Runs session index →
          Paired first second
            (fun _ => Stride session flag related True left right)
            (Stopped related) left right)
    (abreast : Abreast session flag related shared left right)
    (runs : left.Runs session index) (runsToo : right.Runs session index) :
    Paired (evalRepetition (session.memoizing false) required first)
      (evalRepetition (session.memoizing flag) required second)
      (fun _ => Level related shared) (Stopped related) left right := by
  apply paired_bind
  apply paired_cursor abreast.cursor
  apply paired_bind
  apply (evalRounds_paired [] member abreast runs runsToo).imp
  intro result after afterToo level
  cases result with
  | ok values =>
      dsimp only
      split
      · exact paired_pure level
      · exact paired_pure level
  | error error => exact paired_pure level

theorem lookahead_paired
    (abreast : Abreast session flag related shared left right)
    (paired : Paired first second
      (fun _ => Stride session flag related True left.pushScope right.pushScope)
      (Stopped related) left.pushScope right.pushScope) :
    Paired (lookahead (session.memoizing false) first)
      (lookahead (session.memoizing flag) second)
      (fun _ => Level related shared) (Stopped related) left right :=
  paired_lookahead abreast.cursor (paired.imp
    (fun _ _ _ stride =>
      (stride.popScope abreast.labels).toLevel.restore left.cursor))

/-- Code that does not base its replies on the store replies the same in both
parses if they share their labels. -/
theorem runCode_paired {β : Type} {code : Code α σ β} {start : Cursor}
    {value : Value α} (free : code.StoreFree)
    (level : Level related True left right) (same : SameRule left right) :
    Paired (runCode (session.memoizing false) code start value)
      (runCode (session.memoizing flag) code start value)
      (fun _ after afterToo => Level related True after afterToo ∧
        SameRule after afterToo)
      (Stopped related) left right := by
  refine paired_runCode ?_ ?_ ?_
  · have context : right.context (session.memoizing flag) start value =
        { left.context (session.memoizing false) start value with
          store := right.store } := by
      unfold ParseState.context
      rw [level.textFrom, level.labels trivial]
    rw [context]
    exact free _ _
  · intro reply store storeToo
    exact ⟨{ level with }, same⟩
  · intro store storeToo
    exact ⟨level.cursor, same, level.records⟩

theorem evalAction_paired {run : Action α σ} (stable : Record.Stable related)
    (free : Code.StoreFree run) (cursor : right.cursor = left.cursor)
    (runs : left.Runs session index) (runsToo : right.Runs session index)
    (paired : Paired first second
      (fun _ => Stride session flag related True left right) (Stopped related)
      left right) :
    Paired (evalAction (session.memoizing false) run first)
      (evalAction (session.memoizing flag) run second)
      (fun _ => Level related True) (Stopped related) left right := by
  apply paired_bind
  apply paired_cursor cursor
  apply paired_bind
  apply paired.imp
  intro verdict after afterToo stride
  have same : SameRule after afterToo :=
    .of_runs (stride.runs runs) (stride.runsToo runsToo)
  cases verdict with
  | matched value =>
      apply paired_bind
      apply (runCode_paired free stride.toLevel same).imp
      rintro reply last lastToo ⟨level, sameRule⟩
      apply paired_bind
      apply paired_modify
      have traced : Level related True
          (last.traceMatch (session.memoizing false) left.cursor)
          (lastToo.traceMatch (session.memoizing flag) left.cursor) :=
        level.traceMatch left.cursor
      cases reply with
      | ok result => exact paired_pure traced
      | error message =>
          refine paired_bind (paired_modify (paired_pure ?_))
          exact traced.report stable (sameRule.steady
            (steady_traceMatch _ _ last) (steady_traceMatch _ _ lastToo)) _ _
  | unmatched => exact paired_pure stride.toLevel
  | aborted error => exact paired_pure stride.toLevel

theorem evalPredicate_paired {test : Predicate α σ} {expected : Bool}
    (stable : Record.Stable related) (free : Code.StoreFree test)
    (level : Level related True left right) (same : SameRule left right) :
    Paired (evalPredicate (session.memoizing false) test expected)
      (evalPredicate (session.memoizing flag) test expected)
      (fun _ => Level related True) (Stopped related) left right := by
  apply paired_bind
  apply paired_cursor level.cursor
  apply paired_bind
  apply (runCode_paired free level same).imp
  rintro reply last lastToo ⟨level, sameRule⟩
  cases reply with
  | ok holds =>
      dsimp only
      split
      · exact paired_pure level
      · exact paired_pure level
  | error message =>
      refine paired_bind (paired_modify (paired_pure ?_))
      rw [ParseState.reportHere, ParseState.reportHere, level.cursor]
      exact level.report stable sameRule _ _

/-- An expression leads two parses from one point to another if its members and
the rules to which it refers do. -/
theorem evalNode_paired {place : ExprPlace} {expr : Expr α σ}
    (stable : Record.Stable related) (free : session.grammar.StoreFree)
    (members : KeepsAbreast session flag related evaluate evaluateToo)
    (rules : RulesKeepAbreast session flag related evaluate evaluateToo)
    (found : session.grammar.exprAt? place = some expr)
    (uses : expr.usesScope = true → shared)
    (abreast : Abreast session flag related shared left right)
    (runs : left.Runs session place.rule)
    (runsToo : right.Runs session place.rule) :
    Paired (evalNode (session.memoizing false) evaluate place expr)
      (evalNode (session.memoizing flag) evaluateToo place expr)
      (fun _ => Level related shared) (Stopped related) left right := by
  have same := SameRule.of_runs runs runsToo
  have whole : (expr.usesScope = true) →
      Abreast session flag related True left right := fun used =>
    { abreast with labels := fun _ => abreast.labels (uses used) }
  have freeHere := free.exprAt? found
  have inside : ∀ {body : Expr α σ}, expr.members = [body] →
      ∀ left right : ParseState α σ,
        Abreast session flag related True left right →
          left.Runs session place.rule → right.Runs session place.rule →
            Paired (evaluate (place.member 0) body)
              (evaluateToo (place.member 0) body)
              (fun _ => Stride session flag related True left right)
              (Stopped related) left right :=
    fun isBody _ _ => members _ _ True _ _
      (Grammar.exprAt?_onlyMember found isBody) (fun _ => trivial)
  cases expr with
  | literal text ignoresCase =>
      have matched := abreast.toLevel.matchLiteral stable same session flag text
        ignoresCase
      exact paired_modifyGet matched.1 matched.2
  | oneOf charClass =>
      have matched := abreast.toLevel.matchChar stable same session flag
        charClass.accepts charClass.descriptor
      exact paired_modifyGet matched.1 matched.2
  | any =>
      have matched := abreast.toLevel.matchChar stable same session flag
        (fun _ => true) Expectations.anyDescriptor
      exact paired_modifyGet matched.1 matched.2
  | sequence exprs =>
      exact paired_bind (paired_cursor abreast.cursor
        (evalSequence_paired left.cursor [] members
          (Grammar.lists_members found) uses abreast runs runsToo))
  | choice exprs =>
      exact evalChoice_paired members (Grammar.lists_members found) abreast
        runs runsToo
  | zeroOrMore body =>
      exact evalRepetition_paired (inside rfl) abreast runs runsToo
  | oneOrMore body =>
      exact evalRepetition_paired (inside rfl) abreast runs runsToo
  | optional body =>
      have member := inside rfl _ _ abreast.pushScope runs runsToo
      apply paired_bind
      apply (inScope_paired abreast member).imp
      intro verdict after afterToo stride
      cases verdict <;> exact paired_pure stride.toLevel
  | followedBy body =>
      have member := inside rfl _ _ abreast.pushScope runs runsToo
      apply paired_bind
      apply (lookahead_paired abreast member).imp
      intro verdict after afterToo level
      cases verdict <;> exact paired_pure level
  | notFollowedBy body =>
      have negated := paired_underNot ((inside rfl _ _
        abreast.pushScope.toggle runs runsToo).imp
        (fun _ _ _ stride => stride.toggle))
      apply paired_bind
      apply (lookahead_paired abreast negated).imp
      intro verdict after afterToo level
      cases verdict <;> exact paired_pure level
  | labeled label body =>
      have member := inside rfl _ _ abreast.pushScope runs runsToo
      apply paired_bind
      apply (inScope_paired abreast member).imp
      intro verdict after afterToo stride
      cases verdict with
      | matched value =>
          exact paired_bind (paired_modify (paired_pure
            (stride.toLevel.bind label value)))
      | unmatched => exact paired_pure stride.toLevel
      | aborted error => exact paired_pure stride.toLevel
  | reference name =>
      simp only [evalNode, evalReference, Session.grammar_memoizing]
      split
      · exact paired_pure abreast.toLevel
      · cases target : session.grammar.target? name with
        | some callee =>
            exact rules callee.1 callee.2 shared _ _
              (Grammar.rule_of_target? target) abreast
        | none => exact paired_pure abreast.toLevel
  | action body run =>
      exact (evalAction_paired stable freeHere.2 abreast.cursor runs runsToo
        (inside rfl _ _ (whole rfl) runs runsToo)).imp
        (fun _ _ _ level => level.imp fun _ => trivial)
  | require test =>
      exact (evalPredicate_paired stable freeHere (whole rfl).toLevel same).imp
        (fun _ _ _ level => level.imp fun _ => trivial)
  | forbid test =>
      exact (evalPredicate_paired stable freeHere (whole rfl).toLevel same).imp
        (fun _ _ _ level => level.imp fun _ => trivial)

/-- So does the counted evaluation of the expression, as long as there is no
limit. -/
theorem counted_paired {place : ExprPlace} {expr : Expr α σ}
    (stable : Record.Stable related) (free : session.grammar.StoreFree)
    (unlimited : session.options.maxExpressions = none)
    (members : KeepsAbreast session flag related evaluate evaluateToo)
    (rules : RulesKeepAbreast session flag related evaluate evaluateToo)
    (found : session.grammar.exprAt? place = some expr)
    (uses : expr.usesScope = true → shared)
    (abreast : Abreast session flag related shared left right)
    (runs : left.Runs session place.rule)
    (runsToo : right.Runs session place.rule) :
    Paired
      (counted (session.memoizing false) expr
        (evalNode (session.memoizing false) evaluate place expr))
      (counted (session.memoizing flag) expr
        (evalNode (session.memoizing flag) evaluateToo place expr))
      (fun _ => Level related shared) (Stopped related) left right := by
  refine paired_counted expr unlimited unlimited (paired_traced _ ?_)
  have inside := (abreast.countExpression stable unlimited).enterNode
    (.expression expr.kindName)
  apply (evalNode_paired stable free members rules found uses inside
    (runs.of_eq (by rw [enterNode_eq]; rfl))
    (runsToo.of_eq (by rw [enterNode_eq]; rfl))).imp
  exact fun _ _ _ level => level.leaveNode _

/-- A rule leads two parses from one point to another if its body does. -/
theorem runRule_paired {rule : Rule α σ}
    (members : KeepsAbreast session flag related evaluate evaluateToo)
    (isRule : session.grammar.rules[index]? = some rule)
    (abreast : Abreast session flag related shared left right) :
    Paired
      (runRule (session.memoizing false) rule
        (evaluate (.body index) rule.body))
      (runRule (session.memoizing flag) rule
        (evaluateToo (.body index) rule.body))
      (fun _ => Level related shared) (Stopped related) left right := by
  have entered := abreast.enterNode (.rule rule.name)
  have body := members (.body index) rule.body True _ _
    (Grammar.exprAt?_body isRule) (fun _ => trivial) (entered.enterRule rule)
    (runs_enterRule isRule) (runs_enterRule isRule)
  refine paired_bind (paired_cursor abreast.cursor (paired_bind
    (paired_traced _ (paired_inRule rule (body.imp ?_)))))
  intro verdict after afterToo stride
  have behind : Level related shared
      (after.leaveRule.leaveNode (session.memoizing false) (.rule rule.name))
      (afterToo.leaveRule.leaveNode (session.memoizing flag)
        (.rule rule.name)) :=
    (stride.leaveRule entered.labels).leaveNode _
  cases verdict with
  | matched value =>
      exact paired_bind (paired_modify (paired_pure (behind.traceMatch _)))
  | unmatched => exact paired_pure behind
  | aborted error => exact paired_pure behind

end Members

end Eval

end PegEngine
