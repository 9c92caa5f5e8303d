import Mathlib.Logic.Relation
import PegEngine.Proofs.Invariants
import PegEngine.Proofs.Outcomes

/-!
# Evaluation as a sequence of changes

Whatever an evaluation does to the state of a parse is done by a few kinds of
changes (`ParseState.Change`), one after the other (`Eval.evalExpr_evolves`),
whether the evaluation comes to a verdict or the code of the grammar fails.
What every single change respects is respected by evaluation as a whole: the
number of expressions only grows, diagnostics are only added at the end
(`ParseState.Extends`), and none of them reports the farthest failure, which is
left to the end of the parse.
-/

namespace PegEngine

open Relation

namespace Diagnostics

/-- Adding a diagnostic leaves the earlier ones where they are. -/
theorem isPrefix_push (diagnostics : Diagnostics) (added : Diagnostic) :
    diagnostics.toList <+: (diagnostics.push added).toList := by
  unfold push
  dsimp only
  split
  · exact List.prefix_refl _
  · exact List.prefix_append _ _

end Diagnostics

namespace ParseState

variable {α σ : Type}

/-- A change that evaluation makes to a state: one constructor for each function
that it uses to do so. -/
inductive Change (session : Session α σ) :
    ParseState α σ → ParseState α σ → Prop
  | read (state : ParseState α σ) : Change session state (state.read session)
  | restore (cursor : Cursor) (state : ParseState α σ) :
      Change session state (state.restore session cursor)
  | attempt (failed : Bool) (start : Cursor) (descriptor : String)
      (state : ParseState α σ) :
      Change session state (state.attempt failed start descriptor)
  | toggle (state : ParseState α σ) : Change session state state.toggle
  | pushScope (state : ParseState α σ) : Change session state state.pushScope
  | popScope (state : ParseState α σ) : Change session state state.popScope
  | bind (label : String) (value : Value α) (state : ParseState α σ) :
      Change session state (state.bind label value)
  | enterRule (rule : Rule α σ) (state : ParseState α σ) :
      Change session state (state.enterRule rule)
  | leaveRule (state : ParseState α σ) : Change session state state.leaveRule
  | enterNode (subject : Subject) (state : ParseState α σ) :
      Change session state (state.enterNode session subject)
  | leaveNode (subject : Subject) (state : ParseState α σ) :
      Change session state (state.leaveNode session subject)
  | traceMatch (start : Cursor) (state : ParseState α σ) :
      Change session state (state.traceMatch session start)
  | countExpression (state : ParseState α σ) :
      Change session state state.countExpression
  | remember (key : MemoKey) (value : Option (Value α))
      (state : ParseState α σ) :
      Change session state (state.remember key value)
  | keepStore (store : Store σ) (state : ParseState α σ) :
      Change session state { state with store := store }
  | complain (message : String) (position : Position) (state : ParseState α σ) :
      Change session state
        (state.report session (.semantic message) position)

/-- One state has come from another by changes. -/
abbrev Evolved (session : Session α σ) :
    ParseState α σ → ParseState α σ → Prop :=
  ReflTransGen (Change session)

/-- What was counted and reported in one state still is in another, and whatever
has been reported since is no reason to stop: a malformed byte, or a complaint
of the grammar's code. -/
structure Extends (before after : ParseState α σ) : Prop where
  expressions : before.expressions ≤ after.expressions
  diagnostics : before.diagnostics.toList <+: after.diagnostics.toList
  kinds : ∀ diagnostic ∈ after.diagnostics.toList,
    diagnostic ∈ before.diagnostics.toList ∨
      diagnostic.kind = .encoding ∨ diagnostic.kind = .semantic

theorem Extends.refl (state : ParseState α σ) : Extends state state :=
  ⟨Nat.le_refl _, List.prefix_refl _, fun _ reported => .inl reported⟩

theorem Extends.trans {before middle after : ParseState α σ}
    (first : Extends before middle) (second : Extends middle after) :
    Extends before after where
  expressions := Nat.le_trans first.expressions second.expressions
  diagnostics := first.diagnostics.trans second.diagnostics
  kinds diagnostic reported :=
    (second.kinds diagnostic reported).elim (first.kinds diagnostic) .inr

variable {session : Session α σ} {before after : ParseState α σ}

/-- Between two states nothing has been counted or reported. -/
structure Quiet (before after : ParseState α σ) : Prop where
  expressions : after.expressions = before.expressions
  diagnostics : after.diagnostics = before.diagnostics

theorem Quiet.extends (quiet : Quiet before after) : Extends before after where
  expressions := Nat.le_of_eq quiet.expressions.symm
  diagnostics := quiet.diagnostics ▸ List.prefix_refl _
  kinds _ reported := .inl (quiet.diagnostics ▸ reported)

theorem quiet_restore (cursor : Cursor) (state : ParseState α σ) :
    Quiet state (state.restore session cursor) := by
  rw [restore_eq]
  exact ⟨rfl, rfl⟩

theorem quiet_traceMatch (start : Cursor) (state : ParseState α σ) :
    Quiet state (state.traceMatch session start) := by
  rw [traceMatch_eq]
  exact ⟨rfl, rfl⟩

theorem quiet_enterNode (subject : Subject) (state : ParseState α σ) :
    Quiet state (state.enterNode session subject) := by
  rw [enterNode_eq]
  exact ⟨rfl, rfl⟩

theorem quiet_leaveNode (subject : Subject) (state : ParseState α σ) :
    Quiet state (state.leaveNode session subject) := by
  rw [leaveNode_eq]
  exact ⟨rfl, rfl⟩

theorem quiet_bind (label : String) (value : Value α) (state : ParseState α σ) :
    Quiet state (state.bind label value) := by
  unfold ParseState.bind
  split <;> exact ⟨rfl, rfl⟩

/-- Reporting takes nothing back. -/
theorem extends_of_push {added : Diagnostic}
    (kind : added.kind = .encoding ∨ added.kind = .semantic)
    (expressions : after.expressions = before.expressions)
    (diagnostics : after.diagnostics = before.diagnostics.push added) :
    Extends before after where
  expressions := Nat.le_of_eq expressions.symm
  diagnostics := diagnostics ▸ Diagnostics.isPrefix_push _ _
  kinds diagnostic reported := by
    rw [diagnostics] at reported
    rcases mem_push reported with earlier | rfl
    · exact .inl earlier
    · exact .inr kind

theorem extends_read (state : ParseState α σ) :
    Extends state (state.read session) := by
  rw [read_eq]
  by_cases malformed : state.meetsMalformed session = true
  · simp only [if_pos malformed]
    exact extends_of_push (.inl rfl) rfl rfl
  · simp only [if_neg malformed]
    exact Quiet.extends ⟨rfl, rfl⟩

/-- A change takes nothing back that was counted or reported. -/
theorem Change.extends (change : Change session before after) :
    Extends before after := by
  cases change with
  | read => exact extends_read before
  | complain message position => exact extends_of_push (.inr rfl) rfl rfl
  | countExpression =>
      exact ⟨Nat.le_succ _, List.prefix_refl _, fun _ reported => .inl reported⟩
  | restore cursor => exact (quiet_restore cursor before).extends
  | traceMatch start => exact (quiet_traceMatch start before).extends
  | enterNode subject => exact (quiet_enterNode subject before).extends
  | leaveNode subject => exact (quiet_leaveNode subject before).extends
  | bind label value => exact (quiet_bind label value before).extends
  | attempt | toggle | pushScope | popScope | enterRule | leaveRule | remember
  | keepStore => exact Quiet.extends ⟨rfl, rfl⟩

theorem Evolved.extends (evolved : Evolved session before after) :
    Extends before after := by
  induction evolved with
  | refl => exact .refl _
  | tail _ change ih => exact ih.trans change.extends

end ParseState

namespace Eval

open ParseState

variable {α σ β γ : Type}

/-- A program does no more to a state than evaluation may do. -/
def Evolves (session : Session α σ) (program : Eval α σ β) : Prop :=
  ∀ state, Ends program (fun _ after => Evolved session state after)
    (Evolved session state) True state

section Programs

variable {session : Session α σ} {program : Eval α σ β}

theorem Evolves.bind {next : β → Eval α σ γ} (evolves : Evolves session program)
    (later : ∀ result, Evolves session (next result)) :
    Evolves session (program >>= next) := by
  intro state
  refine ends_bind.mpr ((evolves state).mono_result ?_)
  intro result middle reached
  exact (later result middle).mono (fun _ _ => reached.trans)
    (fun _ => reached.trans) id

theorem evolves_pure (result : β) :
    Evolves session (pure result : Eval α σ β) :=
  fun _ => .refl

theorem evolves_cursor : Evolves session cursor :=
  fun _ => .refl

theorem evolves_modify {change : ParseState α σ → ParseState α σ}
    (changes : ∀ state, Change session state (change state)) :
    Evolves session (modify change) :=
  fun state => .single (changes state)

theorem evolves_modifyGet {change : ParseState α σ → β × ParseState α σ}
    (evolved : ∀ state, Evolved session state (change state).2) :
    Evolves session (modifyGet change) :=
  fun state => evolved state

/-- Programs that run between two changes of the state. -/
theorem evolves_between {enter leave : ParseState α σ → ParseState α σ}
    (evolves : Evolves session program)
    (enters : ∀ state, Change session state (enter state))
    (leaves : ∀ state, Change session state (leave state)) :
    Evolves session
      (do
        modify enter
        let result ← program
        modify leave
        return result) :=
  (evolves_modify enters).bind fun _ => evolves.bind fun _ =>
    (evolves_modify leaves).bind fun _ => evolves_pure _

theorem evolves_inScope (evolves : Evolves session program) :
    Evolves session (inScope program) :=
  evolves_between evolves .pushScope .popScope

theorem evolves_underNot (evolves : Evolves session program) :
    Evolves session (underNot program) :=
  evolves_between evolves .toggle .toggle

theorem evolves_inRule (rule : Rule α σ) (evolves : Evolves session program) :
    Evolves session (inRule rule program) :=
  evolves_between evolves (.enterRule rule) .leaveRule

theorem evolves_traced (subject : Subject)
    (evolves : Evolves session program) :
    Evolves session (traced session subject program) :=
  evolves_between evolves (.enterNode subject) (.leaveNode subject)

theorem evolves_runCode (code : Code α σ β) (start : Cursor) (value : Value α) :
    Evolves session (runCode session code start value) := by
  intro state
  rw [ends_runCode]
  rcases code (state.context session start value) with ⟨reply, store⟩
  cases reply <;> exact .single (.keepStore store state)

end Programs

section Verdicts

variable {session : Session α σ} {program : Eval α σ (Verdict α)}

theorem evolves_lookahead (evolves : Evolves session program) :
    Evolves session (lookahead session program) :=
  evolves_cursor.bind fun start => (evolves_inScope evolves).bind fun _ =>
    (evolves_modify (.restore start)).bind fun _ => evolves_pure _

theorem evolves_counted (expr : Expr α σ) (evolves : Evolves session program) :
    Evolves session (counted session expr program) := by
  intro state
  have counts : Evolved session state state.countExpression :=
    .single (.countExpression state)
  rw [ends_counted]
  split
  · exact counts
  · exact (evolves_traced _ evolves _).mono (fun _ _ => counts.trans)
      (fun _ => counts.trans) id

theorem evolves_memoized (enabled : Bool) (node : NodeKey)
    (evolves : Evolves session program) :
    Evolves session (memoized session enabled node program) := by
  intro state
  rw [ends_memoized]
  split
  case isFalse => exact evolves state
  case isTrue =>
    split
    case h_1 entry kept => exact .single (.restore entry.finish state)
    case h_2 =>
      refine (evolves state).mono_result fun verdict after evolved => ?_
      cases verdict with
      | matched value => exact evolved.tail (.remember _ _ _)
      | unmatched => exact evolved.tail (.remember _ _ _)
      | aborted error => exact evolved

theorem evolves_visit (place : ExprPlace) (expr : Expr α σ)
    (evolves : Evolves session program) :
    Evolves session (visit session place expr program) :=
  evolves_memoized _ _ (evolves_counted expr evolves)

theorem evolves_runRule (rule : Rule α σ) (evolves : Evolves session program) :
    Evolves session (runRule session rule program) := by
  refine evolves_cursor.bind fun start =>
    (evolves_traced _ (evolves_inRule rule evolves)).bind fun verdict => ?_
  cases verdict with
  | matched value =>
      exact (evolves_modify (.traceMatch start)).bind fun _ => evolves_pure _
  | unmatched => exact evolves_pure _
  | aborted error => exact evolves_pure _

/-- What an action does with a match. -/
theorem evolves_reply (run : Action α σ) (start : Cursor) (value : Value α) :
    Evolves session
      (do
        let reply ← runCode session run start value
        modify (ParseState.traceMatch session start)
        match reply with
        | .ok result => return .matched result
        | .error message =>
          modify (ParseState.report session (.semantic message) start.position)
          return .matched .nil : Eval α σ (Verdict α)) := by
  refine (evolves_runCode run start value).bind fun reply =>
    (evolves_modify (.traceMatch start)).bind fun _ => ?_
  cases reply with
  | ok result => exact evolves_pure _
  | error message =>
      exact (evolves_modify (.complain message start.position)).bind
        fun _ => evolves_pure _

theorem evolves_evalAction (run : Action α σ)
    (evolves : Evolves session program) :
    Evolves session (evalAction session run program) := by
  refine evolves_cursor.bind fun start => evolves.bind fun verdict => ?_
  cases verdict with
  | matched value => exact evolves_reply run start value
  | unmatched => exact evolves_pure _
  | aborted error => exact evolves_pure _

theorem evolves_evalPredicate (test : Predicate α σ) (expected : Bool) :
    Evolves session (evalPredicate session test expected) := by
  refine evolves_cursor.bind fun start =>
    (evolves_runCode test start .nil).bind fun reply => ?_
  cases reply with
  | ok holds =>
      dsimp only
      split <;> exact evolves_pure _
  | error message =>
      have complains : ∀ state : ParseState α σ, Change session state
          (state.reportHere session (.semantic message)) :=
        fun state => .complain message state.cursor.position state
      exact (evolves_modify complains).bind fun _ => evolves_pure _

end Verdicts

section Matchers

variable {session : Session α σ}

theorem evolved_consume (ignoresCase : Bool) (chars : List Char)
    (state : ParseState α σ) :
    Evolved session state (state.consume session ignoresCase chars).2 := by
  induction chars generalizing state with
  | nil => exact .refl
  | cons char chars ih =>
      rw [consume]
      split
      · exact (ih (state.read session)).head (.read state)
      · exact .refl

theorem evolved_matchLiteral (text : String) (ignoresCase : Bool)
    (state : ParseState α σ) :
    Evolved session state
      (state.matchLiteral session text ignoresCase).2 := by
  have compared : Evolved session state
      (state.consume session ignoresCase text.toList).2 :=
    evolved_consume ignoresCase text.toList state
  unfold matchLiteral
  rcases comparison : state.consume session ignoresCase text.toList
    with ⟨agreed, after⟩
  rw [comparison] at compared
  cases agreed with
  | true => exact compared.tail (.attempt _ _ _ _)
  | false => exact (compared.tail (.attempt _ _ _ _)).tail (.restore _ _)

theorem evolved_matchChar (accepts : Char → Bool) (descriptor : String)
    (state : ParseState α σ) :
    Evolved session state
      (state.matchChar session accepts descriptor).2 := by
  unfold matchChar
  cases state.cursor.current with
  | none => exact .single (.attempt _ _ _ _)
  | some char =>
      dsimp only
      split
      · exact (ReflTransGen.single (.read state)).tail (.attempt _ _ _ _)
      · exact .single (.attempt _ _ _ _)

end Matchers

section Members

variable {session : Session α σ}
  {evaluate : ExprPlace → Expr α σ → Eval α σ (Verdict α)}
  (members : ∀ place expr, Evolves session (evaluate place expr))
include members

theorem evalSequence_evolves (place : ExprPlace) (start : Cursor) (index : Nat)
    (values : List (Value α)) (exprs : List (Expr α σ)) :
    Evolves session
      (evalSequence session evaluate place start index values exprs) := by
  induction exprs generalizing index values with
  | nil => exact evolves_pure _
  | cons expr exprs ih =>
      refine (members _ _).bind fun verdict => ?_
      cases verdict with
      | matched value => exact ih _ _
      | unmatched =>
          exact (evolves_modify (.restore start)).bind fun _ => evolves_pure _
      | aborted error => exact evolves_pure _

theorem evalChoice_evolves (place : ExprPlace) (index : Nat)
    (exprs : List (Expr α σ)) :
    Evolves session (evalChoice evaluate place index exprs) := by
  induction exprs generalizing index with
  | nil => exact evolves_pure _
  | cons expr exprs ih =>
      refine (evolves_inScope (members _ _)).bind fun verdict => ?_
      cases verdict with
      | matched value => exact evolves_pure _
      | unmatched => exact ih _
      | aborted error => exact evolves_pure _

omit members in
/-- What a repetition does with a match. -/
theorem evolves_round {body : Eval α σ (Verdict α)} {rounds : Nat}
    (later : ∀ values, Evolves session (evalRounds body rounds values))
    (start : Cursor) (values : List (Value α)) :
    Evolves session
      (do
        if (← cursor).offset = start.offset then return .ok values
        else evalRounds body rounds values) := by
  refine evolves_cursor.bind fun finish => ?_
  split
  · exact evolves_pure _
  · exact later _

omit members in
theorem evalRounds_evolves {body : Eval α σ (Verdict α)}
    (evolves : Evolves session body) (rounds : Nat) (values : List (Value α)) :
    Evolves session (evalRounds body rounds values) := by
  induction rounds generalizing values with
  | zero => exact fun _ => trivial
  | succ rounds ih =>
      refine evolves_cursor.bind fun start =>
        (evolves_inScope evolves).bind fun verdict => ?_
      cases verdict with
      | matched value => exact evolves_round ih start (value :: values)
      | unmatched => exact evolves_pure _
      | aborted error => exact evolves_pure _

omit members in
theorem evalRepetition_evolves {body : Eval α σ (Verdict α)}
    (evolves : Evolves session body) (required : Nat) :
    Evolves session (evalRepetition session required body) := by
  refine evolves_cursor.bind fun start =>
    (evalRounds_evolves evolves _ _).bind fun result => ?_
  cases result with
  | ok values =>
      dsimp only
      split <;> exact evolves_pure _
  | error error => exact evolves_pure _

theorem evalRule_evolves (rule : Rule α σ) (index : Nat) :
    Evolves session (evalRule session evaluate rule index) :=
  evolves_memoized _ _ (evolves_runRule rule (members _ _))

theorem evalReference_evolves (name : String) :
    Evolves session (evalReference session evaluate name) := by
  unfold evalReference
  split
  · exact evolves_pure _
  · split
    · exact evalRule_evolves members _ _
    · exact evolves_pure _

/-- Whatever an expression does comes down to changes if what its members do
does. -/
theorem evalNode_evolves (place : ExprPlace) (expr : Expr α σ) :
    Evolves session (evalNode session evaluate place expr) := by
  cases expr with
  | literal text ignoresCase =>
      exact evolves_modifyGet (evolved_matchLiteral text ignoresCase)
  | oneOf charClass => exact evolves_modifyGet (evolved_matchChar _ _)
  | any => exact evolves_modifyGet (evolved_matchChar _ _)
  | sequence exprs =>
      exact evolves_cursor.bind fun _ => evalSequence_evolves members _ _ _ _ _
  | choice exprs => exact evalChoice_evolves members _ _ _
  | zeroOrMore body => exact evalRepetition_evolves (members _ _) _
  | oneOrMore body => exact evalRepetition_evolves (members _ _) _
  | optional body =>
      refine (evolves_inScope (members _ _)).bind fun verdict => ?_
      cases verdict <;> exact evolves_pure _
  | followedBy body =>
      refine (evolves_lookahead (members _ _)).bind fun verdict => ?_
      cases verdict <;> exact evolves_pure _
  | notFollowedBy body =>
      refine (evolves_lookahead (evolves_underNot (members _ _))).bind
        fun verdict => ?_
      cases verdict <;> exact evolves_pure _
  | labeled label body =>
      refine (evolves_inScope (members _ _)).bind fun verdict => ?_
      cases verdict with
      | matched value =>
          exact (evolves_modify (.bind label value)).bind fun _ =>
            evolves_pure _
      | unmatched => exact evolves_pure _
      | aborted error => exact evolves_pure _
  | reference name => exact evalReference_evolves members name
  | action body run => exact evolves_evalAction run (members _ _)
  | require test => exact evolves_evalPredicate test true
  | forbid test => exact evolves_evalPredicate test false

end Members

/-- Evaluation is a sequence of changes. -/
theorem evalExpr_evolves (session : Session α σ) (depth : Nat)
    (place : ExprPlace) (expr : Expr α σ) :
    Evolves session (evalExpr session depth place expr) := by
  induction depth generalizing place expr with
  | zero => exact fun _ => trivial
  | succ depth ih => exact evolves_visit _ _ (evalNode_evolves ih place expr)

end Eval

end PegEngine
