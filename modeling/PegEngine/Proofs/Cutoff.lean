import PegEngine.Proofs.Ceiling
import PegEngine.Proofs.Changes
import PegEngine.Proofs.Pairing

/-!
# The limit as a cut-off

A limit on expressions changes nothing until it is passed, and then it ends the
parse.  Run side by side, an evaluation with a limit and the same one without
are the same as long as the limit is kept to; where it is passed, the one with
the limit is given up, and has reported no more than what the other one will
have reported first (`Eval.Curtailed`).  So the parse with a limit either is the
parse without, or it is cut off at the first expression too many
(`Session.limiting_cuts`).
-/

namespace PegEngine

open ParseState

/-- The session with a limit on expressions, or without one. -/
def Session.limiting {α σ : Type} (session : Session α σ) (limit : Option Nat) :
    Session α σ :=
  { session with options := session.options.set (.maxExpressions limit) }

namespace ParseState

variable {α σ : Type}

/-- The limit is no matter of the matchers. -/
theorem consume_limiting (session : Session α σ) (limit : Option Nat)
    (ignoresCase : Bool) (chars : List Char) (state : ParseState α σ) :
    state.consume (session.limiting limit) ignoresCase chars =
      state.consume session ignoresCase chars := by
  induction chars generalizing state with
  | nil => rfl
  | cons char chars ih =>
      rw [consume, consume]
      split
      · exact ih (state.read session)
      · rfl

theorem matchLiteral_limiting (session : Session α σ) (limit : Option Nat)
    (text : String) (ignoresCase : Bool) :
    ParseState.matchLiteral (session.limiting limit) text ignoresCase =
      ParseState.matchLiteral session text ignoresCase := by
  funext state
  unfold matchLiteral
  rw [consume_limiting]
  rfl

end ParseState

/-- A state in which more expressions have been counted than the limit allows,
and which shows all that an earlier one did. -/
structure ParseState.Outlasts {α σ : Type} (limit : Nat)
    (early after : ParseState α σ) : Prop where
  passed : limit < after.expressions
  shown : early.diagnostics.toList <+: after.diagnostics.toList

theorem ParseState.Outlasts.extends {α σ : Type} {limit : Nat}
    {early middle after : ParseState α σ}
    (outlasts : Outlasts limit early middle)
    (later : Extends middle after) : Outlasts limit early after :=
  ⟨Nat.lt_of_lt_of_le outlasts.passed later.expressions,
    outlasts.shown.trans later.diagnostics⟩

namespace Eval

variable {α σ β γ : Type} {session : Session α σ} {limit : Nat}

/-- How a program with a limit on expressions compares with the same one
without, from a state in which the limit has not been passed: both do the same
and keep to the limit, or the first is given up with a result that says so while
the second passes the limit. -/
inductive Curtailed (limit : Nat) (givenUp : β) (limited unlimited : Eval α σ β)
    (state : ParseState α σ) : Prop
  | same (same : limited state = unlimited state)
      (within : Ends unlimited (fun _ after => after.expressions ≤ limit)
        (fun after => after.expressions ≤ limit) True state)
  | short (early : ParseState α σ) (stops : limited state = .ok givenUp early)
      (passes : Ends unlimited (fun _ after => Outlasts limit early after)
        (Outlasts limit early) True state)

/-- A program with a limit on expressions is the one without, curtailed. -/
def Curtails (limit : Nat) (givenUp : β) (limited unlimited : Eval α σ β) :
    Prop :=
  ∀ state : ParseState α σ, state.expressions ≤ limit →
    Curtailed limit givenUp limited unlimited state

/-- A program that counts no expressions. -/
def Idle (program : Eval α σ β) : Prop :=
  ∀ state, Ends program
    (fun _ after => after.expressions = state.expressions)
    (fun after => after.expressions = state.expressions) True state

/-- A program that takes nothing back that was counted or reported. -/
def Grows (program : Eval α σ β) : Prop :=
  ∀ state, Ends program (fun _ => Extends state) (Extends state) True state

theorem Evolves.grows {program : Eval α σ β}
    (evolves : Evolves session program) : Grows program :=
  fun state => (evolves state).mono (fun _ _ evolved => evolved.extends)
    (fun _ evolved => evolved.extends) id

/-- Once a program is given up, what follows hands the verdict on and reports
nothing. -/
def HandsOn (givenUp : β) (handedOn : γ) (next : β → Eval α σ γ) : Prop :=
  ∀ early, ∃ last, next givenUp early = .ok handedOn last ∧
    last.diagnostics = early.diagnostics

section Rules

variable {givenUp : β} {handedOn : γ} {limited unlimited program : Eval α σ β}
  {next other : β → Eval α σ γ}

theorem idle_of_quiet {change : ParseState α σ → ParseState α σ}
    (quiet : ∀ state, Quiet state (change state)) : Idle (modify change) :=
  fun state => (quiet state).expressions

theorem idle_modifyGet {change : ParseState α σ → β × ParseState α σ}
    (steady : ∀ state, Steady session state (change state).2) :
    Idle (modifyGet change) :=
  fun state => (steady state).expressions

theorem idle_cursor : Idle (cursor : Eval α σ Cursor) :=
  fun _ => rfl

theorem idle_pure (result : β) : Idle (pure result : Eval α σ β) :=
  fun _ => rfl

theorem idle_runCode (code : Code α σ β) (start : Cursor) (value : Value α) :
    Idle (runCode session code start value) := by
  intro state
  rw [ends_runCode]
  rcases code (state.context session start value) with ⟨reply, store⟩
  cases reply <;> rfl

theorem idle_report (error : ParseError) (position : Position) :
    Idle (modify (ParseState.report session error position)) :=
  fun _ => rfl

theorem idle_reportHere (error : ParseError) :
    Idle (modify (ParseState.reportHere session error)) :=
  fun _ => rfl

/-- What counts no expression is the same with a limit and without. -/
theorem Idle.curtails (idle : Idle program) :
    Curtails limit givenUp program program :=
  fun state atMost => .same rfl ((idle state).mono
    (fun _ _ same => same ▸ atMost) (fun _ same => same ▸ atMost) id)

theorem curtails_pure (result : β) :
    Curtails limit givenUp (pure result : Eval α σ β) (pure result) :=
  (idle_pure result).curtails

/-- What comes after a result that both programs have. -/
theorem Curtailed.after_result {result : β} {state middle : ParseState α σ}
    (run : limited state = .ok result middle)
    (runToo : unlimited state = .ok result middle)
    (later : Curtailed limit handedOn (next result) (other result) middle) :
    Curtailed limit handedOn (limited >>= next) (unlimited >>= other)
      state := by
  have bound : (limited >>= next) state = next result middle := by
    simp only [Bind.bind, EStateM.bind, run]
  have boundToo : (unlimited >>= other) state = other result middle := by
    simp only [Bind.bind, EStateM.bind, runToo]
  cases later with
  | same same within =>
      refine .same (bound.trans (same.trans boundToo.symm)) ?_
      rwa [Ends, boundToo]
  | short early stops passes =>
      refine .short early (bound.trans stops) ?_
      rwa [Ends, boundToo]

/-- Nothing comes after both programs have been interrupted. -/
theorem Curtailed.after_interrupt {interrupt : Interrupt}
    {state middle : ParseState α σ}
    (run : limited state = .error interrupt middle)
    (runToo : unlimited state = .error interrupt middle)
    (within : interrupt ≠ .exhausted → middle.expressions ≤ limit) :
    Curtailed limit handedOn (limited >>= next) (unlimited >>= other)
      state := by
  have failed : (limited >>= next) state = .error interrupt middle := by
    simp only [Bind.bind, EStateM.bind, run]
  have failedToo : (unlimited >>= other) state = .error interrupt middle := by
    simp only [Bind.bind, EStateM.bind, runToo]
  refine .same (failed.trans failedToo.symm) ?_
  unfold Ends
  rw [failedToo]
  cases interrupt with
  | exhausted => trivial
  | fault fault => exact within nofun

/-- What comes after a program is curtailed as well, or it is not come to, and
then it adds nothing with a limit and takes nothing back without. -/
theorem Curtails.bind (curtails : Curtails limit givenUp limited unlimited)
    (later : ∀ result,
      Curtails limit handedOn (next result) (other result))
    (handsOn : HandsOn givenUp handedOn next)
    (grows : ∀ result, Grows (other result)) :
    Curtails limit handedOn (limited >>= next) (unlimited >>= other) := by
  intro state atMost
  cases curtails state atMost with
  | same same within =>
      cases run : unlimited state with
      | ok result middle =>
          exact .after_result (same.trans run) run
            (later result middle (within.result run))
      | error interrupt middle =>
          refine .after_interrupt (same.trans run) run fun notExhausted => ?_
          cases interrupt with
          | exhausted => exact absurd rfl notExhausted
          | fault fault => exact within.fault run
  | short early stops passes =>
      obtain ⟨last, stopsToo, silent⟩ := handsOn early
      have shown : ∀ after, Outlasts limit early after →
          Outlasts limit last after :=
        fun after outlasts => ⟨outlasts.passed, silent ▸ outlasts.shown⟩
      refine .short last ?_ (ends_bind.mpr (passes.mono ?_ shown id))
      · simp only [Bind.bind, EStateM.bind, stops]
        exact stopsToo
      · intro result middle outlasts
        exact (grows result middle).mono
          (fun _ _ later => shown _ (outlasts.extends later))
          (fun _ later => shown _ (outlasts.extends later)) id

/-- Nothing is given up in a program that counts no expression. -/
theorem Idle.bind (idle : Idle program)
    (later : ∀ result, Curtails limit handedOn (next result) (other result)) :
    Curtails limit handedOn (program >>= next) (program >>= other) := by
  intro state atMost
  cases run : program state with
  | ok result middle =>
      have unchanged := (idle state).result run
      exact .after_result run run (later result middle (unchanged ▸ atMost))
  | error interrupt middle =>
      refine .after_interrupt run run fun notExhausted => ?_
      cases interrupt with
      | exhausted => exact absurd rfl notExhausted
      | fault fault =>
          have unchanged := (idle state).fault run
          exact unchanged ▸ atMost

end Rules

section Between

variable {givenUp : β} {limited unlimited : Eval α σ β}

/-- Programs that run between two changes of the state, which neither count nor
report anything. -/
theorem curtails_between {enter leave : ParseState α σ → ParseState α σ}
    (curtails : Curtails limit givenUp limited unlimited)
    (enters : ∀ state, Quiet state (enter state))
    (leaves : ∀ state, Quiet state (leave state)) :
    Curtails limit givenUp
      (do
        modify enter
        let result ← limited
        modify leave
        return result)
      (do
        modify enter
        let result ← unlimited
        modify leave
        return result) :=
  (idle_of_quiet enters).bind fun _ => curtails.bind
    (fun result => (idle_of_quiet leaves).bind fun _ => curtails_pure result)
    (fun early => ⟨leave early, rfl, (leaves early).diagnostics⟩)
    (fun _ state => (leaves state).extends)

theorem inScope_curtails (curtails : Curtails limit givenUp limited unlimited) :
    Curtails limit givenUp (inScope limited) (inScope unlimited) :=
  curtails_between curtails (fun _ => ⟨rfl, rfl⟩) (fun _ => ⟨rfl, rfl⟩)

theorem underNot_curtails
    (curtails : Curtails limit givenUp limited unlimited) :
    Curtails limit givenUp (underNot limited) (underNot unlimited) :=
  curtails_between curtails (fun _ => ⟨rfl, rfl⟩) (fun _ => ⟨rfl, rfl⟩)

theorem inRule_curtails (rule : Rule α σ)
    (curtails : Curtails limit givenUp limited unlimited) :
    Curtails limit givenUp (inRule rule limited) (inRule rule unlimited) :=
  curtails_between curtails (fun _ => ⟨rfl, rfl⟩) (fun _ => ⟨rfl, rfl⟩)

theorem traced_curtails (subject : Subject)
    (curtails : Curtails limit givenUp limited unlimited) :
    Curtails limit givenUp
      (traced (session.limiting (some limit)) subject limited)
      (traced (session.limiting none) subject unlimited) :=
  curtails_between curtails (quiet_enterNode subject)
    (quiet_leaveNode subject)

end Between

section Verdicts

variable {limited unlimited : Eval α σ (Verdict α)}

/-- The programs of which one is given up when the limit is passed. -/
def Stops (limit : Nat) (limited unlimited : Eval α σ (Verdict α)) : Prop :=
  Curtails limit (.aborted .maxExpressions) limited unlimited

/-- What is done with a verdict that is no end. -/
theorem Stops.bind {next other : Verdict α → Eval α σ (Verdict α)}
    (stops : Stops limit limited unlimited)
    (matched : ∀ value,
      Stops limit (next (.matched value)) (other (.matched value)))
    (unmatched : Stops limit (next .unmatched) (other .unmatched))
    (handsOn : ∀ error, next (.aborted error) = pure (.aborted error))
    (handsOnToo : ∀ error, other (.aborted error) = pure (.aborted error))
    (grows : ∀ verdict, Grows (other verdict)) :
    Stops limit (limited >>= next) (unlimited >>= other) := by
  refine Curtails.bind stops (fun verdict => ?_) (fun early => ?_) grows
  · cases verdict with
    | matched value => exact matched value
    | unmatched => exact unmatched
    | aborted error =>
        rw [handsOn, handsOnToo]
        exact curtails_pure _
  · rw [handsOn]
    exact ⟨early, rfl, rfl⟩

/-- A verdict stands after something that neither counts nor reports. -/
theorem stops_of_quiet {change : ParseState α σ → ParseState α σ}
    (quiet : ∀ state, Quiet state (change state)) (verdict : Verdict α) :
    Stops limit
      (do
        modify change
        return verdict)
      (do
        modify change
        return verdict) :=
  (idle_of_quiet quiet).bind fun _ => curtails_pure verdict

theorem grows_pure {result : β} : Grows (pure result : Eval α σ β) :=
  fun _ => .refl _

theorem grows_of_quiet {change : ParseState α σ → ParseState α σ}
    (quiet : ∀ state, Quiet state (change state)) (result : β) :
    Grows
      (do
        modify change
        return result) :=
  fun state => (quiet state).extends

theorem quiet_remember (key : MemoKey) (value : Option (Value α))
    (state : ParseState α σ) : Quiet state (state.remember key value) :=
  ⟨rfl, rfl⟩

theorem lookahead_stops (stops : Stops limit limited unlimited) :
    Stops limit (lookahead (session.limiting (some limit)) limited)
      (lookahead (session.limiting none) unlimited) := by
  refine idle_cursor.bind fun start =>
    Curtails.bind (inScope_curtails stops) (fun verdict => ?_) ?_ ?_
  · exact stops_of_quiet (quiet_restore start) verdict
  · exact fun early => ⟨_, rfl, (quiet_restore start early).diagnostics⟩
  · exact grows_of_quiet (quiet_restore start)

/-- The expression that passes the limit is counted, and not evaluated. -/
theorem counted_stops (expr : Expr α σ) (stops : Stops limit limited unlimited)
    (evolves : Evolves (session.limiting none) unlimited) :
    Stops limit (counted (session.limiting (some limit)) expr limited)
      (counted (session.limiting none) expr unlimited) := by
  intro state atMost
  have run := counted_run (session.limiting (some limit)) expr limited state
  have runToo : counted (session.limiting none) expr unlimited state =
      traced (session.limiting none) (.expression expr.kindName) unlimited
        state.countExpression :=
    counted_run (session.limiting none) expr unlimited state
  by_cases passes : limit < state.countExpression.expressions
  · have tooMany : state.countExpression.overLimit
        (session.limiting (some limit)) = true :=
      overLimit_eq_true.mpr ⟨limit, rfl, passes⟩
    rw [if_pos tooMany] at run
    refine .short _ run ?_
    rw [Ends, runToo]
    have outlasts : Outlasts limit state.countExpression
        state.countExpression :=
      ⟨passes, List.prefix_refl _⟩
    exact ((evolves_traced _ evolves).grows _).mono
      (fun _ _ later => outlasts.extends later)
      (fun _ later => outlasts.extends later) id
  · have within : state.countExpression.overLimit
        (session.limiting (some limit)) = false := by
      refine overLimit_eq_false.mpr ?_
      rintro _ ⟨rfl⟩
      exact Nat.le_of_not_lt passes
    rw [within] at run
    have traced : Stops limit
        (traced (session.limiting (some limit)) (.expression expr.kindName)
          limited)
        (traced (session.limiting none) (.expression expr.kindName)
          unlimited) :=
      traced_curtails (.expression expr.kindName) stops
    cases traced state.countExpression (Nat.le_of_not_lt passes) with
    | same same within =>
        refine .same (run.trans (same.trans runToo.symm)) ?_
        rwa [Ends, runToo]
    | short early stops passes =>
        refine .short early (run.trans stops) ?_
        rwa [Ends, runToo]

theorem memoized_stops (enabled : Bool) (node : NodeKey)
    (stops : Stops limit limited unlimited) :
    Stops limit
      (memoized (session.limiting (some limit)) enabled node limited)
      (memoized (session.limiting none) enabled node unlimited) := by
  have idle : Idle (get : Eval α σ (ParseState α σ)) := fun _ => rfl
  cases enabled with
  | false => exact stops
  | true =>
      refine idle.bind fun before => idle.bind fun state => ?_
      cases state.memo.lookup (before.memoKey node) with
      | some entry => exact stops_of_quiet (quiet_restore entry.finish) _
      | none =>
          refine stops.bind (fun value => ?_) ?_ (fun _ => rfl) (fun _ => rfl)
            fun verdict => ?_
          · exact stops_of_quiet (quiet_remember _ (some value)) _
          · exact stops_of_quiet (quiet_remember _ none) _
          · cases verdict with
            | matched value =>
                exact grows_of_quiet (quiet_remember _ (some value)) _
            | unmatched => exact grows_of_quiet (quiet_remember _ none) _
            | aborted error => exact grows_pure

theorem runRule_stops (rule : Rule α σ)
    (stops : Stops limit limited unlimited) :
    Stops limit (runRule (session.limiting (some limit)) rule limited)
      (runRule (session.limiting none) rule unlimited) := by
  have stops : Stops limit
      (traced (session.limiting (some limit)) (.rule rule.name)
        (inRule rule limited))
      (traced (session.limiting none) (.rule rule.name)
        (inRule rule unlimited)) :=
    traced_curtails (.rule rule.name) (inRule_curtails rule stops)
  refine idle_cursor.bind fun start => stops.bind (fun value => ?_)
    (curtails_pure _) (fun _ => rfl) (fun _ => rfl) fun verdict => ?_
  · exact stops_of_quiet (quiet_traceMatch start) _
  · cases verdict with
    | matched value => exact grows_of_quiet (quiet_traceMatch start) _
    | unmatched => exact grows_pure
    | aborted error => exact grows_pure

theorem evalAction_stops (run : Action α σ)
    (stops : Stops limit limited unlimited) :
    Stops limit (evalAction (session.limiting (some limit)) run limited)
      (evalAction (session.limiting none) run unlimited) := by
  refine idle_cursor.bind fun start => stops.bind (fun value => ?_)
    (curtails_pure _) (fun _ => rfl) (fun _ => rfl) fun verdict => ?_
  · refine (idle_runCode run start value).bind fun reply =>
      (idle_of_quiet (quiet_traceMatch start)).bind fun _ => ?_
    cases reply with
    | ok result => exact curtails_pure _
    | error message =>
        exact (idle_report (.semantic message) start.position).bind
          fun _ => curtails_pure _
  · cases verdict with
    | matched value => exact (evolves_reply run start value).grows
    | unmatched => exact grows_pure
    | aborted error => exact grows_pure

theorem evalPredicate_stops (test : Predicate α σ) (expected : Bool) :
    Stops limit (evalPredicate (session.limiting (some limit)) test expected)
      (evalPredicate (session.limiting none) test expected) := by
  refine idle_cursor.bind fun start =>
    (idle_runCode test start .nil).bind fun reply => ?_
  cases reply with
  | ok holds =>
      dsimp only
      split <;> exact curtails_pure _
  | error message =>
      exact (idle_reportHere (.semantic message)).bind fun _ => curtails_pure _

/-- A repetition is given up in the midst of its rounds. -/
theorem evalRounds_curtails (stops : Stops limit limited unlimited)
    (evolves : Evolves (session.limiting none) unlimited) (rounds : Nat)
    (values : List (Value α)) :
    Curtails limit (.error .maxExpressions) (evalRounds limited rounds values)
      (evalRounds unlimited rounds values) := by
  induction rounds generalizing values with
  | zero => exact fun _ _ => .same rfl trivial
  | succ rounds ih =>
      refine idle_cursor.bind fun start =>
        Curtails.bind (inScope_curtails stops) (fun verdict => ?_)
          (fun early => ⟨early, rfl, rfl⟩) (fun verdict => ?_)
      · cases verdict with
        | matched value =>
            refine idle_cursor.bind fun finish => ?_
            split
            · exact curtails_pure _
            · exact ih _
        | unmatched => exact curtails_pure _
        | aborted error => exact curtails_pure _
      · cases verdict with
        | matched value =>
            exact (evolves_round (evalRounds_evolves evolves rounds) start
              (value :: values)).grows
        | unmatched => exact grows_pure
        | aborted error => exact grows_pure

theorem evalRepetition_stops (required : Nat)
    (stops : Stops limit limited unlimited)
    (evolves : Evolves (session.limiting none) unlimited) :
    Stops limit
      (evalRepetition (session.limiting (some limit)) required limited)
      (evalRepetition (session.limiting none) required unlimited) := by
  refine idle_cursor.bind fun start =>
    (evalRounds_curtails stops evolves _ _).bind (fun result => ?_)
      (fun early => ⟨early, rfl, rfl⟩) (fun result => ?_)
  · cases result with
    | ok values =>
        dsimp only
        split <;> exact curtails_pure _
    | error error => exact curtails_pure _
  · cases result with
    | ok values =>
        dsimp only
        split <;> exact grows_pure
    | error error => exact grows_pure

end Verdicts

section Members

variable {limited unlimited : ExprPlace → Expr α σ → Eval α σ (Verdict α)}
  (stops : ∀ place expr,
    Stops limit (limited place expr) (unlimited place expr))
  (evolves : ∀ place expr,
    Evolves (session.limiting none) (unlimited place expr))
include stops evolves

theorem evalSequence_stops (place : ExprPlace) (start : Cursor) (index : Nat)
    (values : List (Value α)) (exprs : List (Expr α σ)) :
    Stops limit
      (evalSequence (session.limiting (some limit)) limited place start index
        values exprs)
      (evalSequence (session.limiting none) unlimited place start index values
        exprs) := by
  induction exprs generalizing index values with
  | nil => exact curtails_pure _
  | cons expr exprs ih =>
      refine (stops _ _).bind (fun value => ih _ _) ?_ (fun _ => rfl)
        (fun _ => rfl) fun verdict => ?_
      · exact stops_of_quiet (quiet_restore start) _
      · cases verdict with
        | matched value =>
            exact (evalSequence_evolves evolves _ _ _ _ _).grows
        | unmatched => exact grows_of_quiet (quiet_restore start) _
        | aborted error => exact grows_pure

theorem evalChoice_stops (place : ExprPlace) (index : Nat)
    (exprs : List (Expr α σ)) :
    Stops limit (evalChoice limited place index exprs)
      (evalChoice unlimited place index exprs) := by
  induction exprs generalizing index with
  | nil => exact curtails_pure _
  | cons expr exprs ih =>
      refine Stops.bind (inScope_curtails (stops _ _))
        (fun value => curtails_pure _) (ih _) (fun _ => rfl) (fun _ => rfl)
        fun verdict => ?_
      cases verdict with
      | matched value => exact grows_pure
      | unmatched => exact (evalChoice_evolves evolves _ _ _).grows
      | aborted error => exact grows_pure

omit evolves in
theorem evalRule_stops (rule : Rule α σ) (index : Nat) :
    Stops limit
      (evalRule (session.limiting (some limit)) limited rule index)
      (evalRule (session.limiting none) unlimited rule index) :=
  memoized_stops _ _ (runRule_stops rule (stops _ _))

omit evolves in
theorem evalReference_stops (name : String) :
    Stops limit
      (evalReference (session.limiting (some limit)) limited name)
      (evalReference (session.limiting none) unlimited name) := by
  unfold evalReference
  split
  · exact curtails_pure _
  · have same : (session.limiting (some limit)).grammar.target? name =
        (session.limiting none).grammar.target? name := rfl
    rw [same]
    split
    · exact evalRule_stops stops _ _
    · exact curtails_pure _

theorem evalNode_stops (place : ExprPlace) (expr : Expr α σ) :
    Stops limit
      (evalNode (session.limiting (some limit)) limited place expr)
      (evalNode (session.limiting none) unlimited place expr) := by
  cases expr with
  | literal text ignoresCase =>
      simp only [evalNode, matchLiteral_limiting]
      exact (idle_modifyGet (steady_matchLiteral session text
        ignoresCase)).curtails
  | oneOf charClass =>
      exact (idle_modifyGet (steady_matchChar session _ _)).curtails
  | any => exact (idle_modifyGet (steady_matchChar session _ _)).curtails
  | sequence exprs =>
      exact idle_cursor.bind fun _ => evalSequence_stops stops evolves _ _ _ _ _
  | choice exprs => exact evalChoice_stops stops evolves _ _ _
  | zeroOrMore body => exact evalRepetition_stops _ (stops _ _) (evolves _ _)
  | oneOrMore body => exact evalRepetition_stops _ (stops _ _) (evolves _ _)
  | optional body =>
      refine Stops.bind (inScope_curtails (stops _ _))
        (fun value => curtails_pure _) (curtails_pure _) (fun _ => rfl)
        (fun _ => rfl) fun verdict => ?_
      cases verdict <;> exact grows_pure
  | followedBy body =>
      refine (lookahead_stops (stops _ _)).bind (fun value => curtails_pure _)
        (curtails_pure _) (fun _ => rfl) (fun _ => rfl) fun verdict => ?_
      cases verdict <;> exact grows_pure
  | notFollowedBy body =>
      refine (lookahead_stops (underNot_curtails (stops _ _))).bind
        (fun value => curtails_pure _) (curtails_pure _) (fun _ => rfl)
        (fun _ => rfl) fun verdict => ?_
      cases verdict <;> exact grows_pure
  | labeled label body =>
      refine Stops.bind (inScope_curtails (stops _ _)) (fun value => ?_)
        (curtails_pure _) (fun _ => rfl) (fun _ => rfl) fun verdict => ?_
      · exact stops_of_quiet (quiet_bind label value) _
      · cases verdict with
        | matched value => exact grows_of_quiet (quiet_bind label value) _
        | unmatched => exact grows_pure
        | aborted error => exact grows_pure
  | reference name => exact evalReference_stops stops name
  | action body run => exact evalAction_stops run (stops _ _)
  | require test => exact evalPredicate_stops test true
  | forbid test => exact evalPredicate_stops test false

end Members

/-- An evaluation under a limit is the one without, unless it is given up. -/
theorem evalExpr_stops (session : Session α σ) (limit depth : Nat)
    (place : ExprPlace) (expr : Expr α σ) :
    Stops limit (evalExpr (session.limiting (some limit)) depth place expr)
      (evalExpr (session.limiting none) depth place expr) := by
  induction depth generalizing place expr with
  | zero => exact fun _ _ => .same rfl trivial
  | succ depth ih =>
      have evolves := evalExpr_evolves (session.limiting none) depth
      exact memoized_stops _ _ (counted_stops expr
        (evalNode_stops ih evolves place expr)
        (evalNode_evolves evolves place expr))

end Eval

namespace Session

variable {α σ : Type} {session : Session α σ}

theorem reportOn_limiting (session : Session α σ) (limit : Option Nat)
    (result : EStateM.Result Interrupt (ParseState α σ) (Verdict α)) :
    (session.limiting limit).reportOn result = session.reportOn result := by
  rcases result with ⟨verdict, after⟩ | ⟨interrupt, after⟩
  · cases verdict <;> rfl
  · cases interrupt <;> rfl

theorem gives_limiting_iff {entry : Rule α σ}
    (starts : session.grammar.start? = some entry)
    (valid : session.grammar.error? = none) (limit : Option Nat)
    {report : ParseReport α} :
    (session.limiting limit).Gives report ↔
      ∃ depth, session.reportOn
        ((session.limiting limit).entering depth entry) = some report := by
  have startsToo : (session.limiting limit).grammar.start? = some entry :=
    starts
  simp only [gives_iff startsToo valid, reportOn_limiting]

/-- A limit makes no difference to a grammar that is rejected. -/
theorem parseWithin_limiting_of_invalid {error : ParseError}
    (invalid : session.grammar.error? = some error) (limit : Option Nat)
    (depth : Nat) :
    (session.limiting limit).parseWithin depth = session.parseWithin depth := by
  have invalidToo : (session.limiting limit).grammar.error? = some error :=
    invalid
  have sameStart : (session.limiting limit).grammar.start? =
      session.grammar.start? := rfl
  unfold parseWithin
  rw [sameStart]
  cases session.grammar.start? with
  | none => rfl
  | some entry =>
      dsimp only
      rw [invalid, invalidToo]
      rfl

/-- The evaluation of the entry rule is curtailed by a limit. -/
theorem entering_curtailed (session : Session α σ) (limit depth : Nat)
    (entry : Rule α σ) :
    Eval.Curtailed limit (.aborted .maxExpressions)
      (Eval.evalRule (session.limiting (some limit))
        (Eval.evalExpr (session.limiting (some limit)) depth) entry 0)
      (Eval.evalRule (session.limiting none)
        (Eval.evalExpr (session.limiting none) depth) entry 0)
      (session.limiting none).opening := by
  have nothing : (session.limiting none).opening.expressions = 0 :=
    (steady_read _ _).expressions
  exact Eval.evalRule_stops (Eval.evalExpr_stops session limit depth) entry 0 _
    (by omega)

/-- The result of a parse has the count and the diagnostics of the state in
which the evaluation of the entry rule has ended, and at most one diagnostic
more. -/
theorem exists_state_of_reportOn {holds : ParseState α σ → Prop}
    {program : Eval α σ (Verdict α)} {state : ParseState α σ}
    {parsed : Parsed α} {log : Array LogEntry}
    (ends : Eval.Ends program (fun _ after => holds after) holds True state)
    (reported : session.reportOn (program state) =
      some ⟨.parsed parsed, log⟩) :
    ∃ after, holds after ∧ parsed.expressions = after.expressions ∧
      after.diagnostics.toList <+: parsed.diagnostics.toList := by
  rcases run : program state with ⟨verdict, after⟩ | ⟨interrupt, after⟩
  · have held := ends.result run
    rw [run] at reported
    cases verdict with
    | matched value =>
        cases reported
        exact ⟨after, held, rfl, List.prefix_refl _⟩
    | unmatched =>
        cases reported
        refine ⟨after, held, expressions_reportNoMatch, ?_⟩
        change _ <+: (after.reportNoMatch session).diagnostics.toList
        unfold ParseState.reportNoMatch
        split
        · exact Diagnostics.isPrefix_push _ _
        · exact List.prefix_refl _
    | aborted error =>
        cases reported
        exact ⟨after, held, rfl, Diagnostics.isPrefix_push _ _⟩
  · rw [run] at reported
    cases interrupt with
    | exhausted => cases reported
    | fault fault =>
        have held := ends.fault run
        simp only [reportOn] at reported
        split at reported
        · cases reported
          exact ⟨after, held, rfl, Diagnostics.isPrefix_push _ _⟩
        · cases reported

/-- A parse has been cut off by a limit: there is no value, one expression more
than allowed has been counted, and the diagnostics are those that the whole
parse reports first, with the report that the limit was passed, which names no
rule. -/
structure CutOff (session : Session α σ) (limit : Nat) (whole cut : Parsed α) :
    Prop where
  noValue : cut.value = none
  expressions : cut.expressions = limit + 1
  diagnostics : ∃ (earlier : List Diagnostic) (position : Position),
    earlier <+: whole.diagnostics.toList ∧
      cut.diagnostics.toList = earlier ++
        [⟨position, session.placeText position, .maxExpressions⟩]

theorem cutOff_of_outlasts {limit : Nat} {entry : Rule α σ} {depth : Nat}
    {early after : ParseState α σ} {whole : Parsed α}
    (starts : session.grammar.start? = some entry)
    (valid : session.grammar.error? = none)
    (stops : (session.limiting (some limit)).entering depth entry =
      .ok (.aborted .maxExpressions) early)
    (outlasts : Outlasts limit early after)
    (shown : after.diagnostics.toList <+: whole.diagnostics.toList) :
    session.CutOff limit whole
      ⟨none, (early.reportAbort session .maxExpressions).diagnostics,
        early.expressions⟩ := by
  have startsToo : (session.limiting (some limit)).grammar.start? =
      some entry := starts
  have settled := (entering_settles startsToo valid depth).result stops
  obtain ⟨-, _, ⟨rfl⟩, passed⟩ := settled.describes
  have noRule : early.activeRules = [] :=
    settled.balanced.activeRules.trans (activeRules_opening _)
  have reported := toList_reportAbort settled.sound noRule
  exact ⟨rfl, passed, early.diagnostics.toList, early.cursor.position,
    outlasts.shown.trans shown, reported⟩

/-- A limit on expressions is an exact cut-off: a parse that stays within it is
the parse without a limit, and any other is cut off at the first expression
beyond it. -/
theorem limiting_cuts_off (session : Session α σ) {whole : Parsed α}
    {log : Array LogEntry}
    (gives : (session.limiting none).Gives ⟨.parsed whole, log⟩)
    (limit : Nat) :
    (whole.expressions ≤ limit →
        (session.limiting (some limit)).Gives ⟨.parsed whole, log⟩) ∧
      (limit < whole.expressions →
        ∃ cut logToo, (session.limiting (some limit)).Gives
            ⟨.parsed cut, logToo⟩ ∧
          session.CutOff limit whole cut) := by
  cases valid : session.grammar.error? with
  | some error =>
      obtain ⟨depth, reported⟩ := gives
      obtain ⟨entry, rejected⟩ := gives_of_invalid valid
      rw [parseWithin_limiting_of_invalid valid] at reported
      have counted : whole.expressions = 0 := by
        cases Gives.unique ⟨depth, reported⟩ rejected
        rfl
      refine ⟨fun _ => ⟨depth, ?_⟩, fun passed => ?_⟩
      · exact (parseWithin_limiting_of_invalid valid _ depth).trans reported
      · omega
  | none =>
      obtain ⟨entry, starts⟩ := Grammar.start?_of_valid valid
      obtain ⟨depth, reported⟩ :=
        (gives_limiting_iff starts valid none).mp gives
      cases session.entering_curtailed limit depth entry with
      | same same within =>
          obtain ⟨after, atMost, count, -⟩ :=
            exists_state_of_reportOn within reported
          refine ⟨fun _ => (gives_limiting_iff starts valid _).mpr
            ⟨depth, (congrArg session.reportOn same).trans reported⟩,
            fun passed => ?_⟩
          omega
      | short early stops passes =>
          obtain ⟨after, outlasts, count, shown⟩ :=
            exists_state_of_reportOn passes reported
          refine ⟨fun atMost => ?_, fun _ => ?_⟩
          · have passed := outlasts.passed
            omega
          · exact ⟨_, _, (gives_limiting_iff starts valid _).mpr
              ⟨depth, congrArg session.reportOn stops⟩,
              cutOff_of_outlasts starts valid stops outlasts shown⟩

end Session

namespace Grammar

/-- A grammar of any characters. -/
def characters : Grammar Unit := ⟨[⟨"Characters", "", .oneOrMore .any⟩]⟩

/-- A parse of three characters, the second of which is a malformed byte. -/
def charactersSession : Session Unit :=
  .ofSettings characters "characters" ⟨#[0x61, 0xFF, 0x62]⟩ []

/-- Five expressions are counted; with a limit of four, the parse is cut off
when the malformed byte has been reported. -/
theorem characters_cut_off :
    ∃ whole log,
      (charactersSession.limiting none).Gives ⟨.parsed whole, log⟩ ∧
        whole.expressions = 5 ∧
        whole.diagnostics.hasKind .encoding ∧
        (charactersSession.limiting (some 5)).Gives ⟨.parsed whole, log⟩ ∧
        ∃ cut logToo,
          (charactersSession.limiting (some 4)).Gives ⟨.parsed cut, logToo⟩ ∧
            charactersSession.CutOff 4 whole cut :=
  have gives : (charactersSession.limiting none).Gives _ := ⟨6, rfl⟩
  ⟨_, _, gives, rfl, by decide +kernel,
    (Session.limiting_cuts_off charactersSession gives 5).1 (by decide),
    (Session.limiting_cuts_off charactersSession gives 4).2 (by decide)⟩

end Grammar

end PegEngine
