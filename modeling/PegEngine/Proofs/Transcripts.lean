import PegEngine.Proofs.Moments

/-!
# The calls of code

In the course of a parse the code of the grammar is called, with what there is
to see of a match, and replies.  A transcript of a program of the evaluator
lists these calls in the order in which they are made, each with the node to
which the code belongs (`Transcript`).  It is kept by a proof that the store
goes from each call to the next one and changes nowhere else
(`CodeCall.Hands`), so that no call can be left out that does anything.

As for watches, there is one transcript for each function of the evaluator, and
its type says which.  The transcript of a parse is `Session.calls`.
-/

namespace PegEngine

open ParseState

/-- What a reply complains of, if it does. -/
def Reply.complaint? {β : Type} : Reply β → Option String
  | .complaint message => some message
  | .answer _ | .failure _ => none

/-- The code of a node. -/
inductive NodeCode (α σ : Type) where
  | action (run : Action α σ)
  | predicate (test : Predicate α σ)

namespace NodeCode

variable {α σ : Type}

/-- What code complains of, if it does. -/
def complaint? (context : MatchContext α σ) : NodeCode α σ → Option String
  | .action run => (run context).1.complaint?
  | .predicate test => (test context).1.complaint?

/-- The store that code leaves. -/
def leaves (context : MatchContext α σ) : NodeCode α σ → Store σ
  | .action run => (run context).2
  | .predicate test => (test context).2

end NodeCode

/-- A call of code: the node to which the code belongs, and what it sees. -/
structure CodeCall (α σ : Type) where
  place : ExprPlace
  code : NodeCode α σ
  context : MatchContext α σ

theorem ParseState.store_bind {α σ : Type} (label : String) (value : Value α)
    (state : ParseState α σ) :
    (state.bind label value).store = state.store := by
  unfold ParseState.bind
  split <;> rfl

namespace CodeCall

variable {α σ : Type}

/-- The code that is called, and what it sees, wherever it stands. -/
def exchange (call : CodeCall α σ) : NodeCode α σ × MatchContext α σ :=
  (call.code, call.context)

/-- Calls hand a store on: each of them sees what the one before it has left,
and the last one leaves what there is in the end. -/
def Hands (first : Store σ) : List (CodeCall α σ) → Store σ → Prop
  | [], last => last = first
  | call :: calls, last =>
    call.context.store = first ∧
      Hands (call.code.leaves call.context) calls last

theorem Hands.trans {first middle last : Store σ}
    {calls later : List (CodeCall α σ)}
    (hands : Hands first calls middle) (handsLater : Hands middle later last) :
    Hands first (calls ++ later) last := by
  induction calls generalizing first with
  | nil => exact (hands : middle = first) ▸ handsLater
  | cons call calls ih => exact ⟨hands.1, ih hands.2⟩

end CodeCall

/-- A transcript of a program: the code that it calls when it is run from a
state, also if it does not come to a result. -/
structure Transcript {α σ β : Type} (session : Session α σ)
    (program : Eval α σ β) where
  calls : ParseState α σ → List (CodeCall α σ)
  hands : ∀ state, CodeCall.Hands state.store (calls state)
    (Eval.endState (program state)).store

namespace Transcript

variable {α σ β γ : Type} {session : Session α σ}

protected def pure (result : β) :
    Transcript session (pure result : Eval α σ β) where
  calls _ := []
  hands _ := rfl

protected def throw (interrupt : Interrupt) :
    Transcript session (throw interrupt : Eval α σ β) where
  calls _ := []
  hands _ := rfl

protected def get : Transcript session (get : Eval α σ (ParseState α σ)) where
  calls _ := []
  hands _ := rfl

protected def cursor : Transcript session (Eval.cursor (α := α)) where
  calls _ := []
  hands _ := rfl

/-- One program, and then the one that goes on with its result. -/
protected def bind {program : Eval α σ β} {next : β → Eval α σ γ}
    (transcript : Transcript session program)
    (later : ∀ result, Transcript session (next result)) :
    Transcript session (program >>= next) where
  calls state :=
    transcript.calls state ++
      match program state with
      | .ok result after => (later result).calls after
      | .error _ _ => []
  hands state := by
    have first := transcript.hands state
    simp only [Bind.bind, EStateM.bind]
    cases run : program state with
    | ok result after =>
        rw [run] at first
        exact first.trans ((later result).hands after)
    | error interrupt after =>
        rw [run] at first
        exact (List.append_nil (transcript.calls state)).symm ▸ first

/-- Whichever of two programs a test selects. -/
protected def ite {test : Prop} [Decidable test] {program other : Eval α σ β}
    (transcript : Transcript session program)
    (otherwise : Transcript session other) :
    Transcript session (if test then program else other) where
  calls state :=
    if test then transcript.calls state else otherwise.calls state
  hands state := by
    split
    · exact transcript.hands state
    · exact otherwise.hands state

/-- A change of the state that does not touch the store calls nothing. -/
def change {update : ParseState α σ → ParseState α σ}
    (unchanged : ∀ state, (update state).store = state.store) :
    Transcript session (modify update) where
  calls _ := []
  hands := unchanged

/-- So does a matcher. -/
def matcher {update : ParseState α σ → β × ParseState α σ}
    (unchanged : ∀ state, (update state).2.store = state.store) :
    Transcript session (modifyGet update) where
  calls _ := []
  hands := unchanged

/-- Code is called once, whatever it replies. -/
def runCode (place : ExprPlace) (named : NodeCode α σ) {code : Code α σ β}
    (same : ∀ context, named.leaves context = (code context).2)
    (start : Cursor) (value : Value α) :
    Transcript session (Eval.runCode session code start value) where
  calls state := [⟨place, named, state.context session start value⟩]
  hands state := by
    refine ⟨rfl, ?_⟩
    rw [same, Eval.runCode_eq]
    rcases code (state.context session start value) with ⟨reply, store⟩
    cases reply <;> rfl

/-- A program that runs between two changes of the state. -/
def between (enter leave : ParseState α σ → ParseState α σ)
    (enters : ∀ state, (enter state).store = state.store)
    (leaves : ∀ state, (leave state).store = state.store)
    {program : Eval α σ β} (transcript : Transcript session program) :
    Transcript session (do
      modify enter
      let result ← program
      modify leave
      return result) :=
  .bind (change enters) fun _ =>
    .bind transcript fun _ =>
      .bind (change leaves) fun _ => .pure _

def inScope {program : Eval α σ β} (transcript : Transcript session program) :
    Transcript session (Eval.inScope program) :=
  between pushScope popScope (fun _ => rfl) (fun _ => rfl) transcript

def underNot {program : Eval α σ β} (transcript : Transcript session program) :
    Transcript session (Eval.underNot program) :=
  between toggle toggle (fun _ => rfl) (fun _ => rfl) transcript

def traced (subject : Subject) {program : Eval α σ β}
    (transcript : Transcript session program) :
    Transcript session (Eval.traced session subject program) :=
  between (enterNode session subject) (leaveNode session subject)
    (fun _ => store_enterNode subject) (fun _ => store_leaveNode subject)
    transcript

def inRule (rule : Rule α σ) {program : Eval α σ β}
    (transcript : Transcript session program) :
    Transcript session (Eval.inRule rule program) :=
  between (enterRule rule) leaveRule (fun _ => rfl) (fun _ => rfl) transcript

def restore (cursor : Cursor) :
    Transcript session (modify (ParseState.restore session cursor)) :=
  change fun state => (steady_restore session cursor state).store

def traceMatch (start : Cursor) :
    Transcript session (modify (ParseState.traceMatch session start)) :=
  change (store_traceMatch session start)

def lookahead {program : Eval α σ (Verdict α)}
    (transcript : Transcript session program) :
    Transcript session (Eval.lookahead session program) :=
  .bind .cursor fun start =>
    .bind transcript.inScope fun _ => .bind (restore start) fun _ => .pure _

/-- What is replayed calls nothing. -/
def memoized (enabled : Bool) (node : NodeKey) {program : Eval α σ (Verdict α)}
    (transcript : Transcript session program) :
    Transcript session (Eval.memoized session enabled node program) :=
  .ite
    (.bind .get fun _ =>
      .bind .get fun state =>
        match state.memo.lookup _ with
        | some entry => .bind (restore entry.finish) fun _ => .pure _
        | none =>
          .bind transcript fun verdict =>
            match verdict with
            | .matched _ => .bind (change fun _ => rfl) fun _ => .pure _
            | .unmatched => .bind (change fun _ => rfl) fun _ => .pure _
            | .aborted _ => .pure _)
    transcript

def counted (expr : Expr α σ) {program : Eval α σ (Verdict α)}
    (transcript : Transcript session program) :
    Transcript session (Eval.counted session expr program) :=
  .bind (change fun _ => rfl) fun _ =>
    .bind .get fun _ => .ite (.pure _) (transcript.traced _)

def visit (place : ExprPlace) (expr : Expr α σ) {program : Eval α σ (Verdict α)}
    (transcript : Transcript session program) :
    Transcript session (Eval.visit session place expr program) :=
  memoized _ _ (counted expr transcript)

section Nodes

def rounds {body : Eval α σ (Verdict α)}
    (transcript : Transcript session body) :
    (rounds : Nat) → (values : List (Value α)) →
      Transcript session (Eval.evalRounds body rounds values)
  | 0, _ => .throw _
  | rounds + 1, _ =>
    .bind .cursor fun _ =>
      .bind transcript.inScope fun verdict =>
        match verdict with
        | .matched _ =>
          .bind .cursor fun _ =>
            .ite (.pure _) (Transcript.rounds transcript rounds _)
        | .unmatched => .pure _
        | .aborted _ => .pure _

def repetition (required : Nat) {body : Eval α σ (Verdict α)}
    (transcript : Transcript session body) :
    Transcript session (Eval.evalRepetition session required body) :=
  .bind .cursor fun _ =>
    .bind (rounds transcript _ _) fun result =>
      match result with
      | .ok _ => .ite (.pure _) (.pure _)
      | .error _ => .pure _

/-- An action is called after its body has matched. -/
def action (place : ExprPlace) (run : Action α σ) {body : Eval α σ (Verdict α)}
    (transcript : Transcript session body) :
    Transcript session (Eval.evalAction session run body) :=
  .bind .cursor fun start =>
    .bind transcript fun verdict =>
      match verdict with
      | .matched value =>
        .bind (runCode place (.action run) (fun _ => rfl) start value)
          fun reply =>
            .bind (traceMatch start) fun _ =>
              match reply with
              | .ok _ => .pure _
              | .error _ => .bind (change fun _ => rfl) fun _ => .pure _
      | .unmatched => .pure _
      | .aborted _ => .pure _

def predicate (place : ExprPlace) (test : Predicate α σ) (expected : Bool) :
    Transcript session (Eval.evalPredicate session test expected) :=
  .bind .cursor fun start =>
    .bind (runCode place (.predicate test) (fun _ => rfl) start .nil)
      fun reply =>
        match reply with
        | .ok _ => .ite (.pure _) (.pure _)
        | .error _ => .bind (change fun _ => rfl) fun _ => .pure _

def runRule (rule : Rule α σ) {body : Eval α σ (Verdict α)}
    (transcript : Transcript session body) :
    Transcript session (Eval.runRule session rule body) :=
  .bind .cursor fun start =>
    .bind ((transcript.inRule rule).traced (.rule rule.name)) fun verdict =>
      match verdict with
      | .matched _ => .bind (traceMatch start) fun _ => .pure _
      | .unmatched => .pure _
      | .aborted _ => .pure _

variable {evaluate : ExprPlace → Expr α σ → Eval α σ (Verdict α)}
  (members : ∀ place expr, Transcript session (evaluate place expr))

def sequence (place : ExprPlace) (start : Cursor) :
    (index : Nat) → (values : List (Value α)) → (exprs : List (Expr α σ)) →
      Transcript session
        (Eval.evalSequence session evaluate place start index values exprs)
  | _, _, [] => .pure _
  | index, _, expr :: exprs =>
    .bind (members (place.member index) expr) fun verdict =>
      match verdict with
      | .matched _ => sequence place start (index + 1) _ exprs
      | .unmatched => .bind (restore start) fun _ => .pure _
      | .aborted _ => .pure _

def choice (place : ExprPlace) : (index : Nat) → (exprs : List (Expr α σ)) →
    Transcript session (Eval.evalChoice evaluate place index exprs)
  | _, [] => .pure _
  | index, expr :: exprs =>
    .bind (members (place.member index) expr).inScope fun verdict =>
      match verdict with
      | .matched _ => .pure _
      | .unmatched => choice place (index + 1) exprs
      | .aborted _ => .pure _

def rule (rule : Rule α σ) (index : Nat) :
    Transcript session (Eval.evalRule session evaluate rule index) :=
  memoized _ _ (runRule rule (members (.body index) rule.body))

def reference (name : String) :
    Transcript session (Eval.evalReference session evaluate name) :=
  .ite (.pure _)
    (match session.grammar.target? name with
    | some (target, index) => rule members target index
    | none => .pure _)

/-- The transcript of what an expression does with its members, given the
transcripts of these. -/
def node (place : ExprPlace) : (expr : Expr α σ) →
    Transcript session (Eval.evalNode session evaluate place expr)
  | .literal text ignoresCase =>
    matcher fun state =>
      (steady_matchLiteral session text ignoresCase state).store
  | .oneOf charClass =>
    matcher fun state =>
      (steady_matchChar session charClass.accepts charClass.descriptor
        state).store
  | .any =>
    matcher fun state =>
      (steady_matchChar session (fun _ => true) Expectations.anyDescriptor
        state).store
  | .sequence exprs =>
    .bind .cursor fun start => sequence members place start 0 [] exprs
  | .choice alternatives => choice members place 0 alternatives
  | .zeroOrMore body => repetition 0 (members (place.member 0) body)
  | .oneOrMore body => repetition 1 (members (place.member 0) body)
  | .optional body =>
    .bind (members (place.member 0) body).inScope fun verdict =>
      match verdict with
      | .matched _ | .unmatched | .aborted _ => .pure _
  | .followedBy body =>
    .bind (members (place.member 0) body).lookahead fun verdict =>
      match verdict with
      | .matched _ | .unmatched | .aborted _ => .pure _
  | .notFollowedBy body =>
    .bind (members (place.member 0) body).underNot.lookahead fun verdict =>
      match verdict with
      | .matched _ | .unmatched | .aborted _ => .pure _
  | .labeled label body =>
    .bind (members (place.member 0) body).inScope fun verdict =>
      match verdict with
      | .matched value =>
        .bind (change (store_bind label value)) fun _ => .pure _
      | .unmatched | .aborted _ => .pure _
  | .reference name => reference members name
  | .action body run => action place run (members (place.member 0) body)
  | .require test => predicate place test true
  | .forbid test => predicate place test false

end Nodes

/-- The transcript of the evaluation of an expression, with nodes nested no
deeper than the given depth. -/
def expr (session : Session α σ) : (depth : Nat) → (place : ExprPlace) →
    (expr : Expr α σ) →
      Transcript session (Eval.evalExpr session depth place expr)
  | 0, _, _ => .throw _
  | depth + 1, place, expr =>
    visit place expr (node (Transcript.expr session depth) place expr)

end Transcript

namespace Session

variable {α σ : Type}

/-- The calls of code in a parse, with nodes nested no deeper than the given
depth.  A grammar that is rejected calls nothing. -/
def calls (session : Session α σ) (depth : Nat) : List (CodeCall α σ) :=
  match session.grammar.start?, session.grammar.error? with
  | some entry, none =>
    (Transcript.rule (Transcript.expr session depth) entry 0).calls
      session.opening
  | _, _ => []

end Session

end PegEngine
