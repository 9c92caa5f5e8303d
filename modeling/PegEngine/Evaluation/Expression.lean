import PegEngine.Evaluation.Matching

/-!
# Evaluating expressions

Evaluation changes the state of a parse and comes to a verdict on the
expression, unless the code of the grammar fails.  Nodes are evaluated up to a
given depth of nesting: `evalExpr depth` evaluates an expression with its
members evaluated to the depth below, so a verdict that is reached at some
depth is reached at every greater one, and an evaluation without end is one
that no depth suffices for.

Evaluation is split into what an expression does with the verdicts of its
members (`evalNode`) and what is done around every node (`visit`): replaying
and keeping results, counting, and tracing.
-/

namespace PegEngine

/-- Why an evaluation stops without a verdict: code has failed, or the depth
that was allowed does not suffice. -/
inductive Interrupt where
  | fault (fault : Fault)
  | exhausted
deriving DecidableEq, Repr

/-- A part of an evaluation, which changes the state of the parse. -/
abbrev Eval (α σ β : Type) := EStateM Interrupt (ParseState α σ) β

namespace Eval

variable {α σ β : Type}

def cursor : Eval α σ Cursor := do
  return (← get).cursor

/-- Evaluate in a label scope of its own. -/
def inScope (body : Eval α σ β) : Eval α σ β := do
  modify ParseState.pushScope
  let result ← body
  modify ParseState.popScope
  return result

/-- Evaluate with attempts counting the other way round. -/
def underNot (body : Eval α σ β) : Eval α σ β := do
  modify ParseState.toggle
  let result ← body
  modify ParseState.toggle
  return result

/-- Run code on a match from a cursor up to the current one.  The store that it
leaves is kept, also when it complains. -/
def runCode (session : Session α σ) (code : Code α σ β) (start : Cursor)
    (value : Value α) : Eval α σ (Except String β) := do
  let (reply, store) := code ((← get).context session start value)
  modify fun state => { state with store := store }
  match reply with
  | .answer result => return .ok result
  | .complaint message => return .error message
  | .failure fault => throw (.fault fault)

/-- Evaluate a node, or replay the result that was kept for it.  Results are
kept unless the evaluation is given up. -/
def memoized (session : Session α σ) (enabled : Bool) (node : NodeKey)
    (evaluate : Eval α σ (Verdict α)) : Eval α σ (Verdict α) := do
  if enabled then
    let key := (← get).memoKey node
    match (← get).memo.lookup key with
    | some entry =>
      modify (ParseState.restore session entry.finish)
      return .ofResult entry.value
    | none =>
      let verdict ← evaluate
      match verdict with
      | .matched value => modify (ParseState.remember key (some value))
      | .unmatched => modify (ParseState.remember key none)
      | .aborted _ => pure ()
      return verdict
  else evaluate

/-- Evaluate between the traces of entering and leaving a node. -/
def traced (session : Session α σ) (subject : Subject) (body : Eval α σ β) :
    Eval α σ β := do
  modify (ParseState.enterNode session subject)
  let result ← body
  modify (ParseState.leaveNode session subject)
  return result

/-- Evaluate an expression of which no result was kept, which counts. -/
def counted (session : Session α σ) (expr : Expr α σ)
    (evaluate : Eval α σ (Verdict α)) : Eval α σ (Verdict α) := do
  modify ParseState.countExpression
  if (← get).overLimit session then return .aborted .maxExpressions
  traced session (.expression expr.kindName) evaluate

/-- What is done around the evaluation of every expression. -/
def visit (session : Session α σ) (place : ExprPlace) (expr : Expr α σ)
    (evaluate : Eval α σ (Verdict α)) : Eval α σ (Verdict α) :=
  memoized session (session.options.memoize && !expr.usesScope)
    (.expression place) (counted session expr evaluate)

/-- Evaluate expressions one after the other, adding their values to those of
the expressions before (the last one first). -/
def evalSequence (session : Session α σ)
    (evaluate : ExprPlace → Expr α σ → Eval α σ (Verdict α)) (place : ExprPlace)
    (start : Cursor) :
    (index : Nat) → (values : List (Value α)) → List (Expr α σ) →
      Eval α σ (Verdict α)
  | _, values, [] => return .matched (.list values.reverse)
  | index, values, expr :: exprs => do
    match ← evaluate (place.member index) expr with
    | .matched value =>
      evalSequence session evaluate place start (index + 1) (value :: values)
        exprs
    | .unmatched =>
      modify (ParseState.restore session start)
      return .unmatched
    | .aborted error => return .aborted error

/-- Evaluate expressions until one of them matches. -/
def evalChoice (evaluate : ExprPlace → Expr α σ → Eval α σ (Verdict α))
    (place : ExprPlace) : (index : Nat) → List (Expr α σ) → Eval α σ (Verdict α)
  | _, [] => return .unmatched
  | index, expr :: exprs => do
    match ← inScope (evaluate (place.member index) expr) with
    | .unmatched => evalChoice evaluate place (index + 1) exprs
    | verdict => return verdict

/-- Evaluate an expression over and over, until it fails to match or matches
without consuming anything, and collect the values (the last one first).  Each
round but the last one consumes something, so there are no more rounds than
bytes that are left and one. -/
def evalRounds (body : Eval α σ (Verdict α)) :
    (rounds : Nat) → (values : List (Value α)) →
      Eval α σ (Except ParseError (List (Value α)))
  | 0, _ => throw .exhausted
  | rounds + 1, values => do
    let start ← cursor
    match ← inScope body with
    | .matched value =>
      if (← cursor).offset = start.offset then return .ok (value :: values)
      else evalRounds body rounds (value :: values)
    | .unmatched => return .ok values
    | .aborted error => return .error error

/-- Evaluate a repetition, of at least as many rounds as are required. -/
def evalRepetition (session : Session α σ) (required : Nat)
    (body : Eval α σ (Verdict α)) : Eval α σ (Verdict α) := do
  let rounds := session.input.size - (← cursor).offset + 1
  match ← evalRounds body rounds [] with
  | .ok values =>
    if values.length < required then return .unmatched
    else return .matched (.list values.reverse)
  | .error error => return .aborted error

/-- Evaluate a lookahead: whatever it consumes is given back. -/
def lookahead (session : Session α σ) (body : Eval α σ (Verdict α)) :
    Eval α σ (Verdict α) := do
  let start ← cursor
  let verdict ← inScope body
  modify (ParseState.restore session start)
  return verdict

def inRule (rule : Rule α σ) (body : Eval α σ β) : Eval α σ β := do
  modify (ParseState.enterRule rule)
  let result ← body
  modify ParseState.leaveRule
  return result

/-- Evaluate a rule of which no result was kept. -/
def runRule (session : Session α σ) (rule : Rule α σ)
    (body : Eval α σ (Verdict α)) : Eval α σ (Verdict α) := do
  let start ← cursor
  let verdict ← traced session (.rule rule.name) (inRule rule body)
  if let .matched _ := verdict then
    modify (ParseState.traceMatch session start)
  return verdict

def evalRule (session : Session α σ)
    (evaluate : ExprPlace → Expr α σ → Eval α σ (Verdict α))
    (rule : Rule α σ) (index : Nat) : Eval α σ (Verdict α) :=
  memoized session session.options.memoize (.rule index)
    (runRule session rule (evaluate (.body index) rule.body))

def evalReference (session : Session α σ)
    (evaluate : ExprPlace → Expr α σ → Eval α σ (Verdict α)) (name : String) :
    Eval α σ (Verdict α) :=
  if name.isEmpty then return .aborted .missingRuleName
  else
    match session.grammar.target? name with
    | some (rule, index) => evalRule session evaluate rule index
    | none => return .aborted (.undefinedRule name)

/-- Evaluate an action, which replaces the value of a match.  A complaint is
reported at the start of the match, and leaves it without a value. -/
def evalAction (session : Session α σ) (run : Action α σ)
    (body : Eval α σ (Verdict α)) : Eval α σ (Verdict α) := do
  let start ← cursor
  match ← body with
  | .matched value =>
    let reply ← runCode session run start value
    modify (ParseState.traceMatch session start)
    match reply with
    | .ok result => return .matched result
    | .error message =>
      modify (ParseState.report session (.semantic message) start.position)
      return .matched .nil
  | verdict => return verdict

/-- Evaluate a predicate, which has to give the expected answer.  A complaint
counts as the expected answer. -/
def evalPredicate (session : Session α σ) (test : Predicate α σ)
    (expected : Bool) : Eval α σ (Verdict α) := do
  match ← runCode session test (← cursor) .nil with
  | .ok holds =>
    if holds = expected then return .matched .nil else return .unmatched
  | .error message =>
    modify (ParseState.reportHere session (.semantic message))
    return .matched .nil

/-- Evaluate an expression, given how its members are evaluated. -/
def evalNode (session : Session α σ)
    (evaluate : ExprPlace → Expr α σ → Eval α σ (Verdict α))
    (place : ExprPlace) :
    Expr α σ → Eval α σ (Verdict α)
  | .literal text ignoresCase =>
    modifyGet (ParseState.matchLiteral session text ignoresCase)
  | .oneOf charClass =>
    modifyGet
      (ParseState.matchChar session charClass.accepts charClass.descriptor)
  | .any =>
    modifyGet
      (ParseState.matchChar session (fun _ => true) Expectations.anyDescriptor)
  | .sequence members => do
    evalSequence session evaluate place (← cursor) 0 [] members
  | .choice alternatives => evalChoice evaluate place 0 alternatives
  | .zeroOrMore body =>
    evalRepetition session 0 (evaluate (place.member 0) body)
  | .oneOrMore body => evalRepetition session 1 (evaluate (place.member 0) body)
  | .optional body => do
    match ← inScope (evaluate (place.member 0) body) with
    | .unmatched => return .matched .nil
    | verdict => return verdict
  | .followedBy body => do
    match ← lookahead session (evaluate (place.member 0) body) with
    | .matched _ => return .matched .nil
    | verdict => return verdict
  | .notFollowedBy body => do
    match ← lookahead session (underNot (evaluate (place.member 0) body)) with
    | .matched _ => return .unmatched
    | .unmatched => return .matched .nil
    | .aborted error => return .aborted error
  | .labeled label body => do
    let verdict ← inScope (evaluate (place.member 0) body)
    if let .matched value := verdict then modify (ParseState.bind label value)
    return verdict
  | .reference name => evalReference session evaluate name
  | .action body run => evalAction session run (evaluate (place.member 0) body)
  | .require test => evalPredicate session test true
  | .forbid test => evalPredicate session test false

/-- Evaluate the expression at a place of the grammar, with nodes nested no
deeper than the given depth. -/
def evalExpr (session : Session α σ) :
    (depth : Nat) → ExprPlace → Expr α σ → Eval α σ (Verdict α)
  | 0, _, _ => throw .exhausted
  | depth + 1, place, expr =>
    visit session place expr
      (evalNode session (evalExpr session depth) place expr)

end Eval

end PegEngine
