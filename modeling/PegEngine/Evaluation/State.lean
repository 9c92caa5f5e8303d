import PegEngine.Evaluation.Log
import PegEngine.Expectations
import PegEngine.Grammar.Rules
import PegEngine.Memo
import PegEngine.Options

/-!
# The state of a parse

A session is what stays fixed during a parse: the grammar, the input and its
name, and the options.  The state is what changes.  This file has the changes
that an evaluation makes, each as a function on states; none of them can fail.
-/

namespace PegEngine

/-- What stays fixed during a parse.  The store of the options is the one that
the parse starts with. -/
structure Session (α : Type) (σ : Type := StoreValue) where
  grammar : Grammar α σ
  fileName : String
  input : ByteArray
  options : Options σ

/-- What changes during a parse: the cursor, the label scopes, the rules that
are being evaluated (the innermost first), the results that were kept, the
farthest failures, the diagnostics, the offset of the last malformed byte that
was reported, the number of evaluated expressions, the number of traced nodes
that are open, the store, and the log. -/
structure ParseState (α : Type) (σ : Type := StoreValue) where
  cursor : Cursor
  scopes : ScopeStack α
  activeRules : List (Rule α σ)
  memo : MemoTable α
  expectations : Expectations
  diagnostics : Diagnostics
  reportedByte : Option Nat
  expressions : Nat
  openNodes : Nat
  store : Store σ
  log : Array LogEntry

namespace ParseState

variable {α σ : Type}

def initial (session : Session α σ) : ParseState α σ where
  cursor := Cursor.start
  scopes := ScopeStack.root
  activeRules := []
  memo := MemoTable.empty
  expectations := Expectations.empty
  diagnostics := Diagnostics.empty
  reportedByte := none
  expressions := 0
  openNodes := 0
  store := session.options.store
  log := #[]

def note (entry : LogEntry) (state : ParseState α σ) : ParseState α σ :=
  { state with log := state.log.push entry }

/-- Log an entry if the parse is traced. -/
def trace (session : Session α σ) (entry : LogEntry) (state : ParseState α σ) :
    ParseState α σ :=
  if session.options.debug then state.note entry else state

/-- The place of a diagnostic in writing: the name of the input, unless it is
empty, the position, and the innermost rule, if there is one. -/
def location (session : Session α σ) (position : Position)
    (state : ParseState α σ) : String :=
  (if session.fileName.isEmpty then "" else session.fileName ++ ":") ++
    position.parenthesized ++
    match state.activeRules with
    | rule :: _ => ": rule " ++ rule.diagnosticName
    | [] => ""

def report (session : Session α σ) (error : ParseError) (position : Position)
    (state : ParseState α σ) : ParseState α σ :=
  { state with
    diagnostics := state.diagnostics.push
      ⟨position, state.location session position, error⟩ }

def reportHere (session : Session α σ) (error : ParseError)
    (state : ParseState α σ) : ParseState α σ :=
  state.report session error state.cursor.position

/-- Test whether a malformed byte at an offset has not been reported yet.
Going back reads the same bytes again, so only offsets beyond the last reported
one are new. -/
def isNewByte (offset : Nat) (state : ParseState α σ) : Bool :=
  match state.reportedByte with
  | some reported => reported < offset
  | none => true

/-- Report that the byte at the cursor is malformed, once for each byte. -/
def reportMalformed (session : Session α σ) (state : ParseState α σ) :
    ParseState α σ :=
  if state.isNewByte state.cursor.offset then
    { state with reportedByte := some state.cursor.offset }.reportHere session
      .invalidEncoding
  else state

/-- Move the cursor to the next code point. -/
def read (session : Session α σ) (state : ParseState α σ) : ParseState α σ :=
  let moved := { state with cursor := state.cursor.advance session.input }
  if (state.cursor.upcoming session.input).valid then moved
  else moved.reportMalformed session

/-- Put the cursor back, or forward to the end of a match that is replayed. -/
def restore (session : Session α σ) (cursor : Cursor) (state : ParseState α σ) :
    ParseState α σ :=
  if cursor.offset = state.cursor.offset then { state with cursor := cursor }
  else
    { state.trace session (.restored state.openNodes cursor.position) with
      cursor := cursor }

/-- The input between a cursor and the current one. -/
def textFrom (session : Session α σ) (start : Cursor) (state : ParseState α σ) :
    ByteArray :=
  session.input.extract start.offset state.cursor.offset

/-- Record the attempt of a matcher that started at a cursor. -/
def attempt (failed : Bool) (start : Cursor) (descriptor : String)
    (state : ParseState α σ) : ParseState α σ :=
  { state with
    expectations :=
      state.expectations.record failed start.position descriptor }

/-- Enter or leave a negative lookahead. -/
def toggle (state : ParseState α σ) : ParseState α σ :=
  { state with expectations := state.expectations.toggle }

def pushScope (state : ParseState α σ) : ParseState α σ :=
  { state with scopes := state.scopes.push }

def popScope (state : ParseState α σ) : ParseState α σ :=
  { state with scopes := state.scopes.pop }

/-- Bind a label in the current scope; the empty label binds nothing. -/
def bind (label : String) (value : Value α) (state : ParseState α σ) :
    ParseState α σ :=
  if label.isEmpty then state
  else { state with scopes := state.scopes.bind label value }

/-- Enter a rule, which has a label scope of its own. -/
def enterRule (rule : Rule α σ) (state : ParseState α σ) : ParseState α σ :=
  { state with activeRules := rule :: state.activeRules }.pushScope

def leaveRule (state : ParseState α σ) : ParseState α σ :=
  { state.popScope with activeRules := state.activeRules.tail }

def enterNode (session : Session α σ) (subject : Subject)
    (state : ParseState α σ) : ParseState α σ :=
  if session.options.debug then
    { state.note (.entered (state.openNodes + 1) subject state.cursor) with
      openNodes := state.openNodes + 1 }
  else state

def leaveNode (session : Session α σ) (subject : Subject)
    (state : ParseState α σ) : ParseState α σ :=
  if session.options.debug then
    { state.note (.left state.openNodes subject state.cursor) with
      openNodes := state.openNodes - 1 }
  else state

def traceMatch (session : Session α σ) (start : Cursor)
    (state : ParseState α σ) : ParseState α σ :=
  if session.options.debug then
    state.note (.matched state.openNodes (state.textFrom session start))
  else state

/-- Count an expression that is about to be evaluated. -/
def countExpression (state : ParseState α σ) : ParseState α σ :=
  { state with expressions := state.expressions + 1 }

/-- Test whether more expressions have been counted than the options allow. -/
def overLimit (session : Session α σ) (state : ParseState α σ) : Bool :=
  match session.options.maxExpressions with
  | some limit => limit < state.expressions
  | none => false

/-- What code sees of a match from a cursor up to the current one. -/
def context (session : Session α σ) (start : Cursor) (value : Value α)
    (state : ParseState α σ) : MatchContext α σ :=
  ⟨start.position, state.textFrom session start, value,
    state.scopes.top.toMap, state.store⟩

/-- Where the result of a node that starts at the cursor belongs. -/
def memoKey (node : NodeKey) (state : ParseState α σ) : MemoKey :=
  ⟨state.cursor.offset, node, state.expectations.inverted⟩

/-- Keep a result that ends at the cursor. -/
def remember (key : MemoKey) (value : Option (Value α))
    (state : ParseState α σ) : ParseState α σ :=
  { state with memo := state.memo.store key ⟨value, state.cursor⟩ }

/-- Report what was wanted at the farthest offset, unless something else has
been reported. -/
def reportNoMatch (session : Session α σ) (state : ParseState α σ) :
    ParseState α σ :=
  if state.diagnostics.isEmpty then
    state.report session (.noMatch state.expectations.expected)
      state.expectations.farthest
  else state

/-- Report the error that ended the evaluation early. -/
def reportAbort (session : Session α σ) (error : ParseError)
    (state : ParseState α σ) : ParseState α σ :=
  (state.note (.aborted session.fileName state.expressions error)).reportHere
    session error

/-- Report a fault that has been contained. -/
def reportFault (session : Session α σ) (fault : Fault)
    (state : ParseState α σ) : ParseState α σ :=
  (state.note (.recovered session.fileName fault.report)).reportHere session
    (.fault fault.report)

end ParseState

end PegEngine
