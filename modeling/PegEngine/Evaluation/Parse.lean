import PegEngine.Evaluation.Expression

/-!
# Parsing

A parse runs the entry rule of a grammar against an input.  It does not start
with a grammar that is not valid, it reports the farthest failure if the rule
does not match and nothing else was reported, and it contains the faults of
code unless it is told to let them escape.
-/

namespace PegEngine

/-- The result of a parse: the value of the entry rule (none if it failed or
yielded nothing), the diagnostics, and the number of expressions that were
evaluated. -/
structure Parsed (α : Type) where
  value : Option (Value α)
  diagnostics : Diagnostics
  expressions : Nat

namespace Parsed

variable {α σ : Type}

/-- Test whether there is a value and nothing was reported. -/
def isClean (parsed : Parsed α) : Bool :=
  parsed.value.isSome && parsed.diagnostics.isEmpty

/-- The value of a parse in which nothing was reported. -/
def toExcept (parsed : Parsed α) : Except Diagnostics (Value α) :=
  if parsed.diagnostics.isEmpty then .ok (parsed.value.getD .nil)
  else .error parsed.diagnostics

end Parsed

/-- How a parse ends: with a result, or with a fault that escapes. -/
inductive Outcome (α : Type) where
  | parsed (parsed : Parsed α)
  | escaped (fault : Fault)

/-- How a parse ends, and what it has logged. -/
structure ParseReport (α : Type) where
  outcome : Outcome α
  log : Array LogEntry

namespace Session

variable {α σ : Type}

/-- The session of a grammar and an input, with the default options changed by
some settings. -/
def ofSettings (grammar : Grammar α σ) (fileName : String) (input : ByteArray)
    (settings : List (Setting σ)) : Session α σ :=
  ⟨grammar, fileName, input, Options.ofSettings settings⟩

/-- Close a parse in some state.  A value that is absent counts as none. -/
def close (value : Option (Value α)) (state : ParseState α σ) : ParseReport α :=
  ⟨.parsed ⟨value.filter fun value => !value.isNil, state.diagnostics,
    state.expressions⟩, state.log⟩

/-- Read the first code point and evaluate the entry rule. -/
def evalEntry (session : Session α σ) (depth : Nat) (entry : Rule α σ) :
    Eval α σ (Option (Value α)) := do
  modify (ParseState.read session)
  match ← Eval.evalRule session (Eval.evalExpr session depth) entry 0 with
  | .matched value => return some value
  | .unmatched =>
    modify (ParseState.reportNoMatch session)
    return none
  | .aborted error =>
    modify (ParseState.reportAbort session error)
    return none

/-- Run the entry rule of a valid grammar with nodes nested no deeper than the
given depth.  There is no report if that depth does not suffice. -/
def runEntry (session : Session α σ) (depth : Nat) (entry : Rule α σ) :
    Option (ParseReport α) :=
  match (session.evalEntry depth entry).run (ParseState.initial session) with
  | .ok value state => some (close value state)
  | .error (.fault fault) state =>
    if session.options.recover then
      some (close none (state.reportFault session fault))
    else some ⟨.escaped fault, state.log⟩
  | .error .exhausted _ => none

/-- Reject a grammar before anything is read. -/
def reject (session : Session α σ) (entry : LogEntry) (error : ParseError) :
    ParseReport α :=
  close none
    (((ParseState.initial session).note entry).reportHere session error)

/-- Parse with nodes nested no deeper than the given depth.  There is no report
if that depth does not suffice. -/
def parseWithin (session : Session α σ) (depth : Nat) :
    Option (ParseReport α) :=
  match session.grammar.start? with
  | none => some (session.reject (.ruleless session.fileName) .noRule)
  | some entry =>
    match session.grammar.error? with
    | some error =>
      some (session.reject (.rejected session.fileName error) error)
    | none => session.runEntry depth entry

/-- The depth to which nodes are nested at most, unless told otherwise. -/
def defaultDepth : Nat := 1000000

/-- Parse with nodes nested no deeper than by default. -/
def parse (session : Session α σ) : Option (ParseReport α) :=
  session.parseWithin defaultDepth

end Session

end PegEngine
