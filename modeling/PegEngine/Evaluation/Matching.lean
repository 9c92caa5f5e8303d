import PegEngine.Evaluation.State

/-!
# Matching characters

The matchers are the expressions that look at the input themselves: literals,
character classes, and the matcher for any character.  Each of them records its
attempt at the place where it started, succeeds with the bytes that it
consumed, and consumes nothing when it fails.
-/

namespace PegEngine

/-- What comes out of evaluating a node: a value, no match, or the error for
which the whole evaluation is given up. -/
inductive Verdict (α : Type) where
  | matched (value : Value α)
  | unmatched
  | aborted (error : ParseError)

namespace Verdict

variable {α σ : Type}

def ofResult : Option (Value α) → Verdict α
  | some value => .matched value
  | none => .unmatched

end Verdict

namespace ParseState

variable {α σ : Type}

/-- Compare the input with characters, moving over those that agree; the answer
tells whether all of them did. -/
def consume (session : Session α σ) (ignoresCase : Bool) :
    List Char → ParseState α σ → Bool × ParseState α σ
  | [], state => (true, state)
  | char :: chars, state =>
    if state.cursor.current.map (CharClass.fold ignoresCase) = some char then
      consume session ignoresCase chars (state.read session)
    else (false, state)

/-- Succeed with what was consumed since a cursor. -/
def succeed (session : Session α σ) (start : Cursor) (descriptor : String)
    (state : ParseState α σ) : Verdict α × ParseState α σ :=
  (.matched (.text (state.textFrom session start)),
    state.attempt false start descriptor)

def fail (descriptor : String) (state : ParseState α σ) :
    Verdict α × ParseState α σ :=
  (.unmatched, state.attempt true state.cursor descriptor)

def matchLiteral (session : Session α σ) (text : String) (ignoresCase : Bool)
    (state : ParseState α σ) : Verdict α × ParseState α σ :=
  let descriptor := Expr.literalDescriptor text ignoresCase
  match state.consume session ignoresCase text.toList with
  | (true, after) => after.succeed session state.cursor descriptor
  | (false, after) =>
    (.unmatched,
      (after.attempt true state.cursor descriptor).restore session state.cursor)

/-- Match a character that a test accepts; the end of the input is no
character. -/
def matchChar (session : Session α σ) (accepts : Char → Bool)
    (descriptor : String) (state : ParseState α σ) :
    Verdict α × ParseState α σ :=
  match state.cursor.current with
  | some char =>
    if accepts char then
      (state.read session).succeed session state.cursor descriptor
    else state.fail descriptor
  | none => state.fail descriptor

end ParseState

end PegEngine
