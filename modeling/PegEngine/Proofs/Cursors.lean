import PegEngine.Proofs.Visits

/-!
# Where the cursor has been

The cursor of a parse moves on to new code points in two ways only: a matcher
reads, or a result is replayed and the cursor goes where the match has ended.
Otherwise it goes back to where it has been before.  This file lists the cursors
of a parse along its calls (`Session.cursors`): where each call starts, and
where it takes the cursor by itself.
-/

namespace PegEngine

namespace Cursor

/-- The cursors to which a comparison with characters moves on, as long as the
input agrees with them. -/
def compared (input : ByteArray) (ignoresCase : Bool) :
    List Char → Cursor → List Cursor
  | [], _ => []
  | char :: chars, cursor =>
    if cursor.current.map (CharClass.fold ignoresCase) = some char then
      cursor.advance input ::
        compared input ignoresCase chars (cursor.advance input)
    else []

/-- The cursor to which a matcher for one character moves on, if it accepts the
current one. -/
def accepted (input : ByteArray) (accepts : Char → Bool) (cursor : Cursor) :
    List Cursor :=
  if cursor.current.any accepts then [cursor.advance input] else []

end Cursor

/-- The cursors to which a matcher moves on in reading. -/
def Expr.readings {α σ : Type} (input : ByteArray) (cursor : Cursor) :
    Expr α σ → List Cursor
  | .literal text ignoresCase => cursor.compared input ignoresCase text.toList
  | .oneOf charClass => cursor.accepted input charClass.accepts
  | .any => cursor.accepted input fun _ => true
  | _ => []

namespace Eval

variable {α σ : Type}

/-- The cursor behind the result of a node, if it is replayed. -/
def replayed? (enabled : Bool) (node : NodeKey) (state : ParseState α σ) :
    Option Cursor :=
  if enabled then
    (state.memo.lookup (state.memoKey node)).map MemoEntry.finish
  else none

/-- The cursor at which a call starts, and those to which it moves by itself. -/
def cursorsOf (session : Session α σ) : Visit α σ → List Cursor
  | .rule _ index _ state =>
    state.cursor ::
      (replayed? session.options.memoize (.rule index) state).toList
  | .expression place expr _ state =>
    state.cursor ::
      ((replayed? (session.options.memoize && !expr.usesScope)
        (.expression place) state).toList ++
      if enters session place expr state then
        expr.readings session.input state.cursor
      else [])

def cursors (session : Session α σ) (calls : List (Visit α σ)) : List Cursor :=
  calls.flatMap (cursorsOf session)

variable {session : Session α σ}

@[simp]
theorem cursors_nil : cursors session [] = [] :=
  rfl

@[simp]
theorem cursors_append (calls later : List (Visit α σ)) :
    cursors session (calls ++ later) =
      cursors session calls ++ cursors session later :=
  List.flatMap_append

/-- The cursors of a rule: where it starts, where it is replayed to, or those of
its body. -/
theorem cursors_visitsOfRule
    {visits : ExprPlace → Expr α σ → (nots : Nat) → ParseState α σ →
      List (Visit α σ)} {rule : Rule α σ} {index nots : Nat}
    {state : ParseState α σ} :
    cursors session (visitsOfRule session visits rule index nots state) =
      state.cursor ::
        ((replayed? session.options.memoize (.rule index) state).toList ++
        if replays session.options.memoize (.rule index) state then []
        else cursors session (visits (.body index) rule.body nots
          ((state.enterNode session (.rule rule.name)).enterRule rule))) := by
  unfold visitsOfRule
  split <;> simp [cursors, cursorsOf]

/-- The cursors of an expression: where it starts, where it is replayed to, or
those to which it moves in reading and those of what it calls. -/
theorem cursors_visits (depth : Nat) (place : ExprPlace) (expr : Expr α σ)
    (nots : Nat) (state : ParseState α σ) :
    cursors session (visits session (depth + 1) place expr nots state) =
      state.cursor ::
        ((replayed? (session.options.memoize && !expr.usesScope)
          (.expression place) state).toList ++
        if enters session place expr state then
          expr.readings session.input state.cursor ++
            cursors session (visitsOfNode session (evalExpr session depth)
              (visits session depth) place nots
              (state.countExpression.enterNode session
                (.expression expr.kindName)) expr)
        else []) := by
  unfold visits
  split <;> simp_all [cursors, cursorsOf]

end Eval

namespace Session

variable {α σ : Type}

/-- The cursors of a parse, with nodes nested no deeper than the given depth:
the one behind the first reading, and those of its calls. -/
def cursors (session : Session α σ) (depth : Nat) (entry : Rule α σ) :
    List Cursor :=
  session.opening.cursor :: Eval.cursors session (session.visits depth entry)

/-- The highest offset at which the cursor of a parse has been. -/
def highest (session : Session α σ) (depth : Nat) (entry : Rule α σ) : Nat :=
  ((session.cursors depth entry).map Cursor.offset).max?.getD 0

/-- The cursor has been at an offset or behind it if the offset is no higher
than the highest one. -/
theorem le_highest_iff {session : Session α σ} {depth : Nat} {entry : Rule α σ}
    {offset : Nat} :
    offset ≤ session.highest depth entry ↔
      ∃ cursor ∈ session.cursors depth entry, offset ≤ cursor.offset := by
  constructor
  · intro atMost
    have nonempty : (session.cursors depth entry).map Cursor.offset ≠ [] := by
      simp [cursors]
    obtain ⟨greatest, isGreatest⟩ := Option.ne_none_iff_exists'.mp
      (fun none => nonempty (List.max?_eq_none_iff.mp none))
    obtain ⟨cursor, isCursor, rfl⟩ :=
      List.mem_map.mp (List.max?_mem isGreatest)
    refine ⟨cursor, isCursor, ?_⟩
    rwa [highest, isGreatest] at atMost
  · rintro ⟨cursor, isCursor, atMost⟩
    exact Nat.le_trans atMost
      (List.le_max?_getD_of_mem (List.mem_map_of_mem isCursor))

end Session

end PegEngine
