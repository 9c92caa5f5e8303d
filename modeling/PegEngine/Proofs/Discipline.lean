import PegEngine.Proofs.Invariants
import PegEngine.Proofs.Outcomes

/-!
# The discipline of evaluation

Whatever an expression comes to, the evaluation of it leaves the parse in good
order: what was entered has been left again, the labels of the surrounding
scopes are as before, an expression that does not match has given back what it
consumed, and one that matches has done so in a way that the grammar allows.
If the evaluation is given up, the limit on expressions has been passed, and by
one expression only.  None of this depends on whether results are kept: what is
replayed is what an evaluation has come to before.

The main statement is `Eval.evalExpr_settles`, by induction on the depth; each
way of combining expressions has a lemma of its own, for any evaluation of the
members that keeps to the discipline (`Eval.Disciplined`).
-/

namespace PegEngine

open ParseState

/-- What a verdict says about the state that it leaves, if the evaluation
started at a cursor. -/
def Verdict.Describes {α σ : Type} (session : Session α σ)
    (spans : Value α → Nat → Prop) (start : Cursor) (after : ParseState α σ) :
    Verdict α → Prop
  | .matched value => spans value after.cursor.offset ∧ after.Within session
  | .unmatched => after.cursor = start ∧ after.Within session
  | .aborted error => error = .maxExpressions ∧ after.Exceeds session

namespace Eval

variable {α σ β : Type} {session : Session α σ}

/-- The evaluation that led from one state to another with a verdict kept to the
discipline.  It may have changed the labels of the current scope only if that is
said to be possible. -/
structure Settled (session : Session α σ) (bindsLabels : Bool)
    (spans : Value α → Nat → Prop) (start : Cursor) (before : ParseState α σ)
    (verdict : Verdict α) (after : ParseState α σ) : Prop where
  sound : after.Sound session
  balanced : Balanced before after
  labels : bindsLabels = false → after.scopes.top = before.scopes.top
  describes : verdict.Describes session spans start after

namespace Settled

variable {bindsLabels : Bool} {spans : Value α → Nat → Prop} {start : Cursor}
  {before middle after : ParseState α σ} {verdict : Verdict α}

theorem ready_of_matched {value : Value α}
    (settled : Settled session bindsLabels spans start before (.matched value)
      after) : after.Ready session :=
  settled.sound.ready settled.describes.2

theorem ready_of_unmatched
    (settled : Settled session bindsLabels spans start before .unmatched
      after) : after.Ready session :=
  settled.sound.ready settled.describes.2

/-- Evaluation that comes after something else that kept to the discipline. -/
theorem following {bindsLater : Bool} {spansLater : Value α → Nat → Prop}
    (later : Settled session bindsLater spansLater start middle verdict after)
    (balanced : Balanced before middle)
    (labels : bindsLabels = false → bindsLater = false ∧
      middle.scopes.top = before.scopes.top)
    (spanned : ∀ value finish, spansLater value finish → spans value finish) :
    Settled session bindsLabels spans start before verdict after where
  sound := later.sound
  balanced := balanced.trans later.balanced
  labels nothing := (later.labels (labels nothing).1).trans (labels nothing).2
  describes := by
    cases verdict with
    | matched value =>
        exact ⟨spanned _ _ later.describes.1, later.describes.2⟩
    | unmatched => exact later.describes
    | aborted error => exact later.describes

/-- Leaving the scope that was entered for an evaluation gives the labels of the
surrounding one back. -/
theorem popScope
    (settled : Settled session bindsLabels spans start before.pushScope verdict
      after) :
    Settled session false spans start before verdict after.popScope where
  sound := settled.sound.popScope
  balanced := settled.balanced.popScope
  labels _ := settled.balanced.top_popScope
  describes := by cases verdict <;> exact settled.describes

theorem toggle
    (settled : Settled session bindsLabels spans start before.toggle verdict
      after) :
    Settled session bindsLabels spans start before verdict after.toggle where
  sound := { settled.sound with }
  balanced := settled.balanced.toggle
  labels := settled.labels
  describes := by cases verdict <;> exact settled.describes

theorem leaveRule {rule : Rule α σ}
    (settled : Settled session bindsLabels spans start (before.enterRule rule)
      verdict after) :
    Settled session false spans start before verdict after.leaveRule := by
  have popped : Settled session false spans start
      { before with activeRules := rule :: before.activeRules } verdict
      after.popScope :=
    popScope settled
  refine ⟨{ popped.sound with }, { popped.balanced with activeRules := ?_ },
    popped.labels, ?_⟩
  · have inside : after.activeRules = rule :: before.activeRules :=
      settled.balanced.activeRules
    simp [ParseState.leaveRule, inside]
  · cases verdict <;> exact settled.describes

theorem leaveNode {subject : Subject}
    (settled : Settled session bindsLabels spans start
      (before.enterNode session subject) verdict after) :
    Settled session bindsLabels spans start before verdict
      (after.leaveNode session subject) := by
  have balanced := settled.balanced
  have labels := settled.labels
  rw [enterNode_eq] at balanced labels
  rw [leaveNode_eq]
  refine ⟨{ settled.sound with }, { balanced with openNodes := ?_ }, labels, ?_⟩
  · have inside := balanced.openNodes
    dsimp only at inside ⊢
    omega
  · cases verdict <;> exact settled.describes

theorem restore {back : Cursor}
    (settled : Settled session bindsLabels spans start before verdict after)
    (stands : back.Stands session.input) :
    Settled session bindsLabels (fun _ finish => finish = back.offset) back
      before verdict (after.restore session back) := by
  have steady := steady_restore session back after
  refine ⟨settled.sound.restore stands,
    settled.balanced.trans steady.balanced, ?_, ?_⟩
  · intro nothing
    rw [steady.scopes, settled.labels nothing]
  · have within := fun within : after.Within session =>
      within.of_expressions_eq steady.expressions
    cases verdict with
    | matched value => exact ⟨by simp, within settled.describes.2⟩
    | unmatched => exact ⟨by simp, within settled.describes.2⟩
    | aborted error =>
        obtain ⟨limit, limited, count⟩ := settled.describes.2
        exact ⟨settled.describes.1, limit, limited,
          steady.expressions.trans count⟩

/-- Where an evaluation started matters only if nothing matched. -/
theorem restart {other : Cursor}
    (settled : Settled session bindsLabels spans start before verdict after)
    (notUnmatched : verdict ≠ .unmatched) :
    Settled session bindsLabels spans other before verdict after := by
  refine ⟨settled.sound, settled.balanced, settled.labels, ?_⟩
  cases verdict with
  | matched value => exact settled.describes
  | unmatched => exact absurd rfl notUnmatched
  | aborted error => exact settled.describes

/-- Neither the store nor the log matters to the discipline. -/
theorem unseen
    (settled : Settled session bindsLabels spans start before verdict after)
    (store : Store σ) (log : Array LogEntry) :
    Settled session bindsLabels spans start before verdict
      { after with store := store, log := log } := by
  refine ⟨{ settled.sound with }, { settled.balanced with }, settled.labels, ?_⟩
  cases verdict <;> exact settled.describes

theorem traceMatch
    (settled : Settled session bindsLabels spans start before verdict after)
    (cursor : Cursor) :
    Settled session bindsLabels spans start before verdict
      (after.traceMatch session cursor) := by
  rw [traceMatch_eq]
  exact settled.unseen _ _

theorem report {index : Nat} {value : Value α} (error : ParseError)
    (position : Position)
    (settled : Settled session bindsLabels spans start before (.matched value)
      after)
    (runs : before.Runs session index) :
    Settled session bindsLabels spans start before (.matched value)
      (after.report session error position) where
  sound := settled.sound.steady (steady_report session error position after)
    (runs.of_eq settled.balanced.activeRules) settled.sound.stands
  balanced := { settled.balanced with }
  labels := settled.labels
  describes := settled.describes

theorem bind {value : Value α}
    (settled : Settled session true spans start before (.matched value) after)
    (label : String) (bound : Value α) :
    Settled session true spans start before (.matched value)
      (after.bind label bound) := by
  unfold ParseState.bind
  split
  · exact settled
  · exact ⟨{ settled.sound with }, { settled.balanced with }, nofun,
      settled.describes⟩

/-- Nothing is said of the labels of an expression that may bind some. -/
theorem binding
    (settled : Settled session bindsLabels spans start before verdict after) :
    Settled session true spans start before verdict after :=
  ⟨settled.sound, settled.balanced, nofun, settled.describes⟩

/-- Coming to a verdict on the whole by the verdict on a part. -/
theorem conclude {conclusion : Verdict α}
    {spansLater : Value α → Nat → Prop}
    (settled : Settled session bindsLabels spans start before verdict after)
    (describes : conclusion.Describes session spansLater start after) :
    Settled session bindsLabels spansLater start before conclusion after :=
  ⟨settled.sound, settled.balanced, settled.labels, describes⟩

end Settled

/-- An evaluation keeps to the discipline if it ends.  It may run out of depth
only if that is said to be allowed. -/
def Settles (session : Session α σ) (allowed : Prop) (bindsLabels : Bool)
    (spans : Value α → Nat → Prop) (start : Cursor)
    (program : Eval α σ (Verdict α)) (state : ParseState α σ) : Prop :=
  Ends program (Settled session bindsLabels spans start state)
    (Within session) allowed state

section Surroundings

variable {allowed : Prop} {bindsLabels : Bool} {spans : Value α → Nat → Prop}
  {start : Cursor} {program : Eval α σ (Verdict α)} {state : ParseState α σ}

theorem Settles.mono {onResult : Verdict α → ParseState α σ → Prop}
    (settles : Settles session allowed bindsLabels spans start program state)
    (result : ∀ verdict after,
      Settled session bindsLabels spans start state verdict after →
        onResult verdict after) :
    Ends program onResult (Within session) allowed state :=
  Ends.mono_result settles result

theorem settles_inScope
    (settles : Settles session allowed bindsLabels spans start program
      state.pushScope) :
    Settles session allowed false spans start (inScope program) state :=
  ends_inScope.mpr (settles.mono fun _ _ settled => settled.popScope)

theorem settles_underNot
    (settles : Settles session allowed bindsLabels spans start program
      state.toggle) :
    Settles session allowed bindsLabels spans start (underNot program) state :=
  ends_underNot.mpr (settles.mono fun _ _ settled => settled.toggle)

theorem settles_lookahead (ready : state.Ready session)
    (settles : Settles session allowed bindsLabels spans state.cursor program
      state.pushScope) :
    Settles session allowed false
      (fun _ finish => finish = state.cursor.offset) state.cursor
      (lookahead session program) state :=
  (ends_lookahead session).mpr
    (settles.mono fun _ _ settled => settled.popScope.restore ready.stands)

theorem settles_traced (subject : Subject)
    (settles : Settles session allowed bindsLabels spans start program
      (state.enterNode session subject)) :
    Settles session allowed bindsLabels spans start
      (traced session subject program) state :=
  (ends_traced session subject).mpr
    (settles.mono fun _ _ settled => settled.leaveNode)

/-- Counting an expression keeps to the discipline, whether or not the limit is
passed by it. -/
theorem settles_counted (expr : Expr α σ) (ready : state.Ready session)
    (atStart : state.cursor = start)
    (settles : ∀ inner : ParseState α σ, inner.Ready session →
      inner.cursor = start → inner.activeRules = state.activeRules →
        inner.expressions = state.expressions + 1 →
          Settles session allowed bindsLabels spans start program inner) :
    Settles session allowed bindsLabels spans start
      (counted session expr program) state := by
  have balanced : Balanced state state.countExpression :=
    { Balanced.refl state with expressions := Nat.le_succ _ }
  rw [Settles, ends_counted]
  by_cases passes : state.countExpression.overLimit session = true
  · rw [if_pos passes]
    obtain ⟨limit, limited, passed⟩ := overLimit_eq_true.mp passes
    have atMost := ready.within limit limited
    refine ⟨{ ready.toSound with }, balanced, fun _ => rfl, rfl, limit,
      limited, ?_⟩
    simp only [countExpression] at passed ⊢
    omega
  · rw [if_neg passes]
    have within := overLimit_eq_false.mp (by simpa using passes)
    have counted : state.countExpression.Ready session :=
      { ready.toSound with within := within }
    have entered := counted.enterNode (.expression expr.kindName)
    have program := settles _ entered (by rw [enterNode_eq, ← atStart]; rfl)
      (by rw [enterNode_eq]; rfl) (by rw [enterNode_eq]; rfl)
    apply (settles_traced _ program).mono
    intro verdict after settled
    exact settled.following balanced (fun nothing => ⟨nothing, rfl⟩)
        fun _ _ spanned => spanned

/-- Replaying the result of a node is as good as evaluating it, and what is kept
fits the node. -/
theorem settles_memoized (enabled : Bool) {node : NodeKey} {expr : Expr α σ}
    (isNode : session.grammar.nodeExpr? node = some expr)
    (ready : state.Ready session)
    (settles : Settles session allowed bindsLabels
      (session.grammar.Spans session.input expr state.cursor.offset)
      state.cursor program state) :
    Settles session allowed bindsLabels
      (session.grammar.Spans session.input expr state.cursor.offset)
      state.cursor (memoized session enabled node program) state := by
  rw [Settles, ends_memoized]
  split
  case isFalse => exact settles
  case isTrue =>
    split
    case h_1 entry kept =>
      have fits := ready.memo _ _ kept
      have steady := steady_restore session entry.finish state
      have replayed := ready.restore fits.stands
      refine ⟨replayed.toSound, steady.balanced, fun _ => by rw [steady.scopes],
        ?_⟩
      cases result : entry.value with
      | none =>
          refine ⟨?_, replayed.within⟩
          rw [cursor_restore]
          exact fits.stands.eq_of_offset_eq ready.stands
            (fits.unmatched result)
      | some value =>
          refine ⟨?_, replayed.within⟩
          rw [cursor_restore]
          exact fits.matched expr value isNode result
    case h_2 =>
      apply settles.mono
      intro verdict after settled
      cases verdict with
      | matched value =>
          refine ⟨settled.sound.remember ⟨settled.sound.stands, nofun, ?_⟩,
            { settled.balanced with }, settled.labels, settled.describes⟩
          intro other result isOther same
          cases isNode.symm.trans isOther
          cases same
          exact settled.describes.1
      | unmatched =>
          refine ⟨settled.sound.remember
            ⟨settled.sound.stands, fun _ => ?_, nofun⟩,
            { settled.balanced with }, settled.labels, settled.describes⟩
          exact congrArg Cursor.offset settled.describes.1
      | aborted error => exact settled

end Surroundings

end Eval

end PegEngine
