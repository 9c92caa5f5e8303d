import PegEngine.Evaluation.Depth
import PegEngine.Proofs.Abreast

/-!
# Evaluating a node again

An evaluation that is repeated later on, at the same offset and under as many
negative lookaheads, comes to the same result and has nothing to add to the
record (`Eval.replay`).  The labels in scope may have changed if the node does
not use them, and so may the store.  The proof runs the two evaluations side by
side: whatever the first one has put on record is there when the second one
comes to it (`Record.Retraces`).
-/

namespace PegEngine

open ParseState

namespace Record

variable {α σ : Type} {settled first second : Record α σ}

/-- As far as the first record has been covered, the second one shows no more
than what has been settled. -/
def Retraces (settled first second : Record α σ) : Prop :=
  first.Precedes settled → second.Alike settled

theorem stable_retraces (settled : Record α σ) : Stable (Retraces settled) := by
  intro first second event retraces covered
  exact (retraces ((precedes_apply first event).trans
    covered)).apply_of_precedes covered

end Record

/-- A state at which a key belongs, and in which the result of its node does not
depend on anything else: the reports of an expression name the rule to which
it belongs, and the expression does not use the labels in scope. -/
structure ParseState.Meets {α σ : Type} (session : Session α σ) (key : MemoKey)
    (state : ParseState α σ) : Prop where
  ready : state.Ready (session.memoizing false)
  offset : state.cursor.offset = key.offset
  inverted : state.expectations.inverted = key.inverted
  runs : ∀ place, key.node = .expression place →
    state.Runs session place.rule
  apart : ∀ place expr, key.node = .expression place →
    session.grammar.exprAt? place = some expr → expr.usesScope = false

namespace ParseState

variable {α σ : Type} {session : Session α σ} {state other : ParseState α σ}

/-- A rule can be called from any state. -/
theorem meets_rule (ready : state.Ready (session.memoizing false))
    (cursor : other.cursor = state.cursor)
    (inverted : other.expectations.inverted = state.expectations.inverted)
    (index : Nat) : state.Meets session (other.memoKey (.rule index)) where
  ready := ready
  offset := congrArg Cursor.offset cursor.symm
  inverted := inverted.symm
  runs := by simp [memoKey]
  apart := by simp [memoKey]

theorem meets_expression {place : ExprPlace} {expr : Expr α σ}
    (found : session.grammar.exprAt? place = some expr)
    (apart : expr.usesScope = false)
    (ready : state.Ready (session.memoizing false))
    (runs : state.Runs session place.rule)
    (cursor : other.cursor = state.cursor)
    (inverted : other.expectations.inverted = state.expectations.inverted) :
    state.Meets session (other.memoKey (.expression place)) where
  ready := ready
  offset := congrArg Cursor.offset cursor.symm
  inverted := inverted.symm
  runs := by
    rintro _ ⟨⟩
    exact runs
  apart := by
    rintro _ called ⟨⟩ isCalled
    obtain rfl := Option.some.inj (found.symm.trans isCalled)
    exact apart

end ParseState

namespace Eval

variable {α σ : Type} {session : Session α σ} {flag : Bool}
  {related : Record α σ → Record α σ → Prop} {shared : Prop}
  {left right : ParseState α σ}

def evalKeyed (session : Session α σ) (depth : Nat) :
    NodeKey → Eval α σ (Verdict α)
  | .rule index =>
    match session.grammar.rules[index]? with
    | some rule => evalRule session (evalExpr session depth) rule index
    | none => throw .exhausted
  | .expression place =>
    match session.grammar.exprAt? place with
    | some expr => evalExpr session depth place expr
    | none => throw .exhausted

theorem evalKeyed_rule (session : Session α σ) {rule : Rule α σ} {index : Nat}
    (isRule : session.grammar.rules[index]? = some rule) (depth : Nat) :
    evalKeyed session depth (.rule index) =
      evalRule session (evalExpr session depth) rule index := by
  simp only [evalKeyed, isRule]

theorem evalKeyed_expression (session : Session α σ) {place : ExprPlace}
    {expr : Expr α σ} (found : session.grammar.exprAt? place = some expr)
    (depth : Nat) :
    evalKeyed session depth (.expression place) =
      evalExpr session depth place expr := by
  simp only [evalKeyed, found]

theorem evalKeyed_refines_of_le (session : Session α σ) {depth greater : Nat}
    (atMost : depth ≤ greater) (node : NodeKey) :
    Refines (evalKeyed session depth node)
      (evalKeyed session greater node) := by
  cases node with
  | rule index =>
      simp only [evalKeyed]
      cases session.grammar.rules[index]? with
      | some rule =>
          exact evalRule_refines session
            (evalExpr_refines_of_le session atMost) rule index
      | none => exact .refl _
  | expression place =>
      simp only [evalKeyed]
      cases session.grammar.exprAt? place with
      | some expr => exact evalExpr_refines_of_le session atMost place expr
      | none => exact .refl _

/-- An expression keeps to the discipline whether results are kept or not. -/
theorem evalExpr_memoizing_settles (valid : session.grammar.error? = none)
    (flag : Bool) (depth : Nat) {place : ExprPlace} {expr : Expr α σ}
    {state : ParseState α σ} (found : session.grammar.exprAt? place = some expr)
    (ready : state.Ready (session.memoizing flag))
    (runs : state.Runs session place.rule) :
    Settles (session.memoizing flag) True expr.bindsLabels
      ((session.memoizing flag).grammar.Spans session.input expr
        state.cursor.offset)
      state.cursor (evalExpr (session.memoizing flag) depth place expr)
      state := by
  have validToo : (session.memoizing flag).grammar.error? = none := valid
  exact evalExpr_settles validToo depth found ready runs

/-- An expression that does not use the labels around it leaves them alone. -/
theorem evalExpr_memoizing_settles_apart
    (valid : session.grammar.error? = none) (flag : Bool) (depth : Nat)
    {place : ExprPlace} {expr : Expr α σ} {state : ParseState α σ}
    (found : session.grammar.exprAt? place = some expr)
    (apart : expr.usesScope = false)
    (ready : state.Ready (session.memoizing flag))
    (runs : state.Runs session place.rule) :
    Settles (session.memoizing flag) True false
      ((session.memoizing flag).grammar.Spans session.input expr
        state.cursor.offset)
      state.cursor (evalExpr (session.memoizing flag) depth place expr)
      state := by
  rw [← Expr.bindsLabels_of_not_usesScope apart]
  exact evalExpr_memoizing_settles valid flag depth found ready runs

theorem evalRule_memoizing_settles (valid : session.grammar.error? = none)
    (flag : Bool) (depth : Nat) {rule : Rule α σ} {index : Nat}
    {state : ParseState α σ}
    (isRule : session.grammar.rules[index]? = some rule)
    (ready : state.Ready (session.memoizing flag)) :
    Settles (session.memoizing flag) True false
      ((session.memoizing flag).grammar.Spans session.input rule.body
        state.cursor.offset)
      state.cursor
      (evalRule (session.memoizing flag)
        (evalExpr (session.memoizing flag) depth) rule index) state := by
  have isRuleToo : (session.memoizing flag).grammar.rules[index]? = some rule :=
    isRule
  exact evalRule_settles isRuleToo ready fun inner _ ready runs _ =>
    evalExpr_memoizing_settles valid flag depth (Grammar.exprAt?_body isRule)
      ready runs

/-- An expression that leads two parses from one point to another keeps them
abreast, since it keeps to the discipline. -/
theorem stride_of_level {depth : Nat} {place : ExprPlace} {expr : Expr α σ}
    (valid : session.grammar.error? = none)
    (unlimited : session.options.maxExpressions = none)
    (found : session.grammar.exprAt? place = some expr)
    (abreast : Abreast session flag related shared left right)
    (runs : left.Runs session place.rule)
    (runsToo : right.Runs session place.rule)
    (paired : Paired (evalExpr (session.memoizing false) depth place expr)
      (evalExpr (session.memoizing flag) depth place expr)
      (fun _ => Level related shared) (Stopped related) left right) :
    Paired (evalExpr (session.memoizing false) depth place expr)
      (evalExpr (session.memoizing flag) depth place expr)
      (fun _ => Stride session flag related shared left right)
      (Stopped related) left right := by
  have settles := evalExpr_memoizing_settles valid false depth found
    abreast.ready runs
  have settlesToo := evalExpr_memoizing_settles valid flag depth found
    abreast.readyToo runsToo
  apply (paired.and_ends settles settlesToo).imp
  rintro verdict after afterToo ⟨level, settled, settledToo⟩
  exact { level with
    ready := settled.sound.ready (.of_unlimited unlimited)
    readyToo := settledToo.sound.ready (.of_unlimited unlimited)
    balanced := settled.balanced
    balancedToo := settledToo.balanced }

section Retracing

variable (valid : session.grammar.error? = none)
  (free : session.grammar.StoreFree)
  (unlimited : session.options.maxExpressions = none)

theorem rules_retrace (settled : Record α σ) {depth : Nat}
    (members : KeepsAbreast session false (Record.Retraces settled)
      (evalExpr (session.memoizing false) depth)
      (evalExpr (session.memoizing false) depth)) :
    RulesKeepAbreast session false (Record.Retraces settled)
      (evalExpr (session.memoizing false) depth)
      (evalExpr (session.memoizing false) depth) :=
  fun _ _ _ _ _ isRule abreast => runRule_paired members isRule abreast

include valid free unlimited

/-- An evaluation keeps abreast of the same one at another time. -/
theorem evalExpr_retraces (settled : Record α σ) (depth : Nat) :
    KeepsAbreast session false (Record.Retraces settled)
      (evalExpr (session.memoizing false) depth)
      (evalExpr (session.memoizing false) depth) := by
  induction depth with
  | zero =>
      intro place expr shared left right found uses abreast runs runsToo
      exact .of_exhausted rfl
  | succ depth ih =>
      intro place expr shared left right found uses abreast runs runsToo
      exact stride_of_level valid unlimited found abreast runs runsToo
        (counted_paired (Record.stable_retraces settled) free unlimited ih
          (rules_retrace settled ih) found uses abreast runs runsToo)

theorem evalKeyed_retraces (depth : Nat) {key : MemoKey}
    (meets : left.Meets session key) (meetsToo : right.Meets session key) :
    Paired (evalKeyed (session.memoizing false) depth key.node)
      (evalKeyed (session.memoizing false) depth key.node)
      (fun _ => Level (Record.Retraces right.record) False)
      (Stopped (Record.Retraces right.record)) left right := by
  have abreast : Abreast session false (Record.Retraces right.record) False
      left right :=
    { cursor := meetsToo.ready.stands.eq_of_offset_eq meets.ready.stands
        (meetsToo.offset.trans meets.offset.symm)
      inverted := meetsToo.inverted.trans meets.inverted.symm
      labels := False.elim
      records := fun _ => .refl _
      ready := meets.ready
      readyToo := meetsToo.ready }
  have members := evalExpr_retraces valid free unlimited right.record depth
  obtain ⟨offset, node, inverted⟩ := key
  cases node with
  | rule index =>
      cases isRule : session.grammar.rules[index]? with
      | none =>
          simp only [evalKeyed, Session.grammar_memoizing, isRule]
          exact .of_exhausted rfl
      | some rule =>
          simp only [evalKeyed, Session.grammar_memoizing, isRule]
          exact rules_retrace right.record members rule index False _ _ isRule
            abreast
  | expression place =>
      cases found : session.grammar.exprAt? place with
      | none =>
          simp only [evalKeyed, Session.grammar_memoizing, found]
          exact .of_exhausted rfl
      | some expr =>
          simp only [evalKeyed, Session.grammar_memoizing, found]
          have apart := meets.apart place expr rfl found
          apply (members place expr False _ _ found (by simp [apart]) abreast
            (meets.runs place rfl) (meetsToo.runs place rfl)).imp
          exact fun _ _ _ stride => stride.toLevel

/-- An evaluation of the node of a key without keeping results, which came to
the result of an entry. -/
structure Earlier (session : Session α σ) (key : MemoKey) (entry : MemoEntry α)
    (depth : Nat) (before after : ParseState α σ) : Prop where
  meets : before.Meets session key
  run : evalKeyed (session.memoizing false) depth key.node before =
    .ok (.ofResult entry.value) after
  finish : after.cursor = entry.finish

/-- Once an evaluation has come to a result, the same one comes to it again, and
retraces what the first one has put on record. -/
theorem rerun {key : MemoKey} {entry : MemoEntry α} {earlierDepth : Nat}
    {before after state : ParseState α σ}
    (earlier : Earlier session key entry earlierDepth before after)
    (meets : state.Meets session key) (depth : Nat) :
    Ends (evalKeyed (session.memoizing false) depth key.node)
      (fun verdict last => verdict = .ofResult entry.value ∧
        last.cursor = entry.finish ∧
        Record.Retraces state.record after.record last.record)
      (fun _ => False) True state := by
  let deepest := max earlierDepth depth
  have again : evalKeyed (session.memoizing false) deepest key.node before =
      .ok (.ofResult entry.value) after := by
    rcases evalKeyed_refines_of_le (session.memoizing false)
      (Nat.le_max_left earlierDepth depth) key.node before
      with ⟨last, exhausted⟩ | same
    · exact nomatch exhausted.symm.trans earlier.run
    · exact same.symm.trans earlier.run
  obtain ⟨last, run, level⟩ := (evalKeyed_retraces valid free unlimited deepest
    earlier.meets meets).result _ _ again
  rcases evalKeyed_refines_of_le (session.memoizing false)
    (Nat.le_max_right earlierDepth depth) key.node state
    with ⟨other, exhausted⟩ | same
  · simp only [Ends, exhausted]
  · simp only [Ends, same.trans run]
    exact ⟨trivial, level.cursor.trans earlier.finish, level.records⟩

/-- Once an evaluation is on record, the same one comes to the same result
again, and adds nothing. -/
theorem replay {key : MemoKey} {entry : MemoEntry α} {earlierDepth : Nat}
    {before after state : ParseState α σ}
    (earlier : Earlier session key entry earlierDepth before after)
    (covered : after.record.Precedes state.record)
    (meets : state.Meets session key) (depth : Nat) :
    Ends (evalKeyed (session.memoizing false) depth key.node)
      (fun verdict last => verdict = .ofResult entry.value ∧
        last.cursor = entry.finish ∧ last.record.Alike state.record)
      (fun _ => False) True state := by
  apply (rerun valid free unlimited earlier meets depth).mono_result
  rintro verdict last ⟨same, arrived, retraces⟩
  exact ⟨same, arrived, retraces covered⟩

end Retracing

end Eval

end PegEngine
