import PegEngine.Proofs.Invariants
import PegEngine.Proofs.Records

/-!
# Parses at the same point

Two parses of the same input are at the same point (`ParseState.Level`) if they
are at the same cursor, under as many negative lookaheads, with the same labels
in scope, and with records that are related in a way that no event disturbs
(`Record.Stable`).  The first parse keeps no results; whether the second one
does is left open, and so is how the records are related.  This file shows
which changes of both states, and which matchers, lead from one such point to
another.
-/

namespace PegEngine

open ParseState

/-- The session with results kept or not. -/
def Session.memoizing {α σ : Type} (session : Session α σ) (enabled : Bool) :
    Session α σ :=
  { session with options := session.options.set (.memoize enabled) }

@[simp]
theorem Session.grammar_memoizing {α σ : Type} (session : Session α σ)
    (enabled : Bool) : (session.memoizing enabled).grammar = session.grammar :=
  rfl

/-- A relation between records that the same event on both sides does not
disturb. -/
def Record.Stable {α σ : Type} (related : Record α σ → Record α σ → Prop) :
    Prop :=
  ∀ first second event, related first second →
    related (first.apply event) (second.apply event)

/-- Two parses are at the same point.  If they share their labels, these are the
same, too. -/
structure ParseState.Level {α σ : Type}
    (related : Record α σ → Record α σ → Prop)
    (shared : Prop) (left right : ParseState α σ) : Prop where
  cursor : right.cursor = left.cursor
  inverted : right.expectations.inverted = left.expectations.inverted
  labels : shared → right.scopes.top = left.scopes.top
  records : related left.record right.record

/-- Two parses have the same innermost rule. -/
def ParseState.SameRule {α σ : Type} (left right : ParseState α σ) : Prop :=
  right.activeRules.head? = left.activeRules.head?

namespace ParseState

variable {α σ : Type} {session : Session α σ} {flag : Bool}
  {related : Record α σ → Record α σ → Prop} {shared : Prop}
  {left right : ParseState α σ}

theorem SameRule.location (same : SameRule left right) (session : Session α σ)
    (position : Position) :
    right.location session position = left.location session position := by
  unfold SameRule at same
  unfold ParseState.location
  cases leftRules : left.activeRules with
  | nil => cases rightRules : right.activeRules <;> simp_all
  | cons rule others => cases rightRules : right.activeRules <;> simp_all

theorem SameRule.steady {other : Session α σ} {after afterToo : ParseState α σ}
    (same : SameRule left right) (steady : Steady session left after)
    (steadyToo : Steady other right afterToo) : SameRule after afterToo := by
  rw [SameRule, steady.activeRules, steadyToo.activeRules]
  exact same

theorem SameRule.of_runs {index : Nat} (runs : left.Runs session index)
    (runsToo : right.Runs session index) : SameRule left right := by
  obtain ⟨rule, isRule, innermost⟩ := runs
  obtain ⟨ruleToo, isRuleToo, innermostToo⟩ := runsToo
  rw [SameRule, innermost, innermostToo, ← isRule, ← isRuleToo]

theorem Level.imp {fewer : Prop} (level : Level related shared left right)
    (implies : fewer → shared) : Level related fewer left right :=
  { level with labels := fun isShared => level.labels (implies isShared) }

theorem Level.restore (level : Level related shared left right)
    (cursor : Cursor) :
    Level related shared (left.restore (session.memoizing false) cursor)
      (right.restore (session.memoizing flag) cursor) := by
  rw [restore_eq _ _ left, restore_eq _ _ right]
  exact { level with cursor := rfl }

theorem Level.toggle (level : Level related shared left right) :
    Level related shared left.toggle right.toggle :=
  { level with inverted := congrArg Bool.not level.inverted }

theorem Level.enterNode (level : Level related shared left right)
    (subject : Subject) :
    Level related shared (left.enterNode (session.memoizing false) subject)
      (right.enterNode (session.memoizing flag) subject) := by
  rw [enterNode_eq _ _ left, enterNode_eq _ _ right]
  exact { level with }

theorem Level.leaveNode (level : Level related shared left right)
    (subject : Subject) :
    Level related shared (left.leaveNode (session.memoizing false) subject)
      (right.leaveNode (session.memoizing flag) subject) := by
  rw [leaveNode_eq _ _ left, leaveNode_eq _ _ right]
  exact { level with }

theorem Level.traceMatch (level : Level related shared left right)
    (start : Cursor) :
    Level related shared (left.traceMatch (session.memoizing false) start)
      (right.traceMatch (session.memoizing flag) start) := by
  rw [traceMatch_eq _ _ left, traceMatch_eq _ _ right]
  exact { level with }

/-- A label that is bound in both parses keeps the scopes the same. -/
theorem Level.bind (level : Level related shared left right) (label : String)
    (value : Value α) :
    Level related shared (left.bind label value) (right.bind label value) := by
  unfold ParseState.bind
  split
  · exact level
  · refine { level with labels := fun isShared => ?_ }
    have same := level.labels isShared
    simp only [ScopeStack.bind, same]

/-- What has been consumed since a cursor is the same in both parses. -/
theorem Level.textFrom (level : Level related shared left right)
    (start : Cursor) :
    right.textFrom (session.memoizing flag) start =
      left.textFrom (session.memoizing false) start := by
  unfold ParseState.textFrom
  rw [level.cursor]
  rfl

variable (stable : Record.Stable related)
include stable

theorem Level.countExpression (level : Level related shared left right) :
    Level related shared left.countExpression right.countExpression :=
  { level with records := stable _ _ .counted level.records }

theorem Level.attempt (level : Level related shared left right) (failed : Bool)
    (start : Cursor) (descriptor : String) :
    Level related shared (left.attempt failed start descriptor)
      (right.attempt failed start descriptor) where
  cursor := level.cursor
  inverted := by
    have inverted := level.inverted
    simpa only [ParseState.attempt, inverted_record] using inverted
  labels := level.labels
  records := by
    rw [record_attempt, record_attempt, level.inverted]
    exact stable _ _ _ level.records

/-- From the same rule both parses report the same. -/
theorem SameRule.report (same : SameRule left right)
    (records : related left.record right.record) (error : ParseError)
    (position : Position) :
    related (left.report (session.memoizing false) error position).record
      (right.report (session.memoizing flag) error position).record := by
  have here : right.location (session.memoizing flag) position =
      left.location (session.memoizing false) position :=
    same.location session position
  rw [record_report, record_report, here]
  exact stable _ _ _ records

theorem Level.report (level : Level related shared left right)
    (same : SameRule left right) (error : ParseError) (position : Position) :
    Level related shared
      (left.report (session.memoizing false) error position)
      (right.report (session.memoizing flag) error position) where
  cursor := level.cursor
  inverted := level.inverted
  labels := level.labels
  records := same.report stable level.records error position

theorem Level.read (level : Level related shared left right)
    (same : SameRule left right) :
    Level related shared (left.read (session.memoizing false))
      (right.read (session.memoizing flag)) where
  cursor := by
    rw [cursor_read, cursor_read, level.cursor]
    rfl
  inverted := by
    rw [(steady_read _ right).inverted, (steady_read _ left).inverted,
      level.inverted]
  labels isShared := by
    rw [(steady_read _ right).scopes, (steady_read _ left).scopes,
      level.labels isShared]
  records := by
    have here : right.malformedReport (session.memoizing flag) =
        left.malformedReport (session.memoizing false) := by
      simp only [malformedReport, level.cursor]
      exact congrArg (Diagnostic.mk _ · _)
        (same.location (session.memoizing false) _)
    rw [record_read, record_read, level.cursor, here]
    change related (if (left.cursor.upcoming session.input).valid then _ else _)
      (if (left.cursor.upcoming session.input).valid then _ else _)
    split
    · exact level.records
    · exact stable _ _ _ level.records

theorem Level.consume (level : Level related shared left right)
    (same : SameRule left right) (session : Session α σ)
    (flag ignoresCase : Bool) (chars : List Char) :
    (right.consume (session.memoizing flag) ignoresCase chars).1 =
        (left.consume (session.memoizing false) ignoresCase chars).1 ∧
      Level related shared
        (left.consume (session.memoizing false) ignoresCase chars).2
        (right.consume (session.memoizing flag) ignoresCase chars).2 := by
  induction chars generalizing left right with
  | nil => exact ⟨rfl, level⟩
  | cons char chars ih =>
      rw [ParseState.consume, ParseState.consume, level.cursor]
      split
      · exact ih (level.read stable same)
          (same.steady (steady_read _ left) (steady_read _ right))
      · exact ⟨rfl, level⟩

theorem Level.succeed (level : Level related shared left right)
    (start : Cursor) (descriptor : String) :
    (right.succeed (session.memoizing flag) start descriptor).1 =
        (left.succeed (session.memoizing false) start descriptor).1 ∧
      Level related shared
        (left.succeed (session.memoizing false) start descriptor).2
        (right.succeed (session.memoizing flag) start descriptor).2 :=
  ⟨congrArg (Verdict.matched <| Value.text ·) (level.textFrom start),
    level.attempt stable false start descriptor⟩

theorem Level.fail (level : Level related shared left right)
    (descriptor : String) :
    (right.fail descriptor).1 = (left.fail descriptor).1 ∧
      Level related shared (left.fail descriptor).2
        (right.fail descriptor).2 := by
  have attempted := level.attempt stable true left.cursor descriptor
  unfold ParseState.fail
  rw [level.cursor]
  exact ⟨rfl, attempted⟩

theorem Level.matchLiteral (level : Level related shared left right)
    (same : SameRule left right) (session : Session α σ) (flag : Bool)
    (text : String) (ignoresCase : Bool) :
    (right.matchLiteral (session.memoizing flag) text ignoresCase).1 =
        (left.matchLiteral (session.memoizing false) text ignoresCase).1 ∧
      Level related shared
        (left.matchLiteral (session.memoizing false) text ignoresCase).2
        (right.matchLiteral (session.memoizing flag) text ignoresCase).2 := by
  have consumed := level.consume stable same session flag ignoresCase
    text.toList
  unfold ParseState.matchLiteral
  rw [level.cursor]
  generalize left.consume (session.memoizing false) ignoresCase text.toList =
    first at consumed
  generalize right.consume (session.memoizing flag) ignoresCase text.toList =
    second at consumed
  obtain ⟨agreed, first⟩ := first
  obtain ⟨agreedToo, second⟩ := second
  obtain ⟨rfl, reached⟩ :
      agreed = agreedToo ∧ Level related shared first second :=
    ⟨consumed.1.symm, consumed.2⟩
  cases agreed with
  | true => exact reached.succeed stable left.cursor _
  | false =>
      have attempted := reached.attempt stable true left.cursor
        (Expr.literalDescriptor text ignoresCase)
      exact ⟨rfl, attempted.restore left.cursor⟩

theorem Level.matchChar (level : Level related shared left right)
    (same : SameRule left right) (session : Session α σ) (flag : Bool)
    (accepts : Char → Bool) (descriptor : String) :
    (right.matchChar (session.memoizing flag) accepts descriptor).1 =
        (left.matchChar (session.memoizing false) accepts descriptor).1 ∧
      Level related shared
        (left.matchChar (session.memoizing false) accepts descriptor).2
        (right.matchChar (session.memoizing flag) accepts descriptor).2 := by
  unfold ParseState.matchChar
  rw [level.cursor]
  cases left.cursor.current with
  | none => exact level.fail stable descriptor
  | some char =>
      dsimp only
      split
      · exact (level.read stable same).succeed stable left.cursor descriptor
      · exact level.fail stable descriptor

end ParseState

end PegEngine
