import PegEngine.Proofs.Invariants
import PegEngine.Proofs.Outcomes

/-!
# States that look alike

Two parses look alike from some states on if these differ in nothing that bears
on verdicts, on reports and on what code sees: not in the cursor, in the labels
in scope, in what was recorded and reported, or in the store
(`ParseState.Akin`).  They may differ in the traces, in the frames that are set
aside, and in the bodies of the rules that are being evaluated.  If they look
alike closely, the same expressions were counted and the same results kept.

All changes that evaluation makes keep states alike, also in two sessions, as
long as these have the same input under the same name.
-/

namespace PegEngine

/-- Test whether an entry is logged by parses that are traced only. -/
def LogEntry.isTrace (entry : LogEntry) : Bool := decide (entry.level = .trace)

/-- Two sessions have the same input under the same name, start with the same
store, and do the same about faults. -/
structure Session.Akin {α σ : Type} (session other : Session α σ) : Prop where
  input : other.input = session.input
  fileName : other.fileName = session.fileName
  store : other.options.store = session.options.store
  recover : other.options.recover = session.options.recover

namespace ParseState

variable {α σ : Type}

/-- What has been logged whether or not the parse is traced. -/
def untraced (state : ParseState α σ) : List LogEntry :=
  state.log.toList.filter fun entry => !entry.isTrace

section Traces

variable (session : Session α σ) (state : ParseState α σ)

theorem untraced_note {entry : LogEntry} (isTrace : entry.level = .trace) :
    (state.note entry).untraced = state.untraced := by
  simp [untraced, note, LogEntry.isTrace, isTrace]

@[simp]
theorem untraced_restore (cursor : Cursor) :
    (state.restore session cursor).untraced = state.untraced := by
  unfold restore trace
  split
  · rfl
  · split
    · exact untraced_note state rfl
    · rfl

@[simp]
theorem untraced_enterNode (subject : Subject) :
    (state.enterNode session subject).untraced = state.untraced := by
  unfold enterNode
  split
  · exact untraced_note state rfl
  · rfl

@[simp]
theorem untraced_leaveNode (subject : Subject) :
    (state.leaveNode session subject).untraced = state.untraced := by
  unfold leaveNode
  split
  · exact untraced_note state rfl
  · rfl

@[simp]
theorem untraced_traceMatch (start : Cursor) :
    (state.traceMatch session start).untraced = state.untraced := by
  unfold traceMatch
  split
  · exact untraced_note state rfl
  · rfl

end Traces

/-- Two states agree on all that bears on reports, leaving aside the labels in
scope, and closely if they agree on counts and kept results as well. -/
structure Similar (closely : Bool) (left right : ParseState α σ) : Prop where
  cursor : right.cursor = left.cursor
  ruleNames : right.activeRules.map Rule.diagnosticName =
    left.activeRules.map Rule.diagnosticName
  expectations : right.expectations = left.expectations
  diagnostics : right.diagnostics = left.diagnostics
  reportedByte : right.reportedByte = left.reportedByte
  store : right.store = left.store
  untraced : right.untraced = left.untraced
  counted : closely = true → right.expressions = left.expressions
  kept : closely = true → right.memo = left.memo

/-- Two states look alike, with the given frames below those of the innermost
scope. -/
structure Akin (closely : Bool) (below belowToo : List (Frame α))
    (left right : ParseState α σ) : Prop
    extends Similar closely left right where
  top : right.scopes.top = left.scopes.top
  below : left.scopes.below = below
  belowToo : right.scopes.below = belowToo
  spare : left.scopes.SpareEmpty
  spareToo : right.scopes.SpareEmpty

variable {session other : Session α σ} {closely : Bool}
  {below belowToo : List (Frame α)} {left right : ParseState α σ}

theorem Similar.refl (state : ParseState α σ) : Similar closely state state :=
  ⟨rfl, rfl, rfl, rfl, rfl, rfl, rfl, fun _ => rfl, fun _ => rfl⟩

theorem Similar.symm (similar : Similar closely left right) :
    Similar closely right left where
  cursor := similar.cursor.symm
  ruleNames := similar.ruleNames.symm
  expectations := similar.expectations.symm
  diagnostics := similar.diagnostics.symm
  reportedByte := similar.reportedByte.symm
  store := similar.store.symm
  untraced := similar.untraced.symm
  counted closely := (similar.counted closely).symm
  kept closely := (similar.kept closely).symm

theorem Similar.trans {middle : ParseState α σ}
    (first : Similar closely left middle)
    (second : Similar closely middle right) : Similar closely left right where
  cursor := second.cursor.trans first.cursor
  ruleNames := second.ruleNames.trans first.ruleNames
  expectations := second.expectations.trans first.expectations
  diagnostics := second.diagnostics.trans first.diagnostics
  reportedByte := second.reportedByte.trans first.reportedByte
  store := second.store.trans first.store
  untraced := second.untraced.trans first.untraced
  counted closely :=
    (second.counted closely).trans (first.counted closely)
  kept closely := (second.kept closely).trans (first.kept closely)

section Changes

theorem Similar.enterNode (similar : Similar closely left right)
    (subject subjectToo : Subject) :
    Similar closely (left.enterNode session subject)
      (right.enterNode other subjectToo) := by
  have untraced := similar.untraced
  rw [← untraced_enterNode session left subject,
    ← untraced_enterNode other right subjectToo] at untraced
  rw [enterNode_eq] at untraced ⊢
  rw [enterNode_eq other] at untraced ⊢
  exact { similar with untraced := untraced }

theorem Similar.leaveNode (similar : Similar closely left right)
    (subject subjectToo : Subject) :
    Similar closely (left.leaveNode session subject)
      (right.leaveNode other subjectToo) := by
  have untraced := similar.untraced
  rw [← untraced_leaveNode session left subject,
    ← untraced_leaveNode other right subjectToo] at untraced
  rw [leaveNode_eq] at untraced ⊢
  rw [leaveNode_eq other] at untraced ⊢
  exact { similar with untraced := untraced }

theorem Similar.traceMatch (similar : Similar closely left right)
    (start : Cursor) :
    Similar closely (left.traceMatch session start)
      (right.traceMatch other start) := by
  have untraced := similar.untraced
  rw [← untraced_traceMatch session left start,
    ← untraced_traceMatch other right start] at untraced
  rw [traceMatch_eq] at untraced ⊢
  rw [traceMatch_eq other] at untraced ⊢
  exact { similar with untraced := untraced }

theorem Similar.restore (similar : Similar closely left right)
    (cursor : Cursor) :
    Similar closely (left.restore session cursor)
      (right.restore other cursor) := by
  have untraced := similar.untraced
  rw [← untraced_restore session left cursor,
    ← untraced_restore other right cursor] at untraced
  rw [restore_eq] at untraced ⊢
  rw [restore_eq other] at untraced ⊢
  exact { similar with cursor := rfl, untraced := untraced }

theorem Similar.note (similar : Similar closely left right) (entry : LogEntry) :
    Similar closely (left.note entry) (right.note entry) :=
  { similar with
    untraced := by
      have untraced := similar.untraced
      simp only [ParseState.untraced] at untraced
      simp [ParseState.untraced, ParseState.note, untraced] }

theorem Similar.toggle (similar : Similar closely left right) :
    Similar closely left.toggle right.toggle :=
  { similar with
    expectations := congrArg Expectations.toggle similar.expectations }

theorem Similar.attempt (similar : Similar closely left right) (failed : Bool)
    (start : Cursor) (descriptor : String) :
    Similar closely (left.attempt failed start descriptor)
      (right.attempt failed start descriptor) :=
  { similar with
    expectations := congrArg
      (Expectations.record · failed start.position descriptor)
      similar.expectations }

theorem Similar.countExpression (similar : Similar closely left right) :
    Similar closely left.countExpression right.countExpression :=
  { similar with
    counted := fun closely => congrArg (· + 1) (similar.counted closely) }

theorem Similar.keepStore (similar : Similar closely left right)
    (store : Store σ) :
    Similar closely { left with store := store }
      { right with store := store } :=
  { similar with store := rfl }

theorem Similar.remember (similar : Similar closely left right) (key : MemoKey)
    (value : Option (Value α)) :
    Similar closely (left.remember key value) (right.remember key value) :=
  { similar with
    kept := fun closely => by
      simp only [ParseState.remember, similar.kept closely, similar.cursor] }

theorem Similar.memoKey (similar : Similar closely left right)
    (node : NodeKey) : right.memoKey node = left.memoKey node := by
  simp only [ParseState.memoKey, similar.cursor, similar.expectations]

variable (same : session.Akin other)
include same

theorem Similar.location (similar : Similar closely left right)
    (position : Position) :
    right.location other position = left.location session position := by
  have names := similar.ruleNames
  unfold ParseState.location
  rw [same.fileName]
  cases leftRules : left.activeRules with
  | nil =>
      rw [leftRules] at names
      rw [List.map_eq_nil_iff.mp names]
  | cons rule others =>
      rw [leftRules] at names
      obtain ⟨ruleToo, othersToo, rightRules, sameName, -⟩ :=
        List.map_eq_cons_iff.mp names
      rw [rightRules]
      dsimp only
      rw [sameName]

theorem Similar.report (similar : Similar closely left right)
    (error : ParseError) (position : Position) :
    Similar closely (left.report session error position)
      (right.report other error position) :=
  { similar with
    diagnostics := by
      simp only [ParseState.report, similar.diagnostics,
        similar.location same] }

theorem Similar.reportHere (similar : Similar closely left right)
    (error : ParseError) :
    Similar closely (left.reportHere session error)
      (right.reportHere other error) := by
  unfold ParseState.reportHere
  rw [similar.cursor]
  exact similar.report same error _

theorem Similar.read (similar : Similar closely left right) :
    Similar closely (left.read session) (right.read other) := by
  have meets : right.meetsMalformed other = left.meetsMalformed session := by
    simp only [meetsMalformed, isNewByte, similar.cursor,
      similar.reportedByte, same.input]
  have reports : right.malformedReport other =
      left.malformedReport session := by
    simp only [malformedReport, similar.cursor, same.input,
      similar.location same]
  rw [read_eq, read_eq]
  exact { similar with
    cursor := by simp only [similar.cursor, same.input]
    diagnostics := by
      simp only [meets, reports, similar.diagnostics]
    reportedByte := by
      simp only [meets, similar.cursor, similar.reportedByte] }

theorem Similar.textFrom (similar : Similar closely left right)
    (start : Cursor) :
    right.textFrom other start = left.textFrom session start := by
  simp only [ParseState.textFrom, same.input, similar.cursor]

theorem Similar.consume (similar : Similar closely left right)
    (ignoresCase : Bool) (chars : List Char) :
    (right.consume other ignoresCase chars).1 =
        (left.consume session ignoresCase chars).1 ∧
      Similar closely (left.consume session ignoresCase chars).2
        (right.consume other ignoresCase chars).2 := by
  induction chars generalizing left right with
  | nil => exact ⟨rfl, similar⟩
  | cons char chars ih =>
      rw [ParseState.consume, ParseState.consume, similar.cursor]
      split
      · exact ih (similar.read same)
      · exact ⟨rfl, similar⟩

theorem Similar.succeed (similar : Similar closely left right)
    (start : Cursor) (descriptor : String) :
    (right.succeed other start descriptor).1 =
        (left.succeed session start descriptor).1 ∧
      Similar closely (left.succeed session start descriptor).2
        (right.succeed other start descriptor).2 := by
  unfold ParseState.succeed
  rw [similar.textFrom same]
  exact ⟨rfl, similar.attempt false start descriptor⟩

omit same in
theorem Similar.fail (similar : Similar closely left right)
    (descriptor : String) :
    (right.fail descriptor).1 = (left.fail descriptor).1 ∧
      Similar closely (left.fail descriptor).2 (right.fail descriptor).2 := by
  unfold ParseState.fail
  rw [similar.cursor]
  exact ⟨rfl, similar.attempt true left.cursor descriptor⟩

theorem Similar.matchLiteral (similar : Similar closely left right)
    (text : String) (ignoresCase : Bool) :
    (right.matchLiteral other text ignoresCase).1 =
        (left.matchLiteral session text ignoresCase).1 ∧
      Similar closely (left.matchLiteral session text ignoresCase).2
        (right.matchLiteral other text ignoresCase).2 := by
  obtain ⟨sameAnswer, after⟩ :=
    similar.consume same ignoresCase text.toList
  unfold ParseState.matchLiteral
  rw [similar.cursor]
  rcases first : left.consume session ignoresCase text.toList
    with ⟨agreed, reached⟩
  rcases second : right.consume other ignoresCase text.toList
    with ⟨agreedToo, reachedToo⟩
  rw [first, second] at sameAnswer after
  dsimp only at sameAnswer after
  subst sameAnswer
  cases agreedToo with
  | true => exact after.succeed same left.cursor _
  | false => exact ⟨rfl, (after.attempt true left.cursor _).restore _⟩

theorem Similar.matchChar (similar : Similar closely left right)
    (accepts : Char → Bool) (descriptor : String) :
    (right.matchChar other accepts descriptor).1 =
        (left.matchChar session accepts descriptor).1 ∧
      Similar closely (left.matchChar session accepts descriptor).2
        (right.matchChar other accepts descriptor).2 := by
  unfold ParseState.matchChar
  rw [similar.cursor]
  cases left.cursor.current with
  | none => exact similar.fail descriptor
  | some char =>
      dsimp only
      split
      · exact (similar.read same).succeed same left.cursor descriptor
      · exact similar.fail descriptor

end Changes

section Scopes

/-- Whatever keeps states similar keeps them alike if it does not touch the
scopes. -/
theorem Akin.of_similar (akin : Akin closely below belowToo left right)
    {after afterToo : ParseState α σ} (similar : Similar closely after afterToo)
    (scopes : after.scopes = left.scopes)
    (scopesToo : afterToo.scopes = right.scopes) :
    Akin closely below belowToo after afterToo where
  toSimilar := similar
  top := by rw [scopes, scopesToo, akin.top]
  below := by rw [scopes, akin.below]
  belowToo := by rw [scopesToo, akin.belowToo]
  spare := scopes ▸ akin.spare
  spareToo := scopesToo ▸ akin.spareToo

theorem Akin.pushScope (akin : Akin closely below belowToo left right) :
    Akin closely (left.scopes.top :: below) (left.scopes.top :: belowToo)
      left.pushScope right.pushScope where
  toSimilar := { akin.toSimilar with }
  top := (ScopeStack.top_push akin.spareToo).trans
    (ScopeStack.top_push akin.spare).symm
  below := (ScopeStack.below_push left.scopes).trans (by rw [akin.below])
  belowToo := (ScopeStack.below_push right.scopes).trans
    (by rw [akin.belowToo, akin.top])
  spare := akin.spare.push
  spareToo := akin.spareToo.push

theorem Akin.popScope {frame : Frame α}
    (akin : Akin closely (frame :: below) (frame :: belowToo) left right) :
    Akin closely below belowToo left.popScope right.popScope := by
  have popped := ScopeStack.pop_eq akin.below
  have poppedToo := ScopeStack.pop_eq akin.belowToo
  refine ⟨{ akin.toSimilar with }, ?_, ?_, ?_, akin.spare.pop,
    akin.spareToo.pop⟩
  · exact (congrArg ScopeStack.top poppedToo).trans
      (congrArg ScopeStack.top popped).symm
  · exact congrArg ScopeStack.below popped
  · exact congrArg ScopeStack.below poppedToo

theorem Akin.bind (akin : Akin closely below belowToo left right)
    (label : String) (value : Value α) :
    Akin closely below belowToo (left.bind label value)
      (right.bind label value) := by
  unfold ParseState.bind
  split
  · exact akin
  · exact { akin with
      top := congrArg (Frame.bind · label value) akin.top }

/-- A rule is entered under the name by which diagnostics mention it. -/
theorem Akin.enterRule (akin : Akin closely below belowToo left right)
    {rule ruleToo : Rule α σ}
    (sameName : ruleToo.diagnosticName = rule.diagnosticName) :
    Akin closely (left.scopes.top :: below) (left.scopes.top :: belowToo)
      (left.enterRule rule) (right.enterRule ruleToo) :=
  { akin.pushScope with
    ruleNames := by
      simp [ParseState.enterRule, ParseState.pushScope, sameName,
        akin.ruleNames] }

theorem Akin.leaveRule {frame : Frame α}
    (akin : Akin closely (frame :: below) (frame :: belowToo) left right) :
    Akin closely below belowToo left.leaveRule right.leaveRule :=
  { akin.popScope with
    ruleNames := by
      simp only [ParseState.leaveRule, List.map_tail, akin.ruleNames] }

/-- Code sees the same in states that look alike. -/
theorem Akin.context (akin : Akin closely below belowToo left right)
    (same : session.Akin other) (start : Cursor) (value : Value α) :
    right.context other start value = left.context session start value := by
  simp only [ParseState.context, akin.toSimilar.textFrom same, akin.top,
    akin.store]

end Scopes

end ParseState

end PegEngine
