import PegEngine.Proofs.Attempts
import PegEngine.Proofs.Changes
import PegEngine.Proofs.Visits

/-!
# The report of the farthest failure

Of the calls of an evaluation (`Eval.visits`), those that evaluate a matcher are
its attempts (`Eval.attempts`).  Whatever was attempted before an evaluation is
summed up by the record together with the attempts of the evaluation when it
ends (`Eval.evalExpr_records`).  A parse that does not match and has nothing
else to report therefore ends with one diagnostic, which tells what the farthest
of its attempts ask for, and no other parse reports that there was no match
(`Session.reports_farthest`).
-/

namespace PegEngine

open ParseState

/-- What describes an expression in reports if it is a matcher. -/
def Expr.matcherDescriptor? {α σ : Type} : Expr α σ → Option String
  | .literal text ignoresCase => some (literalDescriptor text ignoresCase)
  | .oneOf charClass => some charClass.descriptor
  | .any => some Expectations.anyDescriptor
  | _ => none

/-- Test whether an expression has not matched. -/
def Verdict.failed {α : Type} : Verdict α → Bool
  | .unmatched => true
  | _ => false

namespace Eval

variable {α σ : Type}

/-- Test whether the matcher at a place fails in a state.  It has no members, so
a depth of one suffices. -/
def fails (session : Session α σ) (place : ExprPlace) (expr : Expr α σ)
    (state : ParseState α σ) : Bool :=
  match evalExpr session 1 place expr state with
  | .ok verdict _ => verdict.failed
  | .error _ _ => false

/-- The attempt that a call makes, if it evaluates a matcher. -/
def attempt? (session : Session α σ) : Visit α σ → Option Attempt
  | .rule _ _ _ _ => none
  | .expression place expr nots state =>
    if enters session place expr state then
      expr.matcherDescriptor?.map fun descriptor =>
        ⟨state.cursor.position, nots, descriptor,
          fails session place expr state⟩
    else none

def attempts (session : Session α σ) (calls : List (Visit α σ)) :
    List Attempt :=
  calls.filterMap (attempt? session)

end Eval

/-- The attempts of a parse, with nodes nested no deeper than the given
depth. -/
def Session.attempts {α σ : Type} (session : Session α σ) (depth : Nat)
    (entry : Rule α σ) : List Attempt :=
  Eval.attempts session (session.visits depth entry)

namespace ParseState

variable {α σ : Type} (session : Session α σ) (state : ParseState α σ)

@[simp]
theorem expectations_read :
    (state.read session).expectations = state.expectations := by
  rw [read_eq]

@[simp]
theorem expectations_restore (cursor : Cursor) :
    (state.restore session cursor).expectations = state.expectations := by
  rw [restore_eq]

@[simp]
theorem expectations_enterNode (subject : Subject) :
    (state.enterNode session subject).expectations = state.expectations := by
  rw [enterNode_eq]

@[simp]
theorem expectations_leaveNode (subject : Subject) :
    (state.leaveNode session subject).expectations = state.expectations := by
  rw [leaveNode_eq]

@[simp]
theorem expectations_traceMatch (start : Cursor) :
    (state.traceMatch session start).expectations = state.expectations := by
  rw [traceMatch_eq]

@[simp]
theorem expectations_countExpression :
    state.countExpression.expectations = state.expectations :=
  rfl

@[simp]
theorem expectations_bind (label : String) (value : Value α) :
    (state.bind label value).expectations = state.expectations := by
  unfold ParseState.bind
  split <;> rfl

@[simp]
theorem expectations_rememberVerdict (key : MemoKey) (verdict : Verdict α) :
    (state.rememberVerdict key verdict).expectations =
      state.expectations := by
  cases verdict <;> rfl

@[simp]
theorem expectations_consume (ignoresCase : Bool) (chars : List Char) :
    (state.consume session ignoresCase chars).2.expectations =
      state.expectations := by
  induction chars generalizing state with
  | nil => rfl
  | cons char chars ih =>
      rw [consume]
      split
      · rw [ih, expectations_read]
      · rfl

/-- A literal records one attempt, where it started. -/
theorem expectations_matchLiteral (text : String) (ignoresCase : Bool) :
    (state.matchLiteral session text ignoresCase).2.expectations =
      state.expectations.record
        (state.matchLiteral session text ignoresCase).1.failed
        state.cursor.position (Expr.literalDescriptor text ignoresCase) := by
  have compared :=
    expectations_consume session state ignoresCase text.toList
  unfold matchLiteral
  rcases consumed : state.consume session ignoresCase text.toList
    with ⟨agreed, after⟩
  rw [consumed] at compared
  rw [← compared]
  cases agreed with
  | true => rfl
  | false => exact expectations_restore session _ _

/-- So does a matcher for one character. -/
theorem expectations_matchChar (accepts : Char → Bool) (descriptor : String) :
    (state.matchChar session accepts descriptor).2.expectations =
      state.expectations.record
        (state.matchChar session accepts descriptor).1.failed
        state.cursor.position descriptor := by
  unfold matchChar
  cases state.cursor.current with
  | none => rfl
  | some char =>
      dsimp only
      split
      · rw [← expectations_read session state]
        rfl
      · rfl

end ParseState

namespace Eval

variable {α σ β γ : Type} {session : Session α σ}

@[simp]
theorem attempts_append (calls later : List (Visit α σ)) :
    attempts session (calls ++ later) =
      attempts session calls ++ attempts session later :=
  List.filterMap_append

/-- The attempts that a program makes are added to those that the record sums
up. -/
def Records (nots : Nat) (made : List Attempt) (program : Eval α σ β)
    (state : ParseState α σ) : Prop :=
  ∀ past, state.expectations.Summarize past nots →
    Ends program
      (fun _ after => after.expectations.Summarize (past ++ made) nots)
      (fun _ => True) True state

section Programs

variable {nots : Nat} {made later : List Attempt} {program : Eval α σ β}
  {state : ParseState α σ}

/-- A program makes no attempt if it leaves the record as it is. -/
theorem records_nil
    (same : Ends program
      (fun _ after => after.expectations = state.expectations)
      (fun _ => True) True state) : Records nots [] program state := by
  intro past summarize
  refine same.mono_result fun _ after unchanged => ?_
  rw [List.append_nil, unchanged]
  exact summarize

theorem records_pure (result : β) :
    Records nots [] (pure result : Eval α σ β) state :=
  records_nil rfl

theorem records_modify {change : ParseState α σ → ParseState α σ}
    (same : (change state).expectations = state.expectations) :
    Records nots [] (modify change) state :=
  records_nil same

theorem records_cursor {next : Cursor → Eval α σ β}
    (records : Records nots made (next state.cursor) state) :
    Records nots made (cursor >>= next) state :=
  fun past summarize => ends_bind.mpr (records past summarize)

theorem records_runCode (code : Code α σ β) (start : Cursor) (value : Value α) :
    Records nots [] (runCode session code start value) state := by
  refine records_nil ((ends_runCode session code start value).mpr ?_)
  rcases code (state.context session start value) with ⟨reply, store⟩
  cases reply <;> trivial

/-- What is to hold of a result may rest on the run that gives it and on the
attempts that are on record by then. -/
theorem Records.followed {onResult : β → ParseState α σ → Prop}
    (records : Records nots made program state) {past : List Attempt}
    (summarize : state.expectations.Summarize past nots)
    (result : ∀ value after, program state = .ok value after →
      after.expectations.Summarize (past ++ made) nots →
        onResult value after) :
    Ends program onResult (fun _ => True) True state :=
  (records past summarize).mono_run result

theorem Records.bind {next : β → Eval α σ γ}
    (records : Records nots made program state)
    (rest : ∀ value after, program state = .ok value after →
      Records nots later (next value) after) :
    Records nots (made ++ later) (program >>= next) state := by
  intro past summarize
  refine ends_bind.mpr (records.followed summarize ?_)
  intro value after run summed
  rw [← List.append_assoc]
  exact rest value after run _ summed

/-- A program in a label scope, and what follows it. -/
theorem Records.inScope_bind {next : β → Eval α σ γ}
    (records : Records nots made program state.pushScope)
    (rest : ∀ value after, program state.pushScope = .ok value after →
      Records nots later (next value) after.popScope) :
    Records nots (made ++ later) (inScope program >>= next) state := by
  intro past summarize
  refine ends_bind.mpr (ends_inScope.mpr ?_)
  have pushed : state.pushScope.expectations.Summarize past nots := summarize
  refine records.followed pushed ?_
  intro value after run summed
  rw [← List.append_assoc]
  exact rest value after run _ summed

theorem Records.inScope (records : Records nots made program state.pushScope) :
    Records nots made (inScope program) state :=
  fun past summarize => ends_inScope.mpr (records past summarize)

theorem Records.lookahead {program : Eval α σ (Verdict α)}
    (records : Records nots made program state.pushScope) :
    Records nots made (lookahead session program) state := by
  intro past summarize
  refine (ends_lookahead session).mpr ((records past summarize).mono_result ?_)
  intro verdict after summed
  rw [expectations_restore]
  exact summed

/-- Under a negative lookahead there is one more around every attempt. -/
theorem Records.underNot
    (records : Records (nots + 1) made program state.toggle) :
    Records nots made (underNot program) state := by
  intro past summarize
  refine ends_underNot.mpr ((records past summarize.toggle).mono_result ?_)
  exact fun _ _ summed => summed.untoggle

/-- A program that is followed by one that makes no attempt. -/
theorem Records.then {next : β → Eval α σ γ}
    (records : Records nots made program state)
    (rest : ∀ value after, Records nots [] (next value) after) :
    Records nots made (program >>= next) state := by
  rw [← List.append_nil made]
  exact records.bind fun value after _ => rest value after

/-- What is replayed is not attempted again. -/
theorem records_memoized {enabled : Bool} {node : NodeKey}
    {program : Eval α σ (Verdict α)}
    (records : replays enabled node state = false →
      Records nots made program state) :
    Records nots (if replays enabled node state then [] else made)
      (memoized session enabled node program) state := by
  intro past summarize
  rw [ends_memoized]
  cases enabled with
  | false => simpa [replays] using records rfl past summarize
  | true =>
      simp only [if_true]
      cases kept : state.memo.lookup (state.memoKey node) with
      | some entry => simpa [replays, kept] using summarize
      | none =>
          have inside := records (by simp [replays, kept]) past summarize
          simpa [replays, kept] using inside

theorem records_counted {expr : Expr α σ} {program : Eval α σ (Verdict α)}
    (records : state.countExpression.overLimit session = false →
      Records nots made program
        (state.countExpression.enterNode session
          (.expression expr.kindName))) :
    Records nots
      (if state.countExpression.overLimit session then [] else made)
      (counted session expr program) state := by
  intro past summarize
  rw [ends_counted]
  split
  case isTrue => simpa using summarize
  case isFalse within =>
    have inside := records (by simpa using within) past
      (by simpa using summarize)
    simpa using inside

theorem records_visit {place : ExprPlace} {expr : Expr α σ}
    {program : Eval α σ (Verdict α)}
    (records : enters session place expr state = true →
      Records nots made program
        (state.countExpression.enterNode session
          (.expression expr.kindName))) :
    Records nots (if enters session place expr state then made else [])
      (visit session place expr program) state := by
  rw [ite_enters]
  exact records_memoized fun notKept => records_counted fun within =>
    records (by simp [enters, notKept, within])

theorem records_runRule {rule : Rule α σ} {program : Eval α σ (Verdict α)}
    (records : Records nots made program
      ((state.enterNode session (.rule rule.name)).enterRule rule)) :
    Records nots made (runRule session rule program) state := by
  intro past summarize
  have enters : ((state.enterNode session (.rule rule.name)).enterRule
      rule).expectations = state.expectations :=
    expectations_enterNode session state _
  have inside := records past (by rwa [enters])
  refine (ends_runRule session rule).mpr ((ends_traced session _).mpr
    ((ends_inRule rule).mpr (inside.mono_result ?_)))
  intro verdict after summed
  have leaves : (after.leaveRule.leaveNode session
      (.rule rule.name)).expectations = after.expectations :=
    expectations_leaveNode session _ _
  cases verdict with
  | matched value =>
      dsimp only
      rwa [expectations_traceMatch, leaves]
  | unmatched => exact leaves ▸ summed
  | aborted error => exact leaves ▸ summed

theorem records_evalAction {run : Action α σ} {program : Eval α σ (Verdict α)}
    (records : Records nots made program state) :
    Records nots made (evalAction session run program) state := by
  refine records_cursor (records.then fun verdict after => ?_)
  cases verdict with
  | matched value =>
      refine (records_runCode _ _ _).then fun reply after =>
        (records_modify (expectations_traceMatch _ _ _)).then
          fun _ after => ?_
      cases reply with
      | ok result => exact records_pure _
      | error message =>
          exact (records_modify rfl).then fun _ _ => records_pure _
  | unmatched => exact records_pure _
  | aborted error => exact records_pure _

theorem records_evalPredicate (test : Predicate α σ) (expected : Bool) :
    Records nots [] (evalPredicate session test expected) state := by
  refine records_cursor ((records_runCode _ _ _).then fun reply after => ?_)
  cases reply with
  | ok holds =>
      dsimp only
      split <;> exact records_pure _
  | error message => exact (records_modify rfl).then fun _ _ => records_pure _

end Programs

section Members

variable {evaluate : ExprPlace → Expr α σ → Eval α σ (Verdict α)}
  {visits : ExprPlace → Expr α σ → (nots : Nat) → ParseState α σ →
    List (Visit α σ)}
  (members : ∀ place expr nots state, Records nots
    (attempts session (visits place expr nots state)) (evaluate place expr)
    state)
  {nots : Nat} {state : ParseState α σ}
include members

theorem evalSequence_records (place : ExprPlace) (start : Cursor) (index : Nat)
    (values : List (Value α)) (exprs : List (Expr α σ)) :
    Records nots
      (attempts session
        (visitsInSequence evaluate visits place nots index exprs state))
      (evalSequence session evaluate place start index values exprs) state := by
  induction exprs generalizing index values state with
  | nil => exact records_pure _
  | cons expr exprs ih =>
      rw [visitsInSequence, attempts_append]
      refine (members _ _ _ _).bind fun verdict after run => ?_
      rw [run]
      cases verdict with
      | matched value => exact ih _ _
      | unmatched =>
          exact (records_modify (expectations_restore _ _ _)).then
            fun _ _ => records_pure _
      | aborted error => exact records_pure _

theorem evalChoice_records (place : ExprPlace) (index : Nat)
    (exprs : List (Expr α σ)) :
    Records nots
      (attempts session
        (visitsInChoice evaluate visits place nots index exprs state))
      (evalChoice evaluate place index exprs) state := by
  induction exprs generalizing index state with
  | nil => exact records_pure _
  | cons expr exprs ih =>
      rw [visitsInChoice, attempts_append]
      refine (members _ _ _ _).inScope_bind fun verdict after run => ?_
      rw [run]
      cases verdict with
      | matched value => exact records_pure _
      | unmatched => exact ih _
      | aborted error => exact records_pure _

theorem evalRounds_records (place : ExprPlace) (body : Expr α σ) (rounds : Nat)
    (values : List (Value α)) :
    Records nots
      (attempts session
        (visitsInRounds (evaluate place body) (visits place body nots) rounds
          state))
      (evalRounds (evaluate place body) rounds values) state := by
  induction rounds generalizing values state with
  | zero => exact fun _ _ => trivial
  | succ rounds ih =>
      rw [visitsInRounds, attempts_append]
      refine records_cursor ((members _ _ _ _).inScope_bind
        fun verdict after run => ?_)
      rw [run]
      cases verdict with
      | matched value =>
          -- Leaving the scope does not move the cursor, so both tests are one.
          refine records_cursor ?_
          change Records _ (attempts session (if _ then _ else _))
            (if after.cursor.offset = state.cursor.offset then _ else _) _
          split
          · exact records_pure _
          · exact ih _
      | unmatched => exact records_pure _
      | aborted error => exact records_pure _

theorem evalRepetition_records (place : ExprPlace) (body : Expr α σ)
    (required : Nat) :
    Records nots
      (attempts session
        (visitsInRounds (evaluate place body) (visits place body nots)
          (session.input.size - state.cursor.offset + 1) state))
      (evalRepetition session required (evaluate place body)) state := by
  refine records_cursor ((evalRounds_records members _ _ _ _).then
    fun result after => ?_)
  cases result with
  | ok values =>
      dsimp only
      split <;> exact records_pure _
  | error error => exact records_pure _

theorem evalRule_records (rule : Rule α σ) (index : Nat) :
    Records nots
      (attempts session (visitsOfRule session visits rule index nots state))
      (evalRule session evaluate rule index) state := by
  have listed : attempts session
      (visitsOfRule session visits rule index nots state) =
        if replays session.options.memoize (.rule index) state then []
        else attempts session (visits (.body index) rule.body nots
          ((state.enterNode session (.rule rule.name)).enterRule rule)) := by
    unfold visitsOfRule
    split <;> rfl
  rw [listed]
  exact records_memoized fun _ => records_runRule (members _ _ _ _)

theorem evalReference_records (place : ExprPlace) (name : String) :
    Records nots
      (attempts session (visitsOfNode session evaluate visits place nots state
        (.reference name)))
      (evalReference session evaluate name) state := by
  unfold evalReference
  simp only [visitsOfNode]
  cases session.grammar.target? name with
  | none =>
      dsimp only
      split <;> exact records_pure _
  | some target =>
      dsimp only
      split
      · exact records_pure _
      · exact evalRule_records members _ _

/-- What an expression that is no matcher attempts are the attempts of the
members and rules that it evaluates. -/
theorem evalNode_records (place : ExprPlace) {expr : Expr α σ}
    (noMatcher : expr.matcherDescriptor? = none) :
    Records nots
      (attempts session
        (visitsOfNode session evaluate visits place nots state expr))
      (evalNode session evaluate place expr) state := by
  cases expr with
  | literal | oneOf | any => cases noMatcher
  | sequence exprs =>
      exact records_cursor (evalSequence_records members _ _ _ _ _)
  | choice exprs => exact evalChoice_records members _ _ _
  | zeroOrMore body | oneOrMore body =>
      exact evalRepetition_records members _ _ _
  | optional body =>
      refine (members _ _ _ _).inScope.then fun verdict _ => ?_
      cases verdict <;> exact records_pure _
  | followedBy body =>
      refine (members _ _ _ _).lookahead.then fun verdict _ => ?_
      cases verdict <;> exact records_pure _
  | notFollowedBy body =>
      refine (members _ _ _ _).underNot.lookahead.then fun verdict _ => ?_
      cases verdict <;> exact records_pure _
  | labeled label body =>
      refine (members _ _ _ _).inScope.then fun verdict _ => ?_
      cases verdict with
      | matched value =>
          exact (records_modify (expectations_bind _ _ _)).then
            fun _ _ => records_pure _
      | unmatched => exact records_pure _
      | aborted error => exact records_pure _
  | reference name => exact evalReference_records members place name
  | action body run => exact records_evalAction (members _ _ _ _)
  | require test | forbid test => exact records_evalPredicate _ _

end Members

/-- A matcher has no members, and records one attempt. -/
theorem exists_matcher (session : Session α σ) {expr : Expr α σ}
    {descriptor : String}
    (isMatcher : expr.matcherDescriptor? = some descriptor) :
    ∃ matcher : ParseState α σ → Verdict α × ParseState α σ,
      (∀ evaluate place,
        evalNode session evaluate place expr = modifyGet matcher) ∧
      ∀ state, (matcher state).2.expectations =
        state.expectations.record (matcher state).1.failed
          state.cursor.position descriptor := by
  cases expr with
  | literal text ignoresCase =>
      cases isMatcher
      exact ⟨_, fun _ _ => rfl, fun state =>
        expectations_matchLiteral session state text ignoresCase⟩
  | oneOf charClass =>
      cases isMatcher
      exact ⟨_, fun _ _ => rfl, fun state =>
        expectations_matchChar session state _ _⟩
  | any =>
      cases isMatcher
      exact ⟨_, fun _ _ => rfl, fun state =>
        expectations_matchChar session state _ _⟩
  | _ => cases isMatcher

/-- If a matcher is evaluated at all, it fails as it does in the state in which
it comes to look at the input. -/
theorem fails_eq {place : ExprPlace} {expr : Expr α σ} {state : ParseState α σ}
    {matcher : ParseState α σ → Verdict α × ParseState α σ}
    (isMatcher : ∀ evaluate place,
      evalNode session evaluate place expr = modifyGet matcher)
    (entered : enters session place expr state = true) :
    fails session place expr state =
      (matcher (state.countExpression.enterNode session
        (.expression expr.kindName))).1.failed := by
  simp only [enters, Bool.and_eq_true, Bool.not_eq_true'] at entered
  obtain ⟨notKept, within⟩ := entered
  have looks : Ends (evalExpr session 1 place expr)
      (fun verdict _ => verdict = (matcher (state.countExpression.enterNode
        session (.expression expr.kindName))).1)
      (fun _ => False) False state := by
    have counts : Ends (counted session expr (modifyGet matcher))
        (fun verdict _ => verdict = (matcher (state.countExpression.enterNode
          session (.expression expr.kindName))).1)
        (fun _ => False) False state := by
      rw [ends_counted, if_neg (by simp [within]), ends_traced]
      rfl
    rw [evalExpr, isMatcher, visit, ends_memoized]
    split
    case isFalse => exact counts
    case isTrue enabled =>
      cases kept : state.memo.lookup (state.memoKey (.expression place)) with
      | some entry => simp [replays, enabled, kept] at notKept
      | none => exact counts
  obtain ⟨verdict, after, run, same⟩ := looks.exists_result
  simp only [fails, run, same]

/-- The attempts of an expression: its own, and those of what it calls. -/
theorem attempts_visits (depth : Nat) (place : ExprPlace) (expr : Expr α σ)
    (nots : Nat) (state : ParseState α σ) :
    attempts session (visits session (depth + 1) place expr nots state) =
      if enters session place expr state then
        (expr.matcherDescriptor?.map fun descriptor =>
          ⟨state.cursor.position, nots, descriptor,
            fails session place expr state⟩).toList ++
        attempts session (visitsOfNode session (evalExpr session depth)
          (visits session depth) place nots
          (state.countExpression.enterNode session
            (.expression expr.kindName)) expr)
      else [] := by
  cases entered : enters session place expr state with
  | false => simp [visits, attempts, attempt?, entered]
  | true =>
      cases isMatcher : expr.matcherDescriptor? with
      | none => simp [visits, attempts, attempt?, entered, isMatcher]
      | some descriptor =>
          simp [visits, attempts, attempt?, entered, isMatcher]

theorem visitsOfNode_matcher {expr : Expr α σ} {descriptor : String}
    (isMatcher : expr.matcherDescriptor? = some descriptor)
    {evaluate : ExprPlace → Expr α σ → Eval α σ (Verdict α)}
    {visits : ExprPlace → Expr α σ → (nots : Nat) → ParseState α σ →
      List (Visit α σ)} {place : ExprPlace} {nots : Nat}
    {state : ParseState α σ} :
    visitsOfNode session evaluate visits place nots state expr = [] := by
  cases expr with
  | literal | oneOf | any => rfl
  | _ => cases isMatcher

/-- The attempts of an evaluation are its calls of matchers. -/
theorem evalExpr_records (session : Session α σ) (depth : Nat)
    (place : ExprPlace) (expr : Expr α σ) (nots : Nat)
    (state : ParseState α σ) :
    Records nots
      (attempts session (visits session depth place expr nots state))
      (evalExpr session depth place expr) state := by
  induction depth generalizing place expr nots state with
  | zero => exact fun _ _ => trivial
  | succ depth ih =>
      rw [attempts_visits, evalExpr]
      -- A matcher calls nothing and is one attempt; anything else is none
      -- itself, and attempts what the members and rules that it calls do.
      cases isMatcher : expr.matcherDescriptor? with
      | none =>
          exact records_visit fun _ => evalNode_records ih place isMatcher
      | some descriptor =>
          obtain ⟨matcher, evaluates, recorded⟩ :=
            exists_matcher session isMatcher
          refine records_visit fun entered => ?_
          rw [visitsOfNode_matcher isMatcher, fails_eq evaluates entered,
            evaluates]
          intro past summarize
          refine ends_modifyGet.mpr ?_
          rw [recorded, cursor_enterNode]
          exact Expectations.Summarize.record ⟨_, _, _, _⟩ summarize

end Eval

namespace Session

variable {α σ : Type} {session : Session α σ}

/-- The record that a parse leaves sums up its attempts. -/
theorem summarize_entering {depth : Nat} {entry : Rule α σ}
    {verdict : Verdict α} {after : ParseState α σ}
    (run : session.entering depth entry = .ok verdict after) :
    after.expectations.Summarize (session.attempts depth entry) 0 := by
  have opened : session.opening.expectations = Expectations.empty :=
    expectations_read session _
  have summarize : session.opening.expectations.Summarize [] 0 :=
    opened ▸ Expectations.summarize_empty
  have records : Eval.Records 0 (session.attempts depth entry)
      (Eval.evalRule session (Eval.evalExpr session depth) entry 0)
      session.opening :=
    Eval.evalRule_records (Eval.evalExpr_records session depth) entry 0
  exact (records [] summarize).result run

/-- While the entry rule is evaluated nothing is reported but malformed bytes
and what the code of the grammar complains of. -/
theorem kind_of_evolved {after : ParseState α σ}
    (evolved : Evolved session session.opening after)
    {diagnostic : Diagnostic}
    (reported : diagnostic ∈ after.diagnostics.toList) :
    diagnostic.kind = .encoding ∨ diagnostic.kind = .semantic := by
  have opens : Extends (ParseState.initial session) session.opening :=
    extends_read _
  have extended := opens.trans evolved.extends
  rcases extended.kinds diagnostic reported with earlier | kind
  · cases earlier
  · exact kind

theorem kind_ne_syntactic {after : ParseState α σ}
    (evolved : Evolved session session.opening after)
    {diagnostic : Diagnostic}
    (reported : diagnostic ∈ after.diagnostics.toList) :
    diagnostic.kind ≠ .syntactic := by
  rcases kind_of_evolved evolved reported with kind | kind <;> simp [kind]

/-- Test whether the entry rule does not match and nothing has been reported. -/
def misses (session : Session α σ) (depth : Nat) (entry : Rule α σ) : Bool :=
  match session.entering depth entry with
  | .ok .unmatched after => after.diagnostics.isEmpty
  | _ => false

theorem exists_of_misses {depth : Nat} {entry : Rule α σ}
    (misses : session.misses depth entry = true) :
    ∃ after, session.entering depth entry = .ok .unmatched after ∧
      after.diagnostics.isEmpty = true := by
  unfold Session.misses at misses
  split at misses
  case h_1 after run => exact ⟨after, run, misses⟩
  case h_2 => cases misses

/-- Only a parse that does not match and has nothing else to report is reported
not to match. -/
theorem misses_of_noMatch {entry : Rule α σ} {depth : Nat} {parsed : Parsed α}
    {log : Array LogEntry} {diagnostic : Diagnostic} {expected : List String}
    (starts : session.grammar.start? = some entry)
    (valid : session.grammar.error? = none)
    (ends : session.reportOn (session.entering depth entry) =
      some ⟨.parsed parsed, log⟩)
    (reported : diagnostic ∈ parsed.diagnostics.toList)
    (noMatch : diagnostic.error = .noMatch expected) :
    session.misses depth entry = true := by
  have kind : diagnostic.kind = .syntactic := by
    rw [Diagnostic.kind, noMatch]
    rfl
  have evolves := Eval.evalRule_evolves (Eval.evalExpr_evolves session depth)
    entry 0 session.opening
  -- No diagnostic of the evaluation is of this kind, and of those that are
  -- added at the end only the one for a rule that does not match is.
  rcases run : session.entering depth entry with
    ⟨verdict, after⟩ | ⟨interrupt, after⟩
  all_goals rw [run] at ends
  · have evolved := evolves.result run
    cases verdict with
    | matched value =>
        cases ends
        exact absurd kind (kind_ne_syntactic evolved reported)
    | unmatched =>
        cases ends
        simp only [misses, run]
        refine Decidable.byContradiction fun notEmpty => ?_
        simp only [reportNoMatch, if_neg notEmpty] at reported
        exact kind_ne_syntactic evolved reported kind
    | aborted error =>
        have settled := (entering_settles starts valid depth).result run
        obtain ⟨rfl, -⟩ := settled.describes
        cases ends
        rcases mem_push reported with earlier | rfl
        · exact absurd kind (kind_ne_syntactic evolved earlier)
        · cases noMatch
  · cases interrupt with
    | exhausted => cases ends
    | fault fault =>
        have evolved := evolves.fault run
        simp only [reportOn] at ends
        split at ends
        · cases ends
          rcases mem_push reported with earlier | rfl
          · exact absurd kind (kind_ne_syntactic evolved earlier)
          · cases noMatch
        · cases ends

/-- Such a parse reports what the farthest of its attempts ask for, and nothing
else. -/
theorem reportOn_of_misses {entry : Rule α σ} {depth : Nat}
    (misses : session.misses depth entry = true) :
    ∃ parsed log diagnostic expected,
      session.reportOn (session.entering depth entry) =
          some ⟨.parsed parsed, log⟩ ∧
        parsed.diagnostics.toList = [diagnostic] ∧
        diagnostic.error = .noMatch expected ∧
        Attempt.Reports (session.attempts depth entry)
          diagnostic.position.offset expected := by
  obtain ⟨after, run, nothing⟩ := exists_of_misses misses
  have none : after.diagnostics.toList = [] := List.isEmpty_iff.mp nothing
  have reports := (summarize_entering run).reports
  have closes : (after.reportNoMatch session).diagnostics.toList =
      [⟨after.expectations.farthest,
        after.location session after.expectations.farthest,
        .noMatch after.expectations.expected⟩] := by
    simp [reportNoMatch, nothing, report, Diagnostics.push, none]
  exact ⟨_, _, _, _, by rw [run]; rfl, closes, rfl, reports⟩

/-- For a valid grammar, a parse reports that there was no match exactly if the
entry rule does not match and nothing has been reported by then.  This is the
only diagnostic then, at the farthest offset of the attempts that matter, and it
lists what they ask for there. -/
theorem reports_farthest (session : Session α σ) {entry : Rule α σ}
    (starts : session.grammar.start? = some entry)
    (valid : session.grammar.error? = none) :
    ((∃ parsed log diagnostic expected,
        session.Gives ⟨.parsed parsed, log⟩ ∧
          diagnostic ∈ parsed.diagnostics.toList ∧
          diagnostic.error = .noMatch expected) ↔
      ∃ depth, session.misses depth entry = true) ∧
    ∀ depth, session.misses depth entry = true →
      ∃ parsed log diagnostic expected,
        session.Gives ⟨.parsed parsed, log⟩ ∧
          parsed.diagnostics.toList = [diagnostic] ∧
          diagnostic.error = .noMatch expected ∧
          Attempt.Reports (session.attempts depth entry)
            diagnostic.position.offset expected := by
  have reports : ∀ depth, session.misses depth entry = true →
      ∃ parsed log diagnostic expected,
        session.Gives ⟨.parsed parsed, log⟩ ∧
          parsed.diagnostics.toList = [diagnostic] ∧
          diagnostic.error = .noMatch expected ∧
          Attempt.Reports (session.attempts depth entry)
            diagnostic.position.offset expected := by
    intro depth misses
    obtain ⟨parsed, log, diagnostic, expected, ends, report⟩ :=
      reportOn_of_misses misses
    exact ⟨parsed, log, diagnostic, expected,
      (gives_iff starts valid).mpr ⟨depth, ends⟩, report⟩
  refine ⟨⟨?_, ?_⟩, reports⟩
  · rintro ⟨parsed, log, diagnostic, expected, gives, reported, noMatch⟩
    obtain ⟨depth, ends⟩ := (gives_iff starts valid).mp gives
    exact ⟨depth, misses_of_noMatch starts valid ends reported noMatch⟩
  · rintro ⟨depth, misses⟩
    obtain ⟨parsed, log, diagnostic, expected, gives, only, noMatch, -⟩ :=
      reports depth misses
    exact ⟨parsed, log, diagnostic, expected, gives,
      only ▸ List.mem_singleton_self _, noMatch⟩

end Session

namespace Grammar

/-- A letter that is followed by another one, by the end, or by anything but a
third letter. -/
def followed : Rule Unit :=
  ⟨"Followed", "",
    .sequence
      [.exactly "a",
        .choice
          [.reference "Letter", .notFollowedBy (.reference "Something"),
            .reference "Letter", .notFollowedBy (.exactly "x")]]⟩

/-- A parse that comes upon the third letter. -/
def followedSession : Session Unit :=
  .ofSettings
    ⟨[followed, ⟨"Letter", "", .exactly "b"⟩, ⟨"Something", "", .any⟩]⟩ ""
    "ax".toUTF8 [.memoize true]

/-- The second letter is tried once only, since the result is replayed.  Both
lookaheads find what they should not. -/
def followedAttempts : List Attempt :=
  [⟨⟨1, 1, 0⟩, 0, "\"a\"", false⟩, ⟨⟨1, 2, 1⟩, 0, "\"b\"", true⟩,
    ⟨⟨1, 2, 1⟩, 1, ".", false⟩, ⟨⟨1, 2, 1⟩, 1, "\"x\"", false⟩]

theorem followedAttempts_reports :
    Attempt.Reports followedAttempts 1 ["!\"x\"", "\"b\"", "EOF"] := by
  refine ⟨by decide, ["!\"x\"", "\"b\""], by decide, by decide +kernel,
    fun item => ?_⟩
  have wishes : Attempt.wishesAt 1 followedAttempts =
      ["\"b\"", "!.", "!\"x\""] := by decide
  rw [wishes]
  constructor
  · intro isItem
    rcases List.mem_pair.mp isItem with rfl | rfl <;> decide
  · rintro ⟨isWish, notEnd⟩
    rcases List.mem_cons.mp isWish with rfl | isWish
    · decide
    · rcases List.mem_pair.mp isWish with rfl | rfl
      · exact absurd rfl notEnd
      · decide

theorem followed_reports :
    followedSession.grammar.start? = some followed ∧
      followedSession.grammar.error? = none ∧
      followedSession.misses 8 followed = true ∧
      followedSession.attempts 8 followed = followedAttempts ∧
      ∃ parsed log diagnostic,
        followedSession.Gives ⟨.parsed parsed, log⟩ ∧
          parsed.diagnostics.toList = [diagnostic] ∧
          diagnostic.error = .noMatch ["!\"x\"", "\"b\"", "EOF"] ∧
          diagnostic.position.offset = 1 := by
  have misses : followedSession.misses 8 followed = true := by decide +kernel
  have attempts : followedSession.attempts 8 followed = followedAttempts := by
    decide +kernel
  have farthest := followedSession.reports_farthest rfl rfl
  obtain ⟨parsed, log, diagnostic, expected, gives, only, noMatch, reports⟩ :=
    farthest.2 8 misses
  rw [attempts] at reports
  obtain ⟨offset, rfl⟩ := reports.unique followedAttempts_reports
  exact ⟨rfl, rfl, misses, attempts, parsed, log, diagnostic, gives, only,
    noMatch, offset⟩

end Grammar

end PegEngine
