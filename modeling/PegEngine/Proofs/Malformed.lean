import PegEngine.Proofs.Sightings

/-!
# The report of malformed bytes

For every way of composing evaluations, where the cursor is taken by the whole
is accounted for by where the parts take it (`Eval.evalExpr_sights`).  So a parse
reports each malformed byte up to the highest offset at which its cursor has
been, once and in the order of the input, and no others
(`Session.reports_malformed`).
-/

namespace PegEngine

open ParseState

namespace Eval

variable {α σ β γ : Type} {session : Session α σ}

/-- Where a program takes the cursor is accounted for when it ends, if the
cursor to which it may go back is one of those at which it has been. -/
def Sights (session : Session α σ) (start : Cursor) (made : List Cursor)
    (program : Eval α σ β) (state : ParseState α σ) : Prop :=
  ∀ passed, start ∈ passed → state.Sighted session passed →
    Ends program (fun _ after => after.Sighted session (passed ++ made))
      (fun after => after.Sighted session (passed ++ made)) True state

section Programs

variable {start : Cursor} {made later : List Cursor} {program : Eval α σ β}
  {state : ParseState α σ}

theorem sights_pure (result : β) :
    Sights session start [] (pure result : Eval α σ β) state := by
  intro passed _ sighted
  simpa using sighted

theorem sights_modify {change : ParseState α σ → ParseState α σ}
    (same : (change state).sight = state.sight) :
    Sights session start [] (modify change) state := by
  intro passed _ sighted
  simpa using sighted.of_sight_eq same

/-- Going back to where the cursor was at first. -/
theorem sights_restore :
    Sights session start [] (modify (ParseState.restore session start))
      state := by
  intro passed isPassed sighted
  simpa using sighted.restore isPassed

theorem sights_complain (message : String) :
    Sights session start []
      (modify (ParseState.report session (.semantic message) start.position))
      state := by
  intro passed isPassed sighted
  have differs : ParseError.semantic message ≠ .invalidEncoding := by simp
  simpa using sighted.report differs isPassed

/-- The cursor at which a program starts may be the one to which it goes back. -/
theorem sights_cursor {next : Cursor → Eval α σ β}
    (sights : Sights session state.cursor made (next state.cursor) state) :
    Sights session start made (cursor >>= next) state := by
  intro passed _ sighted
  exact ends_bind.mpr (sights passed sighted.cursor sighted)

theorem sights_runCode (code : Code α σ β) (origin : Cursor) (value : Value α) :
    Sights session start [] (runCode session code origin value) state := by
  intro passed _ sighted
  refine (ends_runCode session code origin value).mpr ?_
  rw [List.append_nil]
  rcases code (state.context session origin value) with ⟨reply, store⟩
  cases reply <;> exact sighted.of_sight_eq rfl

/-- If the first program fails the second one is not run, and takes the cursor
nowhere. -/
theorem Sights.bind {next : β → Eval α σ γ}
    (sights : Sights session start made program state)
    (fails : ∀ fault after, program state = .error (.fault fault) after →
      later = [])
    (rest : ∀ value after, program state = .ok value after →
      Sights session start later (next value) after) :
    Sights session start (made ++ later) (program >>= next) state := by
  intro passed isPassed sighted
  refine ends_bind.mpr ((sights passed isPassed sighted).mono_runs ?_ ?_)
  · intro value after run accounts
    rw [← List.append_assoc]
    exact rest value after run _ (List.mem_append_left _ isPassed) accounts
  · intro fault after run accounts
    rw [fails fault after run, List.append_nil]
    exact accounts

/-- A program that is followed by one that takes the cursor nowhere. -/
theorem Sights.then {next : β → Eval α σ γ}
    (sights : Sights session start made program state)
    (rest : ∀ value after, Sights session start [] (next value) after) :
    Sights session start made (program >>= next) state := by
  rw [← List.append_nil made]
  exact sights.bind (fun _ _ _ => rfl) fun value after _ => rest value after

theorem Sights.inScope
    (sights : Sights session start made program state.pushScope) :
    Sights session start made (inScope program) state := by
  intro passed isPassed sighted
  refine ends_inScope.mpr ((sights passed isPassed
    (sighted.of_sight_eq rfl)).mono_result ?_)
  exact fun _ _ accounts => accounts.of_sight_eq rfl

/-- A program in a label scope, and what follows it. -/
theorem Sights.inScope_bind {next : β → Eval α σ γ}
    (sights : Sights session start made program state.pushScope)
    (fails : ∀ fault after,
      program state.pushScope = .error (.fault fault) after → later = [])
    (rest : ∀ value after, program state.pushScope = .ok value after →
      Sights session start later (next value) after.popScope) :
    Sights session start (made ++ later) (Eval.inScope program >>= next)
      state := by
  intro passed isPassed sighted
  refine ends_bind.mpr (ends_inScope.mpr ((sights passed isPassed
    (sighted.of_sight_eq rfl)).mono_runs ?_ ?_))
  · intro value after run accounts
    rw [← List.append_assoc]
    exact rest value after run _ (List.mem_append_left _ isPassed)
      (accounts.of_sight_eq rfl)
  · intro fault after run accounts
    rw [fails fault after run, List.append_nil]
    exact accounts

/-- A lookahead goes back to where it has started. -/
theorem Sights.lookahead {program : Eval α σ (Verdict α)}
    (sights : Sights session start made program state.pushScope) :
    Sights session start made (lookahead session program) state := by
  intro passed isPassed sighted
  refine (ends_lookahead session).mpr ((sights passed isPassed
    (sighted.of_sight_eq rfl)).mono_result ?_)
  intro verdict after accounts
  have popped : after.popScope.Sighted session (passed ++ made) :=
    accounts.of_sight_eq rfl
  exact popped.restore (List.mem_append_left _ sighted.cursor)

theorem Sights.underNot
    (sights : Sights session start made program state.toggle) :
    Sights session start made (underNot program) state := by
  intro passed isPassed sighted
  refine ends_underNot.mpr ((sights passed isPassed
    (sighted.of_sight_eq rfl)).mono_result ?_)
  exact fun _ _ accounts => accounts.of_sight_eq rfl

/-- A call starts where the cursor has been. -/
theorem Sights.call (sights : Sights session start made program state) :
    Sights session start (state.cursor :: made) program state := by
  intro passed isPassed sighted
  rw [List.append_cons]
  exact sights _ (List.mem_append_left _ isPassed)
    (sighted.again sighted.cursor)

theorem sights_memoized {enabled : Bool} {node : NodeKey}
    {program : Eval α σ (Verdict α)}
    (sights : replays enabled node state = false →
      Sights session start made program state) :
    Sights session start
      ((replayed? enabled node state).toList ++
        if replays enabled node state then [] else made)
      (memoized session enabled node program) state := by
  intro passed isPassed sighted
  rw [ends_memoized]
  cases enabled with
  | false => simpa [replays, replayed?] using sights rfl passed isPassed sighted
  | true =>
      simp only [if_true]
      cases kept : state.memo.lookup (state.memoKey node) with
      | some entry =>
          have isFinish := sighted.memo _ _ kept
          simpa [replays, replayed?, kept] using
            (sighted.again isFinish).restore (List.mem_append_left _ isFinish)
      | none =>
          have inside := (sights (by simp [replays, kept]) passed isPassed
            sighted).mono_result fun verdict after accounts =>
              accounts.rememberVerdict (state.memoKey node) verdict
          simpa [replays, replayed?, kept] using inside

theorem sights_counted {expr : Expr α σ} {program : Eval α σ (Verdict α)}
    (sights : state.countExpression.overLimit session = false →
      Sights session start made program
        (state.countExpression.enterNode session
          (.expression expr.kindName))) :
    Sights session start
      (if state.countExpression.overLimit session then [] else made)
      (counted session expr program) state := by
  intro passed isPassed sighted
  rw [ends_counted]
  split
  case isTrue =>
    rw [List.append_nil]
    exact sighted.of_sight_eq rfl
  case isFalse within =>
    refine (ends_traced session _).mpr ((sights (by simpa using within) passed
      isPassed (sighted.of_sight_eq (by simp))).mono_result ?_)
    exact fun _ _ accounts => accounts.of_sight_eq (by simp)

/-- An expression is replayed to where its match has ended, or takes the cursor
where its evaluation does. -/
theorem sights_visit {place : ExprPlace} {expr : Expr α σ}
    {program : Eval α σ (Verdict α)}
    (sights : enters session place expr state = true →
      Sights session start made program
        (state.countExpression.enterNode session
          (.expression expr.kindName))) :
    Sights session start
      ((replayed? (session.options.memoize && !expr.usesScope)
        (.expression place) state).toList ++
        if enters session place expr state then made else [])
      (visit session place expr program) state := by
  have passes : (if enters session place expr state then made else []) =
      if replays (session.options.memoize && !expr.usesScope)
        (.expression place) state then []
      else if state.countExpression.overLimit session then [] else made := by
    unfold enters
    cases replays (session.options.memoize && !expr.usesScope)
      (.expression place) state <;>
    cases state.countExpression.overLimit session <;> rfl
  rw [passes]
  exact sights_memoized fun notKept => sights_counted fun within =>
    sights (by simp [enters, notKept, within])

theorem sights_runRule {rule : Rule α σ} {program : Eval α σ (Verdict α)}
    (sights : Sights session start made program
      ((state.enterNode session (.rule rule.name)).enterRule rule)) :
    Sights session start made (runRule session rule program) state := by
  intro passed isPassed sighted
  have inside := sights passed isPassed (sighted.of_sight_eq (by simp))
  refine (ends_runRule session rule).mpr ((ends_traced session _).mpr
    ((ends_inRule rule).mpr (inside.mono_result ?_)))
  intro verdict after accounts
  cases verdict <;> exact accounts.of_sight_eq (by simp)

/-- A complaint of an action is reported where the match starts. -/
theorem sights_evalAction {run : Action α σ} {program : Eval α σ (Verdict α)}
    (sights : Sights session state.cursor made program state) :
    Sights session start made (evalAction session run program) state := by
  refine sights_cursor (sights.then fun verdict after => ?_)
  cases verdict with
  | matched value =>
      refine (sights_runCode _ _ _).then fun reply after =>
        (sights_modify (sight_traceMatch _ _ _)).then fun _ after => ?_
      cases reply with
      | ok result => exact sights_pure _
      | error message =>
          exact (sights_complain message).then fun _ _ => sights_pure _
  | unmatched => exact sights_pure _
  | aborted error => exact sights_pure _

theorem sights_evalPredicate (test : Predicate α σ) (expected : Bool) :
    Sights session start [] (evalPredicate session test expected) state := by
  refine sights_cursor ((sights_runCode _ _ _).then fun reply after => ?_)
  cases reply with
  | ok holds =>
      dsimp only
      split <;> exact sights_pure _
  | error message =>
      have differs : ParseError.semantic message ≠ .invalidEncoding := by simp
      refine Sights.then (fun passed _ sighted => ?_) fun _ _ => sights_pure _
      rw [List.append_nil]
      exact sighted.report differs sighted.cursor

end Programs

section Members

variable {evaluate : ExprPlace → Expr α σ → Eval α σ (Verdict α)}
  {visits : ExprPlace → Expr α σ → (nots : Nat) → ParseState α σ →
    List (Visit α σ)}
  (members : ∀ start place expr nots state, Sights session start
    (cursors session (visits place expr nots state)) (evaluate place expr)
    state)
  {nots : Nat} {state : ParseState α σ}
include members

theorem evalSequence_sights (place : ExprPlace) (start : Cursor) (index : Nat)
    (values : List (Value α)) (exprs : List (Expr α σ)) :
    Sights session start
      (cursors session
        (visitsInSequence evaluate visits place nots index exprs state))
      (evalSequence session evaluate place start index values exprs) state := by
  induction exprs generalizing index values state with
  | nil => exact sights_pure _
  | cons expr exprs ih =>
      rw [visitsInSequence, cursors_append]
      refine (members _ _ _ _ _).bind (fun fault after run => by simp [run])
        fun verdict after run => ?_
      rw [run]
      cases verdict with
      | matched value => exact ih _ _
      | unmatched => exact sights_restore.then fun _ _ => sights_pure _
      | aborted error => exact sights_pure _

theorem evalChoice_sights (start : Cursor) (place : ExprPlace) (index : Nat)
    (exprs : List (Expr α σ)) :
    Sights session start
      (cursors session
        (visitsInChoice evaluate visits place nots index exprs state))
      (evalChoice evaluate place index exprs) state := by
  induction exprs generalizing index state with
  | nil => exact sights_pure _
  | cons expr exprs ih =>
      rw [visitsInChoice, cursors_append]
      refine (members _ _ _ _ _).inScope_bind
        (fun fault after run => by simp [run]) fun verdict after run => ?_
      rw [run]
      cases verdict with
      | matched value => exact sights_pure _
      | unmatched => exact ih _
      | aborted error => exact sights_pure _

theorem evalRounds_sights (start : Cursor) (place : ExprPlace) (body : Expr α σ)
    (rounds : Nat) (values : List (Value α)) :
    Sights session start
      (cursors session
        (visitsInRounds (evaluate place body) (visits place body nots) rounds
          state))
      (evalRounds (evaluate place body) rounds values) state := by
  induction rounds generalizing start values state with
  | zero => exact fun _ _ _ => trivial
  | succ rounds ih =>
      rw [visitsInRounds, cursors_append]
      refine sights_cursor ((members _ _ _ _ _).inScope_bind
        (fun fault after run => by rw [run]; rfl) fun verdict after run => ?_)
      rw [run]
      cases verdict with
      | matched value =>
          -- Leaving the scope does not move the cursor, so both tests are one.
          refine sights_cursor ?_
          change Sights _ _ (cursors session (if _ then _ else _))
            (if after.cursor.offset = state.cursor.offset then _ else _) _
          split
          · exact sights_pure _
          · exact ih _ _
      | unmatched => exact sights_pure _
      | aborted error => exact sights_pure _

theorem evalRepetition_sights (start : Cursor) (place : ExprPlace)
    (body : Expr α σ) (required : Nat) :
    Sights session start
      (cursors session
        (visitsInRounds (evaluate place body) (visits place body nots)
          (session.input.size - state.cursor.offset + 1) state))
      (evalRepetition session required (evaluate place body)) state := by
  refine sights_cursor ((evalRounds_sights members _ _ _ _ _).then
    fun result after => ?_)
  cases result with
  | ok values =>
      dsimp only
      split <;> exact sights_pure _
  | error error => exact sights_pure _

theorem evalRule_sights (start : Cursor) (rule : Rule α σ) (index : Nat) :
    Sights session start
      (cursors session (visitsOfRule session visits rule index nots state))
      (evalRule session evaluate rule index) state := by
  rw [cursors_visitsOfRule]
  exact (sights_memoized fun _ => sights_runRule (members _ _ _ _ _)).call

theorem evalReference_sights (start : Cursor) (place : ExprPlace)
    (name : String) :
    Sights session start
      (cursors session (visitsOfNode session evaluate visits place nots state
        (.reference name)))
      (evalReference session evaluate name) state := by
  unfold evalReference
  simp only [visitsOfNode]
  cases session.grammar.target? name with
  | none =>
      dsimp only
      split <;> exact sights_pure _
  | some target =>
      dsimp only
      split
      · exact sights_pure _
      · exact evalRule_sights members _ _ _

/-- An expression takes the cursor where its members and the rules that it calls
do, and where it reads itself. -/
theorem evalNode_sights (start : Cursor) (place : ExprPlace) (expr : Expr α σ) :
    Sights session start
      (expr.readings session.input state.cursor ++
        cursors session
          (visitsOfNode session evaluate visits place nots state expr))
      (evalNode session evaluate place expr) state := by
  cases expr with
  | literal text ignoresCase =>
      intro passed _ sighted
      refine ends_modifyGet.mpr ?_
      simpa [visitsOfNode, Expr.readings] using
        sighted.matchLiteral text ignoresCase
  | oneOf charClass =>
      intro passed _ sighted
      refine ends_modifyGet.mpr ?_
      simpa [visitsOfNode, Expr.readings] using
        sighted.matchChar charClass.accepts _
  | any =>
      intro passed _ sighted
      refine ends_modifyGet.mpr ?_
      simpa [visitsOfNode, Expr.readings] using
        sighted.matchChar (fun _ => true) _
  | sequence exprs =>
      exact sights_cursor (evalSequence_sights members _ _ _ _ _)
  | choice exprs => exact evalChoice_sights members _ _ _ _
  | zeroOrMore body | oneOrMore body =>
      exact evalRepetition_sights members _ _ _ _
  | optional body =>
      refine (members _ _ _ _ _).inScope.then fun verdict _ => ?_
      cases verdict <;> exact sights_pure _
  | followedBy body =>
      refine (members _ _ _ _ _).lookahead.then fun verdict _ => ?_
      cases verdict <;> exact sights_pure _
  | notFollowedBy body =>
      refine (members _ _ _ _ _).underNot.lookahead.then fun verdict _ => ?_
      cases verdict <;> exact sights_pure _
  | labeled label body =>
      refine (members _ _ _ _ _).inScope.then fun verdict _ => ?_
      cases verdict with
      | matched value =>
          exact (sights_modify (sight_bind _ _ _)).then fun _ _ => sights_pure _
      | unmatched => exact sights_pure _
      | aborted error => exact sights_pure _
  | reference name => exact evalReference_sights members _ place name
  | action body run => exact sights_evalAction (members _ _ _ _ _)
  | require test | forbid test => exact sights_evalPredicate _ _

end Members

/-- Where an evaluation takes the cursor is listed along its calls. -/
theorem evalExpr_sights (session : Session α σ) (depth : Nat) (start : Cursor)
    (place : ExprPlace) (expr : Expr α σ) (nots : Nat)
    (state : ParseState α σ) :
    Sights session start
      (cursors session (visits session depth place expr nots state))
      (evalExpr session depth place expr) state := by
  induction depth generalizing start place expr nots state with
  | zero => exact fun _ _ _ => trivial
  | succ depth ih =>
      rw [cursors_visits, evalExpr]
      have same : (state.countExpression.enterNode session
          (.expression expr.kindName)).cursor = state.cursor :=
        cursor_enterNode _
      refine (sights_visit fun _ => ?_).call
      rw [← same]
      exact evalNode_sights ih start place expr

end Eval

namespace Session

variable {α σ : Type} {session : Session α σ}

/-- The first reading arrives at the start of the input. -/
theorem sighted_opening (session : Session α σ) :
    session.opening.Sighted session [session.opening.cursor] := by
  have stands := Cursor.stands_advance_start session.input
  have accounts : (ParseState.initial session).Accounts session [] := by
    have none : (ParseState.initial session).diagnostics.malformedOffsets =
        [] := rfl
    refine ⟨by simp, ?_, by simp [ParseState.initial, Diagnostics.empty],
      by simp [none], by simp [none], ?_⟩
    · intro key entry kept
      cases (MemoTable.lookup_empty key).symm.trans kept
    · intro offset
      exact iff_of_true rfl (by simp [none])
  have adjoins : Adjoins session []
      ((ParseState.initial session).cursor.advance session.input) := by
    refine ⟨stands, fun offset _ atMost => .inr ?_⟩
    have atStart : ((ParseState.initial session).cursor.advance
        session.input).offset = 0 := Cursor.offset_advance _ _
    omega
  have opened := accounts.read adjoins
  rwa [← cursor_read] at opened

/-- The evaluation of the entry rule accounts for the cursors of the parse. -/
theorem entering_sights (session : Session α σ) (depth : Nat)
    (entry : Rule α σ) :
    Eval.Ends (Eval.evalRule session (Eval.evalExpr session depth) entry 0)
      (fun _ after => after.Sighted session (session.cursors depth entry))
      (fun after => after.Sighted session (session.cursors depth entry)) True
      session.opening :=
  Eval.evalRule_sights (fun start => Eval.evalExpr_sights session depth start)
    session.opening.cursor entry 0 [session.opening.cursor]
    (List.mem_singleton_self _) session.sighted_opening

/-- What is added at the end of a parse is no report of a malformed byte. -/
theorem exists_sighted {entry : Rule α σ} {depth : Nat} {parsed : Parsed α}
    {log : Array LogEntry} (starts : session.grammar.start? = some entry)
    (valid : session.grammar.error? = none)
    (ends : session.parseWithin depth = some ⟨.parsed parsed, log⟩) :
    ∃ after : ParseState α σ,
      after.Sighted session (session.cursors depth entry) ∧
        parsed.diagnostics.malformedOffsets =
          after.diagnostics.malformedOffsets := by
  have sights := session.entering_sights depth entry
  rw [parseWithin_eq starts valid] at ends
  rcases run : session.entering depth entry with
    ⟨verdict, after⟩ | ⟨interrupt, after⟩
  all_goals rw [run] at ends
  · refine ⟨after, sights.result run, ?_⟩
    cases verdict with
    | matched value =>
        cases ends
        rfl
    | unmatched =>
        cases ends
        change (after.reportNoMatch session).diagnostics.malformedOffsets = _
        unfold reportNoMatch
        split
        · exact Diagnostics.malformedOffsets_push_of_ne (by simp)
        · rfl
    | aborted error =>
        have settled := (entering_settles starts valid depth).result run
        obtain ⟨rfl, -⟩ := settled.describes
        cases ends
        exact Diagnostics.malformedOffsets_push_of_ne (by simp)
  · cases interrupt with
    | exhausted => cases ends
    | fault fault =>
        refine ⟨after, sights.fault run, ?_⟩
        simp only [reportOn] at ends
        split at ends
        · cases ends
          exact Diagnostics.malformedOffsets_push_of_ne (by simp)
        · cases ends

/-- For a valid grammar, the malformed bytes that a parse reports are those up
to the highest offset at which its cursor has been, in the order of the input
and each of them once. -/
theorem reports_malformed {entry : Rule α σ} {depth : Nat} {parsed : Parsed α}
    {log : Array LogEntry} (starts : session.grammar.start? = some entry)
    (valid : session.grammar.error? = none)
    (ends : session.parseWithin depth = some ⟨.parsed parsed, log⟩) :
    parsed.diagnostics.malformedOffsets.Pairwise (· < ·) ∧
      ∀ offset, offset ∈ parsed.diagnostics.malformedOffsets ↔
        offset ≤ session.highest depth entry ∧
          Decoded.Boundary session.input offset ∧
          (Decoded.ofBytesAt session.input offset).valid = false := by
  obtain ⟨after, sighted, same⟩ := exists_sighted starts valid ends
  rw [same]
  refine ⟨sighted.increasing, fun offset => ?_⟩
  rw [sighted.reported, le_highest_iff, and_comm]
  rfl

end Session

namespace Grammar

/-- The first attempt reads over a malformed byte and is given up.  The second
one comes to that byte again, and the code complains of it in the same words. -/
def mistaken : Rule Unit :=
  ⟨"main", "",
    .choice
      [.sequence [.any, .any, .exactly "x"],
        .sequence
          [.any,
            .require (Code.pure fun _ => .complaint "invalid encoding")]]⟩

/-- The second of two malformed bytes is out of reach. -/
def mistakenSession : Session Unit :=
  .ofSettings ⟨[mistaken]⟩ "" ⟨#[0x61, 0xff, 0x62, 0xff]⟩ [.memoize true]

theorem mistaken_reports_malformed :
    mistakenSession.grammar.start? = some mistaken ∧
      mistakenSession.grammar.error? = none ∧
      mistakenSession.highest 8 mistaken = 2 ∧
      ∃ parsed log,
        mistakenSession.parseWithin 8 = some ⟨.parsed parsed, log⟩ ∧
          1 ∈ parsed.diagnostics.malformedOffsets ∧
          3 ∉ parsed.diagnostics.malformedOffsets := by
  have highest : mistakenSession.highest 8 mistaken = 2 := by decide +kernel
  have invalid : (Decoded.ofBytesAt mistakenSession.input 1).valid = false := by
    decide +kernel
  have boundary : Decoded.Boundary mistakenSession.input 1 :=
    (Decoded.boundary_zero _).tail (by
      simp only [Decoded.Follows]
      decide +kernel)
  obtain ⟨parsed, log, ends⟩ : ∃ parsed log,
      mistakenSession.parseWithin 8 = some ⟨.parsed parsed, log⟩ :=
    ⟨_, _, rfl⟩
  have reports := Session.reports_malformed rfl rfl ends
  refine ⟨rfl, rfl, highest, parsed, log, ends, ?_, ?_⟩
  · exact (reports.2 1).mpr ⟨by omega, boundary, invalid⟩
  · intro reported
    have atMost := ((reports.2 3).mp reported).1
    omega

end Grammar

end PegEngine
