import PegEngine.Proofs.Parses
import PegEngine.Proofs.Replay

/-!
# Memoization is transparent

A parse that keeps results runs alongside one that does not.  The invariant is
that the two are at the same point, that their records look the same, and that
every kept result is one to which an earlier evaluation without kept results
has come, all of which is on record by now (`Record.Follows`).  A result that
is replayed is then the one to which the evaluation would come again.
-/

namespace PegEngine

open ParseState

namespace Record

variable {α σ : Type} {session : Session α σ} {first second : Record α σ}

/-- An earlier evaluation has come to a result, and whatever it had to add is
on record. -/
def Covers (session : Session α σ) (record : Record α σ) (key : MemoKey)
    (entry : MemoEntry α) : Prop :=
  ∃ depth before after, Eval.Earlier session key entry depth before after ∧
    after.record.Precedes record

/-- The record of a parse that keeps results follows that of a parse which does
not: it looks the same, with no more expressions counted, and it covers every
result that was kept. -/
structure Follows (session : Session α σ) (first second : Record α σ) :
    Prop where
  alike : second.Alike first
  expressions : second.expressions ≤ first.expressions
  covers : ∀ key entry, second.memo.lookup key = some entry →
    second.Covers session key entry

theorem Covers.mono {later : Record α σ} {key : MemoKey} {entry : MemoEntry α}
    (covers : first.Covers session key entry)
    (precedes : first.Precedes later) : later.Covers session key entry := by
  obtain ⟨depth, before, after, earlier, onRecord⟩ := covers
  exact ⟨depth, before, after, earlier, onRecord.trans precedes⟩

theorem stable_follows (session : Session α σ) : Stable (Follows session) := by
  intro first second event follows
  refine ⟨follows.alike.apply event, ?_, fun key entry kept => ?_⟩
  · rw [expressions_apply, expressions_apply]
    exact Nat.add_le_add_right follows.expressions _
  · rw [memo_apply] at kept
    exact (follows.covers key entry kept).mono (precedes_apply second event)

end Record

namespace Eval

variable {α σ : Type} {session : Session α σ} {shared : Prop}
  {left right : ParseState α σ}

section Keeping

variable {key : MemoKey} {first second : Eval α σ (Verdict α)} {enabled : Bool}
  {depth : Nat}

/-- The result of an evaluation that has just been on record may be kept. -/
theorem level_remember {after afterToo : ParseState α σ} {verdict : Verdict α}
    (level : Level (Record.Follows session) shared after afterToo)
    (meets : left.Meets session key)
    (run : evalKeyed (session.memoizing false) depth key.node left =
      .ok verdict after) :
    Level (Record.Follows session) shared after
      (afterToo.rememberVerdict key verdict) := by
  have follows := level.records
  have kept : ∀ value : Option (Value α), verdict = .ofResult value →
      Level (Record.Follows session) shared after
        (afterToo.remember key value) := by
    rintro value rfl
    refine { level with records := ⟨{ follows.alike with },
      follows.expressions, fun other entry found => ?_⟩ }
    have unchanged : afterToo.record.Precedes
        (afterToo.remember key value).record :=
      { Record.Precedes.refl afterToo.record with }
    simp only [record, remember, MemoTable.lookup_store] at found
    split at found
    case isTrue same =>
      cases found
      subst same
      exact ⟨depth, left, after, ⟨meets, run, level.cursor.symm⟩,
        follows.alike.symm.precedes.trans unchanged⟩
    case isFalse => exact (follows.covers other entry found).mono unchanged
  cases verdict with
  | matched value => exact kept (some value) rfl
  | unmatched => exact kept none rfl
  | aborted error => exact level

variable (valid : session.grammar.error? = none)
  (free : session.grammar.StoreFree)
  (unlimited : session.options.maxExpressions = none)
include valid free unlimited

/-- Keeping the result of a node, and replaying it, leads to where evaluating
the node leads. -/
theorem memoized_paired {node : NodeKey} {spans : Value α → Nat → Prop}
    (isNode : evalKeyed (session.memoizing false) depth node = first)
    (level : Level (Record.Follows session) shared left right)
    (meets : enabled = true → left.Meets session (right.memoKey node))
    (settles : enabled = true →
      Settles (session.memoizing false) True false spans left.cursor first left)
    (paired : Paired first second
      (fun _ => Level (Record.Follows session) shared)
      (Stopped (Record.Follows session)) left right) :
    Paired first (memoized (session.memoizing true) enabled node second)
      (fun _ => Level (Record.Follows session) shared)
      (Stopped (Record.Follows session)) left right := by
  subst isNode
  have follows := level.records
  refine paired_memoized (fun _ => paired) ?_ ?_
  · intro entry isEnabled kept
    obtain ⟨_, before, after, earlier, covered⟩ := follows.covers _ entry kept
    have replayed := replay valid free unlimited earlier
      (covered.trans follows.alike.precedes) (meets isEnabled) depth
    refine (replayed.and (settles isEnabled)).mono ?_ (fun _ no => no) id
    rintro verdict last ⟨⟨rfl, arrived, alike⟩, settled⟩
    refine ⟨rfl, ?_⟩
    rw [restore_eq]
    exact {
      cursor := arrived.symm
      inverted := level.inverted.trans settled.balanced.inverted.symm
      labels := fun isShared =>
        (level.labels isShared).trans (settled.labels rfl).symm
      records := ⟨follows.alike.trans alike.symm,
        Nat.le_trans follows.expressions settled.balanced.expressions,
        follows.covers⟩ }
  · intro isEnabled _
    refine ⟨fun verdict after run => ?_, paired.fault⟩
    obtain ⟨afterToo, runToo, reached⟩ := paired.result verdict after run
    exact ⟨afterToo, runToo, level_remember reached (meets isEnabled) run⟩

theorem rules_memoized
    (members : KeepsAbreast session true (Record.Follows session)
      (evalExpr (session.memoizing false) depth)
      (evalExpr (session.memoizing true) depth)) :
    RulesKeepAbreast session true (Record.Follows session)
      (evalExpr (session.memoizing false) depth)
      (evalExpr (session.memoizing true) depth) := by
  intro rule index shared left right isRule abreast
  exact memoized_paired valid free unlimited
    (evalKeyed_rule (session.memoizing false) isRule depth) abreast.toLevel
    (fun _ => meets_rule abreast.ready abreast.cursor abreast.inverted index)
    (fun _ => evalRule_memoizing_settles valid false depth isRule abreast.ready)
    (runRule_paired members isRule abreast)

/-- A parse that keeps results keeps abreast of one that does not. -/
theorem evalExpr_memoized (depth : Nat) :
    KeepsAbreast session true (Record.Follows session)
      (evalExpr (session.memoizing false) depth)
      (evalExpr (session.memoizing true) depth) := by
  induction depth with
  | zero =>
      intro place expr shared left right found uses abreast runs runsToo
      exact .of_exhausted rfl
  | succ depth ih =>
      intro place expr shared left right found uses abreast runs runsToo
      have paired := counted_paired (Record.stable_follows session) free
        unlimited ih (rules_memoized valid free unlimited ih) found uses abreast
        runs runsToo
      -- Results are kept for expressions that do not use the labels in scope.
      have apart : (true && !expr.usesScope) = true →
          expr.usesScope = false := by
        simp
      exact stride_of_level valid unlimited found abreast runs runsToo
        (memoized_paired valid free unlimited
          (evalKeyed_expression (session.memoizing false) found (depth + 1))
          abreast.toLevel
          (fun isEnabled => meets_expression found (apart isEnabled)
            abreast.ready runs abreast.cursor abreast.inverted)
          (fun isEnabled => evalExpr_memoizing_settles_apart valid false
            (depth + 1) found (apart isEnabled) abreast.ready runs)
          paired)

end Keeping

section Reporting

/-- The same report on both sides. -/
theorem Stopped.report
    (stopped : Stopped (Record.Follows session) left right)
    (error : ParseError) (position : Position) :
    Stopped (Record.Follows session)
      (left.report (session.memoizing false) error position)
      (right.report (session.memoizing true) error position) where
  cursor := stopped.cursor
  sameRule := stopped.sameRule
  records := stopped.sameRule.report (Record.stable_follows session)
    stopped.records error position

theorem Stopped.reportHere
    (stopped : Stopped (Record.Follows session) left right)
    (error : ParseError) :
    Stopped (Record.Follows session)
      (left.reportHere (session.memoizing false) error)
      (right.reportHere (session.memoizing true) error) := by
  rw [ParseState.reportHere, ParseState.reportHere, stopped.cursor]
  exact stopped.report error _

theorem Stopped.note
    (stopped : Stopped (Record.Follows session) left right)
    (entry entryToo : LogEntry) :
    Stopped (Record.Follows session) (left.note entry)
      (right.note entryToo) :=
  { stopped with }

theorem Stopped.reportNoMatch
    (stopped : Stopped (Record.Follows session) left right) :
    Stopped (Record.Follows session)
      (left.reportNoMatch (session.memoizing false))
      (right.reportNoMatch (session.memoizing true)) := by
  have alike := stopped.records.alike
  have sameDiagnostics : right.diagnostics = left.diagnostics :=
    alike.diagnostics
  have sameFarthest :
      right.expectations.farthest = left.expectations.farthest :=
    alike.farthest
  have sameExpected :
      right.expectations.expected = left.expectations.expected :=
    Expectations.expected_eq_of_same alike.wanted
  unfold ParseState.reportNoMatch
  rw [sameDiagnostics, sameFarthest, sameExpected]
  split
  · exact stopped.report _ _
  · exact stopped

end Reporting

end Eval

/-- One parse reproduces the result of another one: the same value and the same
diagnostics, for no more expressions. -/
structure Parsed.Reproduces {α : Type} (parsed other : Parsed α) : Prop where
  value : parsed.value = other.value
  diagnostics : parsed.diagnostics = other.diagnostics
  expressions : parsed.expressions ≤ other.expressions

/-- One parse ends as another one does: it reproduces the result, or the same
fault escapes. -/
def Outcome.Reproduces {α : Type} : Outcome α → Outcome α → Prop
  | .parsed result, .parsed otherResult => result.Reproduces otherResult
  | .escaped fault, .escaped otherFault => fault = otherFault
  | _, _ => False

namespace Session

variable {α σ : Type} {session : Session α σ} {left right : ParseState α σ}

/-- Parses that have stopped at the same point close alike. -/
theorem close_reproduces
    (stopped : Eval.Stopped (Record.Follows session) left right)
    (value : Option (Value α)) :
    (close value right).outcome.Reproduces (close value left).outcome :=
  ⟨rfl, stopped.records.alike.diagnostics, stopped.records.expressions⟩

/-- The evaluations of the entry rule stop at the same point. -/
theorem entering_stopped {entry : Rule α σ}
    (valid : session.grammar.error? = none)
    (free : session.grammar.StoreFree)
    (unlimited : session.options.maxExpressions = none)
    (starts : session.grammar.start? = some entry) (depth : Nat) :
    Eval.Paired
      (Eval.evalRule (session.memoizing false)
        (Eval.evalExpr (session.memoizing false) depth) entry 0)
      (Eval.evalRule (session.memoizing true)
        (Eval.evalExpr (session.memoizing true) depth) entry 0)
      (fun _ => Eval.Stopped (Record.Follows session))
      (Eval.Stopped (Record.Follows session))
      (session.memoizing false).opening (session.memoizing true).opening := by
  have isRule := Grammar.entry_of_start? starts
  have unkept : ∀ key,
      (session.memoizing true).opening.memo.lookup key = none := by
    intro key
    rw [opening, (steady_read _ _).memo]
    exact MemoTable.lookup_empty key
  have abreast : Eval.Abreast session true (Record.Follows session) True
      (session.memoizing false).opening (session.memoizing true).opening :=
    { cursor := rfl
      inverted := rfl
      labels := fun _ => rfl
      records := ⟨.refl _, Nat.le_refl _, fun key entry kept => by
        cases (unkept key).symm.trans kept⟩
      ready := opening_ready _
      readyToo := opening_ready _ }
  have paired := Eval.rules_memoized valid free unlimited
    (Eval.evalExpr_memoized valid free unlimited depth) entry 0 True _ _ isRule
    abreast
  have settles := Eval.evalRule_memoizing_settles valid false depth isRule
    abreast.ready
  have settlesToo := Eval.evalRule_memoizing_settles valid true depth isRule
    abreast.readyToo
  apply (paired.and_ends settles settlesToo).imp
  rintro verdict after afterToo ⟨level, settled, settledToo⟩
  refine ⟨level.cursor, ?_, level.records⟩
  rw [SameRule, settled.balanced.activeRules, settledToo.balanced.activeRules]
  rfl

theorem reportOn_reproduces {entry : Rule α σ}
    (valid : session.grammar.error? = none)
    (free : session.grammar.StoreFree)
    (unlimited : session.options.maxExpressions = none)
    (starts : session.grammar.start? = some entry) {depth : Nat}
    {report : ParseReport α}
    (reported : (session.memoizing false).reportOn
      ((session.memoizing false).entering depth entry) = some report) :
    ∃ other, (session.memoizing true).reportOn
        ((session.memoizing true).entering depth entry) = some other ∧
      other.outcome.Reproduces report.outcome := by
  have paired := entering_stopped valid free unlimited starts depth
  cases run : (session.memoizing false).entering depth entry with
  | ok verdict after =>
      obtain ⟨afterToo, runToo, stopped⟩ := paired.result verdict after run
      have enteredToo : (session.memoizing true).entering depth entry =
          .ok verdict afterToo := runToo
      rw [run] at reported
      rw [enteredToo]
      cases verdict with
      | matched value =>
          cases reported
          exact ⟨_, rfl, close_reproduces stopped _⟩
      | unmatched =>
          cases reported
          exact ⟨_, rfl, close_reproduces stopped.reportNoMatch _⟩
      | aborted error =>
          cases reported
          exact ⟨_, rfl, close_reproduces
            ((stopped.note _ _).reportHere error) _⟩
  | error interrupt after =>
      rw [run] at reported
      cases interrupt with
      | exhausted => cases reported
      | fault fault =>
          obtain ⟨afterToo, runToo, stopped⟩ := paired.fault fault after run
          have enteredToo : (session.memoizing true).entering depth entry =
              .error (.fault fault) afterToo := runToo
          rw [enteredToo]
          have sameOption : (session.memoizing true).options.recover =
              (session.memoizing false).options.recover := rfl
          simp only [reportOn, sameOption] at reported ⊢
          split at reported
          case isTrue recovers =>
            rw [if_pos recovers]
            cases reported
            exact ⟨_, rfl, close_reproduces
              ((stopped.note _ _).reportHere _) _⟩
          case isFalse escapes =>
            rw [if_neg escapes]
            cases reported
            exact ⟨_, rfl, rfl⟩

/-- Memoization is transparent: if a parse without it ends, the parse with it
ends in the same way, provided that the code of the grammar does not base its
replies on the store and that expressions are not limited. -/
theorem memoizing_reproduces (session : Session α σ)
    (free : session.grammar.StoreFree)
    (unlimited : session.options.maxExpressions = none)
    {report : ParseReport α}
    (gives : (session.memoizing false).Gives report) :
    ∃ other, (session.memoizing true).Gives other ∧
      other.outcome.Reproduces report.outcome := by
  cases verdict : session.grammar.error? with
  | some error =>
      have rejects (flag : Bool) : ∃ log : LogEntry,
          (session.memoizing flag).Gives
            ((session.memoizing flag).reject log error) :=
        gives_of_invalid verdict
      obtain ⟨log, rejected⟩ := rejects false
      obtain ⟨logToo, rejectedToo⟩ := rejects true
      obtain rfl := gives.unique rejected
      exact ⟨_, rejectedToo, rfl, rfl, Nat.le_refl _⟩
  | none =>
      obtain ⟨entry, starts⟩ := Grammar.start?_of_valid verdict
      have iffReported (flag : Bool) {report : ParseReport α} :
          (session.memoizing flag).Gives report ↔
            ∃ depth, (session.memoizing flag).reportOn
              ((session.memoizing flag).entering depth entry) =
                some report := by
        have startsToo :
            (session.memoizing flag).grammar.start? = some entry :=
          starts
        exact gives_iff startsToo verdict
      obtain ⟨depth, reported⟩ := (iffReported false).mp gives
      obtain ⟨other, reportedToo, reproduces⟩ :=
        reportOn_reproduces verdict free unlimited starts reported
      exact ⟨other, (iffReported true).mpr ⟨depth, reportedToo⟩, reproduces⟩

end Session

namespace Grammar

/-- Leave a mark in the store, and give the matched text. -/
def mark : Action Unit := fun context =>
  (.answer (.text context.text), context.store.set "marked" (some (.bool true)))

/-- A grammar that tries a rule again from the same place. -/
def retrying : Grammar Unit :=
  ⟨[⟨"Greeting", "",
      .choice
        [.sequence [.reference "Word", .exactly "!"],
          .sequence [.reference "Word", .exactly "?"]]⟩,
    ⟨"Word", "", .action (.exactly "hi") mark⟩]⟩

/-- A parse in which the second alternative finds the word again. -/
def retryingSession : Session Unit := .ofSettings retrying "" "hi?".toUTF8 []

theorem storeFree_retrying : retrying.StoreFree := by
  simp [StoreFree, retrying, Expr.StoreFree, Expr.AllStoreFree, Code.StoreFree,
    mark, Expr.exactly]

/-- The word is evaluated once or twice, with the same result. -/
theorem retrying_reproduces :
    retrying.StoreFree ∧ retryingSession.options.maxExpressions = none ∧
      ∃ report, (retryingSession.memoizing false).Gives report ∧
        ∃ other, (retryingSession.memoizing true).Gives other ∧
          other.outcome.Reproduces report.outcome :=
  ⟨storeFree_retrying, rfl, _, ⟨8, rfl⟩,
    Session.memoizing_reproduces retryingSession storeFree_retrying rfl
      ⟨8, rfl⟩⟩

end Grammar

end PegEngine
