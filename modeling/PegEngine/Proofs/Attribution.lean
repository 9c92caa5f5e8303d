import PegEngine.Proofs.Invariants
import PegEngine.Proofs.Pairing

/-!
# What reports do not matter to

Which rules surround an evaluation matters to the places that diagnostics name,
and the diagnostics matter to nothing but further ones.  Two parses that differ
in nothing else (`ParseState.Twin`) come to the same verdicts and differ in
nothing else afterwards (`Eval.evalExpr_oblivious`).  So an expression that is
evaluated before there is a rule does what it would do within its own.
-/

namespace PegEngine

open ParseState

namespace ParseState

variable {α σ : Type}

/-- Two states differ in nothing but the rules around the inner ones and the
diagnostics. -/
structure Twin (inner outer : List (Rule α σ)) (left right : ParseState α σ) :
    Prop where
  rules : left.activeRules = inner
  same : ∃ diagnostics, right =
    { left with activeRules := inner ++ outer, diagnostics := diagnostics }

/-- A change that does not depend on rules and diagnostics, and of these changes
the diagnostics only. -/
def Unattributed (change : ParseState α σ → ParseState α σ) : Prop :=
  ∀ (state : ParseState α σ) (rules : List (Rule α σ))
    (diagnostics : Diagnostics),
    (change state).activeRules = state.activeRules ∧
      ∃ later,
        change { state with activeRules := rules, diagnostics := diagnostics } =
          { change state with activeRules := rules, diagnostics := later }

variable {inner outer : List (Rule α σ)} {left right : ParseState α σ}

theorem Unattributed.twin {change : ParseState α σ → ParseState α σ}
    (unattributed : Unattributed change) (twin : Twin inner outer left right) :
    Twin inner outer (change left) (change right) := by
  obtain ⟨isInner, diagnostics, rfl⟩ := twin
  obtain ⟨kept, same⟩ := unattributed left (inner ++ outer) diagnostics
  exact ⟨kept.trans isInner, same⟩

theorem Twin.enterRule (twin : Twin inner outer left right) (rule : Rule α σ) :
    Twin (rule :: inner) outer (left.enterRule rule)
      (right.enterRule rule) := by
  obtain ⟨rfl, diagnostics, rfl⟩ := twin
  exact ⟨rfl, diagnostics, rfl⟩

theorem Twin.leaveRule {rule : Rule α σ}
    (twin : Twin (rule :: inner) outer left right) :
    Twin inner outer left.leaveRule right.leaveRule := by
  obtain ⟨isInner, diagnostics, rfl⟩ := twin
  exact ⟨congrArg List.tail isInner, diagnostics, rfl⟩

section Changes

variable (session : Session α σ)

theorem unattributed_read : Unattributed (ParseState.read session) := by
  intro state rules diagnostics
  refine ⟨by rw [read_eq], ?_⟩
  rw [read_eq, read_eq]
  exact ⟨_, rfl⟩

theorem unattributed_restore (cursor : Cursor) :
    Unattributed (ParseState.restore session cursor) := by
  intro state rules diagnostics
  unfold restore trace
  split
  · exact ⟨rfl, _, rfl⟩
  · split <;> exact ⟨rfl, _, rfl⟩

theorem unattributed_enterNode (subject : Subject) :
    Unattributed (ParseState.enterNode session subject) := by
  intro state rules diagnostics
  unfold enterNode
  split <;> exact ⟨rfl, _, rfl⟩

theorem unattributed_leaveNode (subject : Subject) :
    Unattributed (ParseState.leaveNode session subject) := by
  intro state rules diagnostics
  unfold leaveNode
  split <;> exact ⟨rfl, _, rfl⟩

theorem unattributed_traceMatch (start : Cursor) :
    Unattributed (ParseState.traceMatch session start) := by
  intro state rules diagnostics
  unfold traceMatch
  split <;> exact ⟨rfl, _, rfl⟩

theorem unattributed_bind (label : String) (value : Value α) :
    Unattributed (σ := σ) (ParseState.bind label value) := by
  intro state rules diagnostics
  unfold ParseState.bind
  split <;> exact ⟨rfl, _, rfl⟩

theorem unattributed_rememberVerdict (key : MemoKey) (verdict : Verdict α) :
    Unattributed (σ := σ) (ParseState.rememberVerdict key verdict) := by
  intro state rules diagnostics
  cases verdict <;> exact ⟨rfl, _, rfl⟩

theorem unattributed_report (error : ParseError)
    (place : ParseState α σ → Position) :
    Unattributed fun state => state.report session error (place state) :=
  fun _ _ _ => ⟨rfl, _, rfl⟩

theorem Twin.consume (twin : Twin inner outer left right) (ignoresCase : Bool)
    (chars : List Char) :
    (right.consume session ignoresCase chars).1 =
        (left.consume session ignoresCase chars).1 ∧
      Twin inner outer (left.consume session ignoresCase chars).2
        (right.consume session ignoresCase chars).2 := by
  induction chars generalizing left right with
  | nil => exact ⟨rfl, twin⟩
  | cons char chars ih =>
      have later := ih ((unattributed_read session).twin twin)
      obtain ⟨-, diagnostics, rfl⟩ := id twin
      rw [ParseState.consume, ParseState.consume]
      dsimp only
      split
      · exact later
      · exact ⟨rfl, twin⟩

theorem unattributed_attempt (failed : Bool) (start : Cursor)
    (descriptor : String) :
    Unattributed (α := α) (σ := σ)
      (ParseState.attempt failed start descriptor) :=
  fun _ _ _ => ⟨rfl, _, rfl⟩

theorem Twin.succeed (twin : Twin inner outer left right) (start : Cursor)
    (descriptor : String) :
    (right.succeed session start descriptor).1 =
        (left.succeed session start descriptor).1 ∧
      Twin inner outer (left.succeed session start descriptor).2
        (right.succeed session start descriptor).2 := by
  obtain ⟨-, diagnostics, rfl⟩ := id twin
  exact ⟨rfl, (unattributed_attempt false start descriptor).twin twin⟩

theorem Twin.fail (twin : Twin inner outer left right) (descriptor : String) :
    (right.fail descriptor).1 = (left.fail descriptor).1 ∧
      Twin inner outer (left.fail descriptor).2 (right.fail descriptor).2 := by
  obtain ⟨-, diagnostics, rfl⟩ := id twin
  exact ⟨rfl, (unattributed_attempt true left.cursor descriptor).twin twin⟩

theorem Twin.matchLiteral (twin : Twin inner outer left right) (text : String)
    (ignoresCase : Bool) :
    (right.matchLiteral session text ignoresCase).1 =
        (left.matchLiteral session text ignoresCase).1 ∧
      Twin inner outer (left.matchLiteral session text ignoresCase).2
        (right.matchLiteral session text ignoresCase).2 := by
  have consumed := twin.consume session ignoresCase text.toList
  have atStart : right.cursor = left.cursor := by
    obtain ⟨-, diagnostics, rfl⟩ := twin
    rfl
  unfold ParseState.matchLiteral
  rw [atStart]
  generalize left.consume session ignoresCase text.toList = first at consumed
  generalize right.consume session ignoresCase text.toList = second at consumed
  obtain ⟨agreed, first⟩ := first
  obtain ⟨agreedToo, second⟩ := second
  obtain ⟨rfl, reached⟩ :
      agreed = agreedToo ∧ Twin inner outer first second :=
    ⟨consumed.1.symm, consumed.2⟩
  cases agreed with
  | true => exact reached.succeed session left.cursor _
  | false =>
      have attempted := (unattributed_attempt true left.cursor
        (Expr.literalDescriptor text ignoresCase)).twin reached
      exact ⟨rfl, (unattributed_restore session left.cursor).twin attempted⟩

theorem Twin.matchChar (twin : Twin inner outer left right)
    (accepts : Char → Bool) (descriptor : String) :
    (right.matchChar session accepts descriptor).1 =
        (left.matchChar session accepts descriptor).1 ∧
      Twin inner outer (left.matchChar session accepts descriptor).2
        (right.matchChar session accepts descriptor).2 := by
  have atStart : right.cursor = left.cursor := by
    obtain ⟨-, diagnostics, rfl⟩ := twin
    rfl
  unfold ParseState.matchChar
  rw [atStart]
  cases left.cursor.current with
  | none => exact twin.fail descriptor
  | some char =>
      dsimp only
      split
      · exact ((unattributed_read session).twin twin).succeed session
          left.cursor descriptor
      · exact twin.fail descriptor

end Changes

end ParseState

namespace Eval

variable {α σ β γ : Type}

/-- A program does not depend on the rules around and on the diagnostics. -/
def Oblivious (outer : List (Rule α σ)) (program : Eval α σ β) : Prop :=
  ∀ inner left right, Twin inner outer left right →
    Paired program program (fun _ => Twin inner outer) (fun _ _ => True) left
      right

section Programs

variable {outer : List (Rule α σ)} {program : Eval α σ β}
  {session : Session α σ}

theorem oblivious_pure (result : β) :
    Oblivious outer (pure result : Eval α σ β) :=
  fun _ _ _ twin => paired_pure twin

theorem Oblivious.bind {next : β → Eval α σ γ}
    (oblivious : Oblivious outer program)
    (later : ∀ result, Oblivious outer (next result)) :
    Oblivious outer (program >>= next) :=
  fun inner left right twin =>
    paired_bind ((oblivious inner left right twin).imp
      fun result _ _ related => later result inner _ _ related)

theorem oblivious_cursor : Oblivious outer (cursor : Eval α σ Cursor) := by
  intro inner left right twin
  obtain ⟨-, diagnostics, rfl⟩ := id twin
  exact paired_cursor rfl twin

theorem oblivious_modify {change : ParseState α σ → ParseState α σ}
    (unattributed : Unattributed change) :
    Oblivious outer (modify change : Eval α σ PUnit) :=
  fun _ _ _ twin => paired_modify (unattributed.twin twin)

/-- Programs that run between two changes of the state. -/
theorem oblivious_between {enter leave : ParseState α σ → ParseState α σ}
    (oblivious : Oblivious outer program) (enters : Unattributed enter)
    (leaves : Unattributed leave) :
    Oblivious outer
      (do
        modify enter
        let result ← program
        modify leave
        return result) :=
  (oblivious_modify enters).bind fun _ => oblivious.bind fun _ =>
    (oblivious_modify leaves).bind fun _ => oblivious_pure _

theorem oblivious_inScope (oblivious : Oblivious outer program) :
    Oblivious outer (inScope program) :=
  oblivious_between oblivious (fun _ _ _ => ⟨rfl, _, rfl⟩)
    fun _ _ _ => ⟨rfl, _, rfl⟩

theorem oblivious_underNot (oblivious : Oblivious outer program) :
    Oblivious outer (underNot program) :=
  oblivious_between oblivious (fun _ _ _ => ⟨rfl, _, rfl⟩)
    fun _ _ _ => ⟨rfl, _, rfl⟩

theorem oblivious_traced (subject : Subject)
    (oblivious : Oblivious outer program) :
    Oblivious outer (traced session subject program) :=
  oblivious_between oblivious (unattributed_enterNode session subject)
    (unattributed_leaveNode session subject)

/-- The rule that is entered is one more of the inner ones. -/
theorem oblivious_inRule (rule : Rule α σ)
    (oblivious : Oblivious outer program) :
    Oblivious outer (inRule rule program) := by
  intro inner left right twin
  have inside := oblivious (rule :: inner) _ _ (twin.enterRule rule)
  exact paired_inRule rule (inside.imp fun _ _ _ related => related.leaveRule)

theorem oblivious_runCode (code : Code α σ β) (start : Cursor)
    (value : Value α) : Oblivious outer (runCode session code start value) := by
  intro inner left right twin
  have sees : right.context session start value =
      left.context session start value := by
    obtain ⟨-, diagnostics, rfl⟩ := twin
    rfl
  have stores : ∀ store, Twin inner outer { left with store := store }
      { right with store := store } := by
    obtain ⟨isInner, diagnostics, rfl⟩ := twin
    exact fun store => ⟨isInner, diagnostics, rfl⟩
  have run := runCode_eq session code start value left
  have runToo := runCode_eq session code start value right
  rw [sees] at runToo
  generalize code (left.context session start value) = given at run runToo
  obtain ⟨reply, store⟩ := given
  cases reply with
  | answer result =>
      exact (oblivious_pure _ inner _ _ (stores store)).of_runs run runToo
  | complaint message =>
      exact (oblivious_pure _ inner _ _ (stores store)).of_runs run runToo
  | failure fault => exact (paired_throw fault trivial).of_runs run runToo

end Programs

section Verdicts

variable {outer : List (Rule α σ)} {session : Session α σ}
  {program : Eval α σ (Verdict α)}

theorem oblivious_lookahead (oblivious : Oblivious outer program) :
    Oblivious outer (lookahead session program) :=
  oblivious_cursor.bind fun start => (oblivious_inScope oblivious).bind
    fun _ => (oblivious_modify (unattributed_restore session start)).bind
      fun _ => oblivious_pure _

theorem oblivious_counted (expr : Expr α σ)
    (oblivious : Oblivious outer program) :
    Oblivious outer (counted session expr program) := by
  intro inner left right twin
  have counts :
      Unattributed (α := α) (σ := σ) ParseState.countExpression :=
    fun _ _ _ => ⟨rfl, _, rfl⟩
  have counted := counts.twin twin
  have sameCount : right.countExpression.overLimit session =
      left.countExpression.overLimit session := by
    obtain ⟨-, diagnostics, rfl⟩ := twin
    rfl
  have run := counted_run session expr program left
  have runToo := counted_run session expr program right
  rw [sameCount] at runToo
  split at run
  case isTrue passed =>
    rw [if_pos passed] at runToo
    exact (oblivious_pure _ inner _ _ counted).of_runs run runToo
  case isFalse within =>
    rw [if_neg within] at runToo
    exact (oblivious_traced _ oblivious inner _ _ counted).of_runs run runToo

theorem oblivious_memoized (enabled : Bool) (node : NodeKey)
    (oblivious : Oblivious outer program) :
    Oblivious outer (memoized session enabled node program) := by
  intro inner left right twin
  have sameEntry : right.memo.lookup (right.memoKey node) =
      left.memo.lookup (left.memoKey node) := by
    obtain ⟨-, diagnostics, rfl⟩ := twin
    rfl
  have sameKey : right.memoKey node = left.memoKey node := by
    obtain ⟨-, diagnostics, rfl⟩ := twin
    rfl
  cases enabled with
  | false => exact oblivious inner left right twin
  | true =>
      cases found : left.memo.lookup (left.memoKey node) with
      | some entry =>
          have restored :=
            (unattributed_restore session entry.finish).twin twin
          exact (oblivious_pure _ inner _ _ restored).of_runs
            (memoized_of_kept found)
            (memoized_of_kept (sameEntry.trans found))
      | none =>
          have remembers : Oblivious outer (do
              let verdict ← program
              modify (ParseState.rememberVerdict (left.memoKey node) verdict)
              return verdict) :=
            oblivious.bind fun verdict =>
              (oblivious_modify (unattributed_rememberVerdict _ verdict)).bind
                fun _ => oblivious_pure _
          refine (remembers inner left right twin).of_runs
            (memoized_of_not_kept found) ?_
          rw [memoized_of_not_kept (sameEntry.trans found), sameKey]

theorem oblivious_visit (place : ExprPlace) (expr : Expr α σ)
    (oblivious : Oblivious outer program) :
    Oblivious outer (visit session place expr program) :=
  oblivious_memoized _ _ (oblivious_counted expr oblivious)

theorem oblivious_runRule (rule : Rule α σ)
    (oblivious : Oblivious outer program) :
    Oblivious outer (runRule session rule program) := by
  refine oblivious_cursor.bind fun start =>
    (oblivious_traced _ (oblivious_inRule rule oblivious)).bind
      fun verdict => ?_
  cases verdict with
  | matched value =>
      exact (oblivious_modify (unattributed_traceMatch session start)).bind
        fun _ => oblivious_pure _
  | unmatched => exact oblivious_pure _
  | aborted error => exact oblivious_pure _

theorem oblivious_evalAction (run : Action α σ)
    (oblivious : Oblivious outer program) :
    Oblivious outer (evalAction session run program) := by
  refine oblivious_cursor.bind fun start => oblivious.bind fun verdict => ?_
  cases verdict with
  | matched value =>
      refine (oblivious_runCode run start value).bind fun reply =>
        (oblivious_modify (unattributed_traceMatch session start)).bind
          fun _ => ?_
      cases reply with
      | ok result => exact oblivious_pure _
      | error message =>
          exact (oblivious_modify (unattributed_report session _ _)).bind
            fun _ => oblivious_pure _
  | unmatched => exact oblivious_pure _
  | aborted error => exact oblivious_pure _

theorem oblivious_evalPredicate (test : Predicate α σ) (expected : Bool) :
    Oblivious outer (evalPredicate session test expected) := by
  refine oblivious_cursor.bind fun start =>
    (oblivious_runCode test start .nil).bind fun reply => ?_
  cases reply with
  | ok holds =>
      dsimp only
      split <;> exact oblivious_pure _
  | error message =>
      exact (oblivious_modify (unattributed_report session _ _)).bind
        fun _ => oblivious_pure _

end Verdicts

section Members

variable {outer : List (Rule α σ)} {session : Session α σ}
  {evaluate : ExprPlace → Expr α σ → Eval α σ (Verdict α)}
  (members : ∀ place expr, Oblivious outer (evaluate place expr))
include members

theorem evalSequence_oblivious (place : ExprPlace) (start : Cursor)
    (index : Nat) (values : List (Value α)) (exprs : List (Expr α σ)) :
    Oblivious outer
      (evalSequence session evaluate place start index values exprs) := by
  induction exprs generalizing index values with
  | nil => exact oblivious_pure _
  | cons expr exprs ih =>
      refine (members _ _).bind fun verdict => ?_
      cases verdict with
      | matched value => exact ih _ _
      | unmatched =>
          exact (oblivious_modify (unattributed_restore session start)).bind
            fun _ => oblivious_pure _
      | aborted error => exact oblivious_pure _

theorem evalChoice_oblivious (place : ExprPlace) (index : Nat)
    (exprs : List (Expr α σ)) :
    Oblivious outer (evalChoice evaluate place index exprs) := by
  induction exprs generalizing index with
  | nil => exact oblivious_pure _
  | cons expr exprs ih =>
      refine (oblivious_inScope (members _ _)).bind fun verdict => ?_
      cases verdict with
      | matched value => exact oblivious_pure _
      | unmatched => exact ih _
      | aborted error => exact oblivious_pure _

omit members in
theorem evalRounds_oblivious {body : Eval α σ (Verdict α)}
    (oblivious : Oblivious outer body) (rounds : Nat)
    (values : List (Value α)) :
    Oblivious outer (evalRounds body rounds values) := by
  induction rounds generalizing values with
  | zero => exact fun _ _ _ _ => .of_exhausted rfl
  | succ rounds ih =>
      refine oblivious_cursor.bind fun start =>
        (oblivious_inScope oblivious).bind fun verdict => ?_
      cases verdict with
      | matched value =>
          refine oblivious_cursor.bind fun finish => ?_
          split
          · exact oblivious_pure _
          · exact ih _
      | unmatched => exact oblivious_pure _
      | aborted error => exact oblivious_pure _

omit members in
theorem evalRepetition_oblivious {body : Eval α σ (Verdict α)}
    (oblivious : Oblivious outer body) (required : Nat) :
    Oblivious outer (evalRepetition session required body) := by
  refine oblivious_cursor.bind fun start =>
    (evalRounds_oblivious oblivious _ _).bind fun result => ?_
  cases result with
  | ok values =>
      dsimp only
      split <;> exact oblivious_pure _
  | error error => exact oblivious_pure _

theorem evalRule_oblivious (rule : Rule α σ) (index : Nat) :
    Oblivious outer (evalRule session evaluate rule index) :=
  oblivious_memoized _ _ (oblivious_runRule rule (members _ _))

theorem evalReference_oblivious (name : String) :
    Oblivious outer (evalReference session evaluate name) := by
  unfold evalReference
  split
  · exact oblivious_pure _
  · split
    · exact evalRule_oblivious members _ _
    · exact oblivious_pure _

/-- An expression is oblivious if its members are. -/
theorem evalNode_oblivious (place : ExprPlace) (expr : Expr α σ) :
    Oblivious outer (evalNode session evaluate place expr) := by
  cases expr with
  | literal text ignoresCase =>
      intro inner left right twin
      obtain ⟨same, related⟩ := twin.matchLiteral session text ignoresCase
      exact paired_modifyGet same related
  | oneOf charClass =>
      intro inner left right twin
      obtain ⟨same, related⟩ := twin.matchChar session charClass.accepts
        charClass.descriptor
      exact paired_modifyGet same related
  | any =>
      intro inner left right twin
      obtain ⟨same, related⟩ := twin.matchChar session (fun _ => true)
        Expectations.anyDescriptor
      exact paired_modifyGet same related
  | sequence exprs =>
      exact oblivious_cursor.bind fun _ =>
        evalSequence_oblivious members _ _ _ _ _
  | choice exprs => exact evalChoice_oblivious members _ _ _
  | zeroOrMore body | oneOrMore body =>
      exact evalRepetition_oblivious (members _ _) _
  | optional body =>
      refine (oblivious_inScope (members _ _)).bind fun verdict => ?_
      cases verdict <;> exact oblivious_pure _
  | followedBy body =>
      refine (oblivious_lookahead (members _ _)).bind fun verdict => ?_
      cases verdict <;> exact oblivious_pure _
  | notFollowedBy body =>
      refine (oblivious_lookahead (oblivious_underNot (members _ _))).bind
        fun verdict => ?_
      cases verdict <;> exact oblivious_pure _
  | labeled label body =>
      refine (oblivious_inScope (members _ _)).bind fun verdict => ?_
      cases verdict with
      | matched value =>
          exact (oblivious_modify (unattributed_bind label value)).bind
            fun _ => oblivious_pure _
      | unmatched => exact oblivious_pure _
      | aborted error => exact oblivious_pure _
  | reference name => exact evalReference_oblivious members name
  | action body run => exact oblivious_evalAction run (members _ _)
  | require test | forbid test => exact oblivious_evalPredicate _ _

end Members

/-- Evaluation does not depend on the rules around and on the diagnostics. -/
theorem evalExpr_oblivious (outer : List (Rule α σ)) (session : Session α σ)
    (depth : Nat) (place : ExprPlace) (expr : Expr α σ) :
    Oblivious outer (evalExpr session depth place expr) := by
  induction depth generalizing place expr with
  | zero => exact fun _ _ _ _ => .of_exhausted rfl
  | succ depth ih =>
      exact oblivious_visit place expr (evalNode_oblivious ih place expr)

end Eval

end PegEngine
