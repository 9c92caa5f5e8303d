import PegEngine.Proofs.Likeness
import PegEngine.Proofs.Transcripts

/-!
# Parses that go the same way

A program keeps up with another one if from states that look alike it comes to
the same result or fault, in states that look alike again, and calls the same
code with the same to see (`Transcript.KeepsUp`).  There is one lemma for each
function of the evaluator.  Put together they say that expressions of one kind
keep up with each other if their members do (`Transcript.keepsUp_node`).

Nothing is said of a program that runs out of depth, so a parse that takes more
depth than another one can still keep up with it.
-/

namespace PegEngine

open ParseState

/-- Two expressions do the same with their members. -/
inductive Expr.SameKind {α σ : Type} : Expr α σ → Expr α σ → Prop where
  | literal (text : String) (ignoresCase : Bool) :
    SameKind (.literal text ignoresCase) (.literal text ignoresCase)
  | oneOf (charClass : CharClass) :
    SameKind (.oneOf charClass) (.oneOf charClass)
  | any : SameKind .any .any
  | sequence (exprs exprsToo : List (Expr α σ)) :
    SameKind (.sequence exprs) (.sequence exprsToo)
  | choice (exprs exprsToo : List (Expr α σ)) :
    SameKind (.choice exprs) (.choice exprsToo)
  | zeroOrMore (body bodyToo : Expr α σ) :
    SameKind (.zeroOrMore body) (.zeroOrMore bodyToo)
  | oneOrMore (body bodyToo : Expr α σ) :
    SameKind (.oneOrMore body) (.oneOrMore bodyToo)
  | optional (body bodyToo : Expr α σ) :
    SameKind (.optional body) (.optional bodyToo)
  | followedBy (body bodyToo : Expr α σ) :
    SameKind (.followedBy body) (.followedBy bodyToo)
  | notFollowedBy (body bodyToo : Expr α σ) :
    SameKind (.notFollowedBy body) (.notFollowedBy bodyToo)
  | labeled (label : String) (body bodyToo : Expr α σ) :
    SameKind (.labeled label body) (.labeled label bodyToo)
  | reference (name : String) : SameKind (.reference name) (.reference name)
  | action (body bodyToo : Expr α σ) (run : Action α σ) :
    SameKind (.action body run) (.action bodyToo run)
  | require (test : Predicate α σ) : SameKind (.require test) (.require test)
  | forbid (test : Predicate α σ) : SameKind (.forbid test) (.forbid test)

theorem Expr.SameKind.refl {α σ : Type} (expr : Expr α σ) :
    expr.SameKind expr := by
  cases expr <;> constructor

namespace Transcript

variable {α σ β γ : Type} {session other : Session α σ}

/-- The second program comes to what the first one comes to, and calls the same
code on the way, unless the first one runs out of depth. -/
structure Echoes {program programToo : Eval α σ β}
    (first : Transcript session program)
    (second : Transcript other programToo)
    (onResult : β → ParseState α σ → ParseState α σ → Prop)
    (onFault : ParseState α σ → ParseState α σ → Prop)
    (left right : ParseState α σ) : Prop where
  paired : Eval.Paired program programToo onResult onFault left right
  calls : (∀ after, program left ≠ .error .exhausted after) →
    (second.calls right).map CodeCall.exchange =
      (first.calls left).map CodeCall.exchange

/-- From states that look alike, a program does the same as another one. -/
def KeepsUp (closely : Bool) {program programToo : Eval α σ β}
    (first : Transcript session program)
    (second : Transcript other programToo) : Prop :=
  ∀ below belowToo left right, Akin closely below belowToo left right →
    first.Echoes second (fun _ => Akin closely below belowToo)
      (Similar closely) left right

section Rules

variable {closely : Bool} {program programToo : Eval α σ β}
  {first : Transcript session program} {second : Transcript other programToo}
  {onResult : β → ParseState α σ → ParseState α σ → Prop}
  {onFault : ParseState α σ → ParseState α σ → Prop}
  {left right : ParseState α σ}

theorem Echoes.imp {weaker : β → ParseState α σ → ParseState α σ → Prop}
    (echoes : first.Echoes second onResult onFault left right)
    (result : ∀ value after afterToo, onResult value after afterToo →
      weaker value after afterToo) :
    first.Echoes second weaker onFault left right :=
  ⟨echoes.paired.imp result, echoes.calls⟩

theorem Echoes.bind {next nextToo : β → Eval α σ γ}
    {later : ∀ result, Transcript session (next result)}
    {laterToo : ∀ result, Transcript other (nextToo result)}
    {onResult : γ → ParseState α σ → ParseState α σ → Prop}
    (echoes : first.Echoes second
      (fun result after afterToo =>
        (later result).Echoes (laterToo result) onResult onFault after afterToo)
      onFault left right) :
    (first.bind later).Echoes (second.bind laterToo) onResult onFault left
      right where
  paired := Eval.paired_bind (echoes.paired.imp fun _ _ _ later => later.paired)
  calls halts := by
    have notExhausted : ∀ after, program left ≠ .error .exhausted after := by
      intro after exhausted
      apply halts after
      simp only [Bind.bind, EStateM.bind, exhausted]
    simp only [Transcript.bind, List.map_append,
      echoes.calls notExhausted]
    cases run : program left with
    | ok result after =>
        obtain ⟨afterToo, runToo, laterEchoes⟩ :=
          echoes.paired.result result after run
        have haltsLater : ∀ last,
            next result after ≠ .error .exhausted last := by
          intro last exhausted
          apply halts last
          simp only [Bind.bind, EStateM.bind, run, exhausted]
        rw [runToo]
        exact congrArg _ (laterEchoes.calls haltsLater)
    | error interrupt after =>
        cases interrupt with
        | fault fault =>
            obtain ⟨afterToo, runToo, -⟩ := echoes.paired.fault fault after run
            rw [runToo]
        | exhausted => exact absurd run (notExhausted after)

theorem echoes_pure {result : β} (related : onResult result left right) :
    (Transcript.pure result : Transcript session _).Echoes
      (Transcript.pure result : Transcript other _) onResult onFault left
      right :=
  ⟨Eval.paired_pure related, fun _ => rfl⟩

/-- What goes on with the states themselves. -/
theorem echoes_get {next nextToo : ParseState α σ → Eval α σ γ}
    {later : ∀ state, Transcript session (next state)}
    {laterToo : ∀ state, Transcript other (nextToo state)}
    {onResult : γ → ParseState α σ → ParseState α σ → Prop}
    (echoes : (later left).Echoes (laterToo right) onResult onFault left
      right) :
    (Transcript.get.bind later).Echoes (Transcript.get.bind laterToo) onResult
      onFault left right :=
  ⟨echoes.paired.of_runs rfl rfl, echoes.calls⟩

theorem Echoes.ite {test testToo : Prop} [Decidable test] [Decidable testToo]
    {program programToo otherwise otherwiseToo : Eval α σ β}
    {first : Transcript session program} {second : Transcript other programToo}
    {third : Transcript session otherwise}
    {fourth : Transcript other otherwiseToo} (same : testToo ↔ test)
    (holds : test → first.Echoes second onResult onFault left right)
    (fails : ¬ test → third.Echoes fourth onResult onFault left right) :
    (first.ite third :
        Transcript session (if test then program else otherwise)).Echoes
      (second.ite fourth :
        Transcript other (if testToo then programToo else otherwiseToo))
      onResult onFault left right := by
  by_cases isTrue : test
  · have isTrueToo := same.mpr isTrue
    have echoes := holds isTrue
    exact ⟨echoes.paired.of_runs (by rw [if_pos isTrue])
        (by rw [if_pos isTrueToo]),
      by simpa only [Transcript.ite, if_pos isTrue, if_pos isTrueToo]
        using echoes.calls⟩
  · have isFalseToo := mt same.mp isTrue
    have echoes := fails isTrue
    exact ⟨echoes.paired.of_runs (by rw [if_neg isTrue])
        (by rw [if_neg isFalseToo]),
      by simpa only [Transcript.ite, if_neg isTrue, if_neg isFalseToo]
        using echoes.calls⟩

theorem KeepsUp.bind {next nextToo : β → Eval α σ γ}
    {later : ∀ result, Transcript session (next result)}
    {laterToo : ∀ result, Transcript other (nextToo result)}
    (keepsUp : KeepsUp closely first second)
    (rest : ∀ result, KeepsUp closely (later result) (laterToo result)) :
    KeepsUp closely (first.bind later) (second.bind laterToo) :=
  fun below belowToo left right akin =>
    ((keepsUp below belowToo left right akin).imp
      fun result after afterToo akinLater =>
        rest result below belowToo after afterToo akinLater).bind

theorem keepsUp_pure (result : β) :
    KeepsUp closely (Transcript.pure result : Transcript session _)
      (Transcript.pure result : Transcript other _) :=
  fun _ _ _ _ akin => echoes_pure akin

/-- Of a program that runs out of depth nothing is required. -/
theorem keepsUp_of_exhausted
    (exhausts : ∀ state, ∃ after, program state = .error .exhausted after) :
    KeepsUp closely first second := by
  intro below belowToo left right akin
  obtain ⟨after, exhausted⟩ := exhausts left
  exact ⟨.of_exhausted exhausted, fun halts => absurd exhausted (halts after)⟩

theorem keepsUp_cursor :
    KeepsUp closely (Transcript.cursor : Transcript session _)
      (Transcript.cursor : Transcript other _) :=
  fun _ _ _ _ akin => ⟨Eval.paired_cursor akin.cursor akin, fun _ => rfl⟩

theorem echoes_change {update updateToo : ParseState α σ → ParseState α σ}
    {unchanged : ∀ state, (update state).store = state.store}
    {unchangedToo : ∀ state, (updateToo state).store = state.store}
    {onResult : PUnit → ParseState α σ → ParseState α σ → Prop}
    (related : onResult .unit (update left) (updateToo right)) :
    (change unchanged : Transcript session _).Echoes
      (change unchangedToo : Transcript other _) onResult onFault left right :=
  ⟨Eval.paired_modify related, fun _ => rfl⟩

theorem keepsUp_change {update updateToo : ParseState α σ → ParseState α σ}
    {unchanged : ∀ state, (update state).store = state.store}
    {unchangedToo : ∀ state, (updateToo state).store = state.store}
    (related : ∀ below belowToo left right,
      Akin closely below belowToo left right →
        Akin closely below belowToo (update left) (updateToo right)) :
    KeepsUp closely (change unchanged : Transcript session _)
      (change unchangedToo : Transcript other _) :=
  fun below belowToo left right akin =>
    echoes_change (related below belowToo left right akin)

theorem keepsUp_restore (cursor : Cursor) :
    KeepsUp closely (restore cursor : Transcript session _)
      (restore cursor : Transcript other _) :=
  keepsUp_change fun _ _ left right akin =>
    akin.of_similar (akin.toSimilar.restore cursor)
      (steady_restore session cursor left).scopes
      (steady_restore other cursor right).scopes

theorem keepsUp_traceMatch (start : Cursor) :
    KeepsUp closely (traceMatch start : Transcript session _)
      (traceMatch start : Transcript other _) :=
  keepsUp_change fun _ _ left right akin =>
    akin.of_similar (akin.toSimilar.traceMatch start)
      (steady_traceMatch session start left).scopes
      (steady_traceMatch other start right).scopes

end Rules

section Surroundings

variable {closely : Bool} {program programToo : Eval α σ β}
  {first : Transcript session program} {second : Transcript other programToo}

/-- Programs that run between two changes of the state. -/
theorem echoes_between
    {enter leave enterToo leaveToo : ParseState α σ → ParseState α σ}
    {enters : ∀ state, (enter state).store = state.store}
    {leaves : ∀ state, (leave state).store = state.store}
    {entersToo : ∀ state, (enterToo state).store = state.store}
    {leavesToo : ∀ state, (leaveToo state).store = state.store}
    {onResult : β → ParseState α σ → ParseState α σ → Prop}
    {onFault : ParseState α σ → ParseState α σ → Prop}
    {left right : ParseState α σ} (echoes : first.Echoes second
      (fun value after afterToo => onResult value (leave after)
        (leaveToo afterToo))
      onFault (enter left) (enterToo right)) :
    (between enter leave enters leaves first).Echoes
      (between enterToo leaveToo entersToo leavesToo second) onResult onFault
      left right := by
  apply Echoes.bind
  apply echoes_change
  apply Echoes.bind
  apply echoes.imp
  intro value after afterToo related
  apply Echoes.bind
  apply echoes_change
  exact echoes_pure related

theorem KeepsUp.inScope (keepsUp : KeepsUp closely first second) :
    KeepsUp closely first.inScope second.inScope :=
  fun _ _ _ _ akin => echoes_between
    ((keepsUp _ _ _ _ akin.pushScope).imp fun _ _ _ => Akin.popScope)

theorem KeepsUp.underNot (keepsUp : KeepsUp closely first second) :
    KeepsUp closely first.underNot second.underNot := by
  have toggles : ∀ {below belowToo : List (Frame α)}
      {left right : ParseState α σ}, Akin closely below belowToo left right →
        Akin closely below belowToo left.toggle right.toggle :=
    fun akin => akin.of_similar akin.toSimilar.toggle rfl rfl
  exact fun _ _ _ _ akin => echoes_between
    ((keepsUp _ _ _ _ (toggles akin)).imp fun _ _ _ => toggles)

/-- It does not matter under which subjects two programs are traced. -/
theorem KeepsUp.traced (keepsUp : KeepsUp closely first second)
    (subject subjectToo : Subject) :
    KeepsUp closely (first.traced subject) (second.traced subjectToo) := by
  intro below belowToo left right akin
  have entered : Akin closely below belowToo (left.enterNode session subject)
      (right.enterNode other subjectToo) :=
    akin.of_similar (akin.toSimilar.enterNode subject subjectToo)
      (scopes_enterNode subject) (scopes_enterNode subjectToo)
  apply echoes_between
  apply (keepsUp _ _ _ _ entered).imp
  intro value after afterToo akinAfter
  exact akinAfter.of_similar (akinAfter.toSimilar.leaveNode subject subjectToo)
    (scopes_leaveNode subject) (scopes_leaveNode subjectToo)

theorem KeepsUp.inRule (keepsUp : KeepsUp closely first second)
    {rule ruleToo : Rule α σ}
    (sameName : ruleToo.diagnosticName = rule.diagnosticName) :
    KeepsUp closely (first.inRule rule) (second.inRule ruleToo) :=
  fun _ _ _ _ akin => echoes_between
    ((keepsUp _ _ _ _ (akin.enterRule sameName)).imp
      fun _ _ _ => Akin.leaveRule)

end Surroundings

section Verdicts

variable {closely : Bool} {program programToo : Eval α σ (Verdict α)}
  {first : Transcript session program} {second : Transcript other programToo}
  (keepsUp : KeepsUp closely first second)
include keepsUp

theorem KeepsUp.lookahead : KeepsUp closely first.lookahead second.lookahead :=
  keepsUp_cursor.bind fun start => keepsUp.inScope.bind fun _ =>
    (keepsUp_restore start).bind fun _ => keepsUp_pure _

theorem KeepsUp.runRule {rule ruleToo : Rule α σ}
    (sameName : ruleToo.diagnosticName = rule.diagnosticName) :
    KeepsUp closely (first.runRule rule) (second.runRule ruleToo) := by
  refine keepsUp_cursor.bind fun start =>
    ((keepsUp.inRule sameName).traced _ _).bind fun verdict => ?_
  cases verdict with
  | matched value =>
      exact (keepsUp_traceMatch start).bind fun _ => keepsUp_pure _
  | unmatched => exact keepsUp_pure _
  | aborted error => exact keepsUp_pure _

/-- Expressions are counted in both parses, if the limit is passed in both or in
none of them. -/
theorem KeepsUp.counted
    (sameLimit : ∀ left right, Similar closely left right →
      right.overLimit other = left.overLimit session)
    (expr exprToo : Expr α σ) :
    KeepsUp closely (first.counted expr) (second.counted exprToo) := by
  intro below belowToo left right akin
  have akinCounted :=
    akin.of_similar akin.toSimilar.countExpression rfl rfl
  refine Echoes.bind (echoes_change (echoes_get (.ite ?_ ?_ ?_)))
  · rw [sameLimit _ _ akin.toSimilar.countExpression]
  · exact fun _ => echoes_pure akinCounted
  · exact fun _ => keepsUp.traced _ _ _ _ _ _ akinCounted

omit keepsUp in
/-- Without memoization a node is evaluated whenever it is called. -/
theorem KeepsUp.unmemoized {enabled enabledToo : Bool}
    (disabled : enabled = false) (disabledToo : enabledToo = false)
    (keepsUp : KeepsUp closely first second) (node nodeToo : NodeKey) :
    KeepsUp closely (memoized enabled node first)
      (memoized enabledToo nodeToo second) := by
  subst disabled disabledToo
  exact fun below belowToo left right akin =>
    .ite Iff.rfl nofun fun _ => keepsUp below belowToo left right akin

omit keepsUp in
/-- Parses that look alike closely replay and keep the same results. -/
theorem KeepsUp.memoized (keepsUp : KeepsUp true first second)
    {enabled enabledToo : Bool} (sameOption : enabledToo = enabled)
    (node : NodeKey) :
    KeepsUp true (memoized enabled node first)
      (memoized enabledToo node second) := by
  subst sameOption
  intro below belowToo left right akin
  refine .ite Iff.rfl (fun _ => echoes_get (echoes_get ?_))
    fun _ => keepsUp below belowToo left right akin
  rw [akin.kept rfl, akin.toSimilar.memoKey node]
  cases left.memo.lookup (left.memoKey node) with
  | some entry =>
      exact ((keepsUp_restore entry.finish).bind fun _ => keepsUp_pure _)
        below belowToo left right akin
  | none =>
      refine (keepsUp.bind fun verdict => ?_) below belowToo left right akin
      have remembers : ∀ value, KeepsUp true
          (change fun _ => rfl :
            Transcript session (modify (remember (left.memoKey node) value)))
          (change fun _ => rfl :
            Transcript other (modify (remember (left.memoKey node) value))) :=
        fun value => keepsUp_change fun _ _ _ _ akin =>
          akin.of_similar (akin.toSimilar.remember _ value) rfl rfl
      cases verdict with
      | matched value =>
          exact (remembers (some value)).bind fun _ => keepsUp_pure _
      | unmatched => exact (remembers none).bind fun _ => keepsUp_pure _
      | aborted error => exact keepsUp_pure _

end Verdicts

section Code

variable {closely : Bool} (same : session.Akin other)
  {below belowToo : List (Frame α)} {left right : ParseState α σ}

theorem keepsUp_matcher {update updateToo : ParseState α σ → β × ParseState α σ}
    {unchanged : ∀ state, (update state).2.store = state.store}
    {unchangedToo : ∀ state, (updateToo state).2.store = state.store}
    (scopes : ∀ state, (update state).2.scopes = state.scopes)
    (scopesToo : ∀ state, (updateToo state).2.scopes = state.scopes)
    (related : ∀ left right, Similar closely left right →
      (updateToo right).1 = (update left).1 ∧
        Similar closely (update left).2 (updateToo right).2) :
    KeepsUp closely (matcher unchanged : Transcript session _)
      (matcher unchangedToo : Transcript other _) := by
  intro below belowToo left right akin
  obtain ⟨sameResult, similar⟩ := related left right akin.toSimilar
  exact ⟨Eval.paired_modifyGet sameResult
      (akin.of_similar similar (scopes left) (scopesToo right)),
    fun _ => rfl⟩

include same

/-- The same code that is called at the same point does the same. -/
theorem echoes_runCode {code : Code α σ β} {named : NodeCode α σ}
    {leaves : ∀ context, named.leaves context = (code context).2}
    (place placeToo : ExprPlace) (start : Cursor) (value : Value α)
    (akin : Akin closely below belowToo left right) :
    (runCode place named leaves start value : Transcript session _).Echoes
      (runCode placeToo named leaves start value : Transcript other _)
      (fun _ => Akin closely below belowToo) (Similar closely) left right := by
  have sameContext := akin.context same start value
  refine ⟨⟨fun result after run => ?_, fun fault after run => ?_⟩, fun _ => ?_⟩
  · rw [Eval.runCode_eq] at run ⊢
    rw [sameContext]
    generalize code (left.context session start value) = called at run ⊢
    obtain ⟨reply, store⟩ := called
    have kept := akin.of_similar (akin.toSimilar.keepStore store) rfl rfl
    cases reply with
    | answer found =>
        cases run
        exact ⟨_, rfl, kept⟩
    | complaint message =>
        cases run
        exact ⟨_, rfl, kept⟩
    | failure fault => cases run
  · rw [Eval.runCode_eq] at run ⊢
    rw [sameContext]
    generalize code (left.context session start value) = called at run ⊢
    obtain ⟨reply, store⟩ := called
    cases reply with
    | answer found => cases run
    | complaint message => cases run
    | failure fault =>
        cases run
        exact ⟨_, rfl, akin.toSimilar.keepStore store⟩
  · exact congrArg (fun context => [(named, context)]) sameContext

theorem keepsUp_report (error : ParseError) (position : Position) :
    KeepsUp closely
      (change fun _ => rfl :
        Transcript session (modify (report session error position)))
      (change fun _ => rfl :
        Transcript other (modify (report other error position))) :=
  keepsUp_change fun _ _ _ _ akin =>
    akin.of_similar (akin.toSimilar.report same error position) rfl rfl

theorem keepsUp_reportHere (error : ParseError) :
    KeepsUp closely
      (change fun _ => rfl :
        Transcript session (modify (reportHere session error)))
      (change fun _ => rfl :
        Transcript other (modify (reportHere other error))) :=
  keepsUp_change fun _ _ _ _ akin =>
    akin.of_similar (akin.toSimilar.reportHere same error) rfl rfl

theorem keepsUp_predicate (place placeToo : ExprPlace) (test : Predicate α σ)
    (expected : Bool) :
    KeepsUp closely (predicate place test expected : Transcript session _)
      (predicate placeToo test expected : Transcript other _) := by
  refine keepsUp_cursor.bind fun start => KeepsUp.bind
    (fun _ _ _ _ => echoes_runCode same place placeToo start .nil)
    fun reply => ?_
  cases reply with
  | ok holds =>
      exact fun _ _ _ _ akin =>
        .ite Iff.rfl (fun _ => echoes_pure akin) fun _ => echoes_pure akin
  | error message =>
      exact (keepsUp_reportHere same _).bind fun _ => keepsUp_pure _

theorem KeepsUp.action {body bodyToo : Eval α σ (Verdict α)}
    {first : Transcript session body} {second : Transcript other bodyToo}
    (keepsUp : KeepsUp closely first second) (place placeToo : ExprPlace)
    (run : Action α σ) :
    KeepsUp closely (first.action place run) (second.action placeToo run) := by
  refine keepsUp_cursor.bind fun start => keepsUp.bind fun verdict => ?_
  cases verdict with
  | matched value =>
      refine KeepsUp.bind
        (fun _ _ _ _ => echoes_runCode same place placeToo start value)
        fun reply => (keepsUp_traceMatch start).bind fun _ => ?_
      cases reply with
      | ok result => exact keepsUp_pure _
      | error message =>
          exact (keepsUp_report same _ _).bind fun _ => keepsUp_pure _
  | unmatched => exact keepsUp_pure _
  | aborted error => exact keepsUp_pure _

end Code

section Members

variable {closely : Bool} {evaluate evaluateToo : ExprPlace → Expr α σ →
    Eval α σ (Verdict α)}
  (members : ∀ place expr, Transcript session (evaluate place expr))
  (membersToo : ∀ place expr, Transcript other (evaluateToo place expr))

/-- The members of one expression, from an index on, keep up with those of
another one. -/
def MembersKeepUp (closely : Bool) (place placeToo : ExprPlace) :
    (index : Nat) → List (Expr α σ) → List (Expr α σ) → Prop
  | _, [], [] => True
  | index, expr :: exprs, exprToo :: exprsToo =>
    KeepsUp closely (members (place.member index) expr)
        (membersToo (placeToo.member index) exprToo) ∧
      MembersKeepUp closely place placeToo (index + 1) exprs exprsToo
  | _, _, _ => False

variable {members membersToo} {place placeToo : ExprPlace}

theorem MembersKeepUp.sequence (start : Cursor) {index : Nat}
    {exprs exprsToo : List (Expr α σ)}
    (keepUp : MembersKeepUp members membersToo closely place placeToo index
      exprs exprsToo) (values : List (Value α)) :
    KeepsUp closely (sequence members place start index values exprs)
      (sequence membersToo placeToo start index values exprsToo) := by
  induction exprs generalizing index values exprsToo with
  | nil =>
      cases exprsToo with
      | nil => exact keepsUp_pure _
      | cons exprToo exprsToo => exact keepUp.elim
  | cons expr exprs ih =>
      cases exprsToo with
      | nil => exact keepUp.elim
      | cons exprToo exprsToo =>
          refine keepUp.1.bind fun verdict => ?_
          cases verdict with
          | matched value => exact ih keepUp.2 _
          | unmatched =>
              exact (keepsUp_restore start).bind fun _ => keepsUp_pure _
          | aborted error => exact keepsUp_pure _

theorem MembersKeepUp.choice {index : Nat} {exprs exprsToo : List (Expr α σ)}
    (keepUp : MembersKeepUp members membersToo closely place placeToo index
      exprs exprsToo) :
    KeepsUp closely (choice members place index exprs)
      (choice membersToo placeToo index exprsToo) := by
  induction exprs generalizing index exprsToo with
  | nil =>
      cases exprsToo with
      | nil => exact keepsUp_pure _
      | cons exprToo exprsToo => exact keepUp.elim
  | cons expr exprs ih =>
      cases exprsToo with
      | nil => exact keepUp.elim
      | cons exprToo exprsToo =>
          refine keepUp.1.inScope.bind fun verdict => ?_
          cases verdict with
          | matched value => exact keepsUp_pure _
          | unmatched => exact ih keepUp.2
          | aborted error => exact keepsUp_pure _

theorem KeepsUp.rounds {body bodyToo : Eval α σ (Verdict α)}
    {first : Transcript session body} {second : Transcript other bodyToo}
    (keepsUp : KeepsUp closely first second) (count : Nat)
    (values : List (Value α)) :
    KeepsUp closely (first.rounds count values)
      (second.rounds count values) := by
  induction count generalizing values with
  | zero => exact keepsUp_of_exhausted fun state => ⟨state, rfl⟩
  | succ count ih =>
      refine keepsUp_cursor.bind fun start =>
        keepsUp.inScope.bind fun verdict => ?_
      cases verdict with
      | matched value =>
          exact keepsUp_cursor.bind fun finish _ _ _ _ akin =>
            .ite Iff.rfl (fun _ => echoes_pure akin)
              fun _ => ih _ _ _ _ _ akin
      | unmatched => exact keepsUp_pure _
      | aborted error => exact keepsUp_pure _

/-- There are as many rounds at most in both parses, as they have the same
input. -/
theorem KeepsUp.repetition (sameInput : other.input = session.input)
    {body bodyToo : Eval α σ (Verdict α)} {first : Transcript session body}
    {second : Transcript other bodyToo}
    (keepsUp : KeepsUp closely first second) (required : Nat) :
    KeepsUp closely (first.repetition required)
      (second.repetition required) := by
  refine keepsUp_cursor.bind fun start => KeepsUp.bind ?_ fun result => ?_
  · rw [sameInput]
    exact keepsUp.rounds _ _
  · cases result with
    | ok values =>
        exact fun _ _ _ _ akin =>
          .ite Iff.rfl (fun _ => echoes_pure akin) fun _ => echoes_pure akin
    | error error => exact keepsUp_pure _

theorem keepsUp_reference {name : String}
    (targets : Option.Rel
      (fun target targetToo => KeepsUp closely
        (rule members target.1 target.2)
        (rule membersToo targetToo.1 targetToo.2))
      (session.grammar.target? name) (other.grammar.target? name)) :
    KeepsUp closely (reference members name) (reference membersToo name) := by
  refine fun _ _ _ _ akin => .ite Iff.rfl (fun _ => echoes_pure akin) ?_
  intro named
  revert targets
  generalize session.grammar.target? name = found
  generalize other.grammar.target? name = foundToo
  intro targets
  cases targets with
  | some keepsUp => exact keepsUp _ _ _ _ akin
  | none => exact echoes_pure akin

/-- What expressions of one kind come to is the same if their members keep up
with each other. -/
theorem keepsUp_node (same : session.Akin other) {expr exprToo : Expr α σ}
    (sameKind : expr.SameKind exprToo)
    (keepUp : MembersKeepUp members membersToo closely place placeToo 0
      expr.members exprToo.members)
    (references : ∀ name, KeepsUp closely (reference members name)
      (reference membersToo name)) :
    KeepsUp closely (node members place expr)
      (node membersToo placeToo exprToo) := by
  cases sameKind with
  | literal text ignoresCase =>
      exact keepsUp_matcher
        (fun _ => (steady_matchLiteral session text ignoresCase _).scopes)
        (fun _ => (steady_matchLiteral other text ignoresCase _).scopes)
        fun _ _ similar => similar.matchLiteral same text ignoresCase
  | oneOf charClass =>
      exact keepsUp_matcher
        (fun state => (steady_matchChar session _ _ state).scopes)
        (fun state => (steady_matchChar other _ _ state).scopes)
        fun _ _ similar => similar.matchChar same _ _
  | any =>
      exact keepsUp_matcher
        (fun state => (steady_matchChar session _ _ state).scopes)
        (fun state => (steady_matchChar other _ _ state).scopes)
        fun _ _ similar => similar.matchChar same _ _
  | sequence exprs exprsToo =>
      exact keepsUp_cursor.bind fun start => keepUp.sequence start []
  | choice exprs exprsToo => exact keepUp.choice
  | zeroOrMore body bodyToo => exact keepUp.1.repetition same.input 0
  | oneOrMore body bodyToo => exact keepUp.1.repetition same.input 1
  | optional body bodyToo =>
      refine keepUp.1.inScope.bind fun verdict => ?_
      cases verdict <;> exact keepsUp_pure _
  | followedBy body bodyToo =>
      refine keepUp.1.lookahead.bind fun verdict => ?_
      cases verdict <;> exact keepsUp_pure _
  | notFollowedBy body bodyToo =>
      refine keepUp.1.underNot.lookahead.bind fun verdict => ?_
      cases verdict <;> exact keepsUp_pure _
  | labeled label body bodyToo =>
      refine keepUp.1.inScope.bind fun verdict => ?_
      cases verdict with
      | matched value =>
          exact (keepsUp_change fun _ _ _ _ akin => akin.bind label value).bind
            fun _ => keepsUp_pure _
      | unmatched => exact keepsUp_pure _
      | aborted error => exact keepsUp_pure _
  | reference name => exact references name
  | action body bodyToo run => exact keepUp.1.action same place placeToo run
  | require test => exact keepsUp_predicate same place placeToo test true
  | forbid test => exact keepsUp_predicate same place placeToo test false

end Members

end Transcript

end PegEngine
