import PegEngine.Proofs.Records
import PegEngine.Proofs.Transcripts
import PegEngine.Proofs.Visits

/-!
# Accounting for diagnostics

A complaint of the grammar's code is reported at the start of the match with
which the code was called, under the name of the rule to which the code belongs
(`CodeCall.report?`).  A transcript accounts for what is reported if there is
nothing but such reports, and reports of malformed bytes, and none of them is
missing (`Transcript.Accounts`).  This file shows that each way of combining
programs keeps to this.
-/

namespace PegEngine

open ParseState

namespace CodeCall

variable {α σ : Type}

/-- What is reported of a call if the code complains: where the match starts,
and the rule to which the code belongs. -/
def report? (session : Session α σ) (call : CodeCall α σ) : Option Diagnostic :=
  match session.grammar.rules[call.place.rule]?,
    call.code.complaint? call.context with
  | some rule, some message =>
    some
      { position := call.context.position
        location := session.placeText call.context.position ++
          ": rule " ++ rule.diagnosticName
        error := .semantic message }
  | _, _ => none

theorem kind_of_report? {session : Session α σ} {call : CodeCall α σ}
    {diagnostic : Diagnostic}
    (reports : call.report? session = some diagnostic) :
    diagnostic.kind = .semantic := by
  unfold report? at reports
  split at reports
  · cases reports
    rfl
  · cases reports

/-- If the rule to which the code belongs is the innermost one, the place of the
report is written as the evaluation does. -/
theorem report?_of_runs {session : Session α σ} {call : CodeCall α σ}
    {state : ParseState α σ} (runs : state.Runs session call.place.rule) :
    call.report? session = (call.code.complaint? call.context).map
      fun message => ⟨call.context.position,
        state.location session call.context.position, .semantic message⟩ := by
  obtain ⟨rule, isRule, innermost⟩ := runs
  unfold report?
  rw [isRule, location_of_head innermost]
  cases call.code.complaint? call.context <;> rfl

end CodeCall

/-- A visit makes a call of code if it visits the node to which the code
belongs.  An action is called with a match of its body, which starts at the
cursor of the visit, and a predicate with nothing but that cursor. -/
inductive Visit.Makes {α σ : Type} (session : Session α σ) :
    Visit α σ → CodeCall α σ → Prop
  | action {place : ExprPlace} {body : Expr α σ} {run : Action α σ} {nots : Nat}
      {state : ParseState α σ} {context : MatchContext α σ} {finish : Nat}
      (isNode : session.grammar.exprAt? place = some (.action body run))
      (starts : context.position = state.cursor.position)
      (text : context.text =
        session.input.extract state.cursor.offset finish)
      (spans : session.grammar.Spans session.input body state.cursor.offset
        context.value finish) :
      Makes session (.expression place (.action body run) nots state)
        ⟨place, .action run, context⟩
  | predicate {place : ExprPlace} {expr : Expr α σ} {test : Predicate α σ}
      {nots : Nat} {state : ParseState α σ} {context : MatchContext α σ}
      (isNode : session.grammar.exprAt? place = some expr)
      (tests : expr = .require test ∨ expr = .forbid test)
      (starts : context.position = state.cursor.position)
      (empty : context.text = ByteArray.empty)
      (valueless : context.value = .nil) :
      Makes session (.expression place expr nots state)
        ⟨place, .predicate test, context⟩

/-- What has been reported between two moments is accounted for: there is
nothing but malformed bytes and what calls of code have complained of, and
whatever they have complained of is there. -/
structure Diagnostics.Accounted {α σ : Type} (session : Session α σ)
    (calls : List (CodeCall α σ)) (before after : Diagnostics) : Prop where
  kept : before.toList <+: after.toList
  reported : ∀ diagnostic ∈ after.toList, diagnostic ∈ before.toList ∨
    diagnostic.kind = .encoding ∨
      ∃ call ∈ calls, call.report? session = some diagnostic
  shown : ∀ call ∈ calls, ∀ diagnostic,
    call.report? session = some diagnostic → after.Shows diagnostic

namespace Diagnostics

variable {α σ : Type} {session : Session α σ}
  {calls later : List (CodeCall α σ)} {before middle after : Diagnostics}

theorem Accounted.refl (diagnostics : Diagnostics) :
    Accounted session [] diagnostics diagnostics :=
  ⟨List.prefix_refl _, fun _ reported => .inl reported, nofun⟩

theorem Accounted.trans (first : Accounted session calls before middle)
    (second : Accounted session later middle after) :
    Accounted session (calls ++ later) before after where
  kept := first.kept.trans second.kept
  reported diagnostic reported := by
    rcases second.reported diagnostic reported with
      earlier | malformed | ⟨call, isCall, reports⟩
    · rcases first.reported diagnostic earlier with
        earlier | malformed | ⟨call, isCall, reports⟩
      · exact .inl earlier
      · exact .inr (.inl malformed)
      · exact .inr (.inr ⟨call, List.mem_append_left _ isCall, reports⟩)
    · exact .inr (.inl malformed)
    · exact .inr (.inr ⟨call, List.mem_append_right _ isCall, reports⟩)
  shown call isCall diagnostic reports := by
    rcases List.mem_append.mp isCall with isCall | isCall
    · obtain ⟨earlier, isEarlier, same⟩ :=
        first.shown call isCall diagnostic reports
      exact ⟨earlier, second.kept.subset isEarlier, same⟩
    · exact second.shown call isCall diagnostic reports

/-- What holds of a diagnostic that is added holds of all that are new. -/
theorem push_adds {added : Diagnostic} {holds : Diagnostic → Prop}
    (adds : holds added) :
    ∀ diagnostic ∈ (before.push added).toList,
      diagnostic ∈ before.toList ∨ holds diagnostic := by
  intro diagnostic reported
  rcases mem_push reported with earlier | rfl
  · exact .inl earlier
  · exact .inr adds

/-- A malformed byte is reported without any call. -/
theorem accounted_malformed {added : Diagnostic}
    (malformed : added.kind = .encoding) :
    Accounted session [] before (before.push added) :=
  ⟨isPrefix_push _ _, push_adds (.inl malformed), nofun⟩

/-- What one call adds. -/
theorem accounted_call (call : CodeCall α σ) :
    Accounted session [call] before
      ((call.report? session).elim before before.push) := by
  cases reports : call.report? session with
  | none =>
      refine ⟨List.prefix_refl _, fun _ reported => .inl reported, ?_⟩
      intro other isCall diagnostic reportsOther
      rw [List.mem_singleton.mp isCall, reports] at reportsOther
      cases reportsOther
  | some added =>
      refine ⟨isPrefix_push _ _,
        push_adds (.inr ⟨call, List.mem_singleton.mpr rfl, reports⟩), ?_⟩
      intro other isCall diagnostic reportsOther
      rw [List.mem_singleton.mp isCall, reports] at reportsOther
      cases reportsOther
      exact shows_push_self

end Diagnostics

namespace ParseState

variable {α σ : Type} {session : Session α σ}

open Diagnostics

theorem accounted_read (state : ParseState α σ) :
    Accounted session [] state.diagnostics
      (state.read session).diagnostics := by
  rw [read_eq]
  dsimp only
  split
  · exact accounted_malformed rfl
  · exact .refl _

theorem diagnostics_restore (cursor : Cursor) (state : ParseState α σ) :
    (state.restore session cursor).diagnostics = state.diagnostics :=
  (quiet_restore cursor state).diagnostics

theorem accounted_consume (ignoresCase : Bool) (chars : List Char)
    (state : ParseState α σ) :
    Accounted session [] state.diagnostics
      (state.consume session ignoresCase chars).2.diagnostics := by
  induction chars generalizing state with
  | nil => exact .refl _
  | cons char chars ih =>
      rw [consume]
      split
      · exact (accounted_read state).trans (ih (state.read session))
      · exact .refl _

theorem accounted_matchLiteral (text : String) (ignoresCase : Bool)
    (state : ParseState α σ) :
    Accounted session [] state.diagnostics
      (state.matchLiteral session text ignoresCase).2.diagnostics := by
  have compared : Accounted session [] state.diagnostics
      (state.consume session ignoresCase text.toList).2.diagnostics :=
    accounted_consume ignoresCase text.toList state
  unfold matchLiteral
  rcases consumed : state.consume session ignoresCase text.toList
    with ⟨agreed, after⟩
  rw [consumed] at compared
  cases agreed with
  | true => exact compared
  | false =>
      dsimp only
      rw [diagnostics_restore]
      exact compared

theorem accounted_matchChar (accepts : Char → Bool) (descriptor : String)
    (state : ParseState α σ) :
    Accounted session [] state.diagnostics
      (state.matchChar session accepts descriptor).2.diagnostics := by
  unfold matchChar
  cases state.cursor.current with
  | none => exact .refl _
  | some char =>
      dsimp only
      split
      · exact accounted_read state
      · exact .refl _

end ParseState

namespace Transcript

variable {α σ β γ : Type} {session : Session α σ}

/-- From a state, all calls in a transcript are made by some visits, and account
for what is reported. -/
structure Accounts {program : Eval α σ β}
    (transcript : Transcript session program) (visits : List (Visit α σ))
    (state : ParseState α σ) : Prop where
  made : ∀ call ∈ transcript.calls state,
    ∃ visit ∈ visits, visit.Makes session call
  accounted : Diagnostics.Accounted session (transcript.calls state)
    state.diagnostics (Eval.endState (program state)).diagnostics

section Programs

variable {program : Eval α σ β} {transcript : Transcript session program}
  {visits laterVisits : List (Visit α σ)} {state : ParseState α σ}

theorem Accounts.mono (accounts : transcript.Accounts visits state)
    (among : visits ⊆ laterVisits) : transcript.Accounts laterVisits state where
  made call isCall := by
    obtain ⟨visit, isVisit, makes⟩ := accounts.made call isCall
    exact ⟨visit, among isVisit, makes⟩
  accounted := accounts.accounted

theorem accounts_pure (result : β) :
    (Transcript.pure result : Transcript session _).Accounts visits state :=
  ⟨nofun, .refl _⟩

theorem accounts_throw (interrupt : Interrupt) :
    (Transcript.throw interrupt :
      Transcript session (throw interrupt : Eval α σ β)).Accounts visits
      state :=
  ⟨nofun, .refl _⟩

theorem accounts_change {update : ParseState α σ → ParseState α σ}
    {unchanged : ∀ state, (update state).store = state.store}
    (quiet : (update state).diagnostics = state.diagnostics) :
    (Transcript.change unchanged : Transcript session _).Accounts visits
      state := by
  refine ⟨nofun, ?_⟩
  change Diagnostics.Accounted session [] _ (update state).diagnostics
  exact quiet ▸ .refl _

theorem accounts_matcher {update : ParseState α σ → β × ParseState α σ}
    {unchanged : ∀ state, (update state).2.store = state.store}
    (accounted : Diagnostics.Accounted session [] state.diagnostics
      (update state).2.diagnostics) :
    (Transcript.matcher unchanged : Transcript session _).Accounts visits
      state :=
  ⟨nofun, accounted⟩

theorem Accounts.bind {next : β → Eval α σ γ}
    {later : ∀ result, Transcript session (next result)}
    (accounts : transcript.Accounts visits state)
    (rest : ∀ value after, program state = .ok value after →
      (later value).Accounts laterVisits after) :
    (transcript.bind later).Accounts (visits ++ laterVisits) state := by
  have first := accounts.accounted
  cases run : program state with
  | ok value after =>
      have isBind : (transcript.bind later).calls state =
          transcript.calls state ++ (later value).calls after := by
        simp only [Transcript.bind, run]
      have ends : (program >>= next) state = next value after := by
        simp only [Bind.bind, EStateM.bind, run]
      have second := rest value after run
      rw [run] at first
      constructor
      · rw [isBind]
        exact List.forall_mem_append.mpr
          ⟨(accounts.mono (List.subset_append_left _ _)).made,
            (second.mono (List.subset_append_right _ _)).made⟩
      · rw [isBind, ends]
        exact first.trans second.accounted
  | error interrupt after =>
      have isBind : (transcript.bind later).calls state =
          transcript.calls state := by
        simp only [Transcript.bind, run, List.append_nil]
      have ends : (program >>= next) state = .error interrupt after := by
        simp only [Bind.bind, EStateM.bind, run]
      rw [run] at first
      constructor
      · rw [isBind]
        exact (accounts.mono (List.subset_append_left _ _)).made
      · rw [isBind, ends]
        exact first

/-- What follows may add to the diagnostics without having visits of its own. -/
theorem Accounts.then {next : β → Eval α σ γ}
    {later : ∀ result, Transcript session (next result)}
    (accounts : transcript.Accounts visits state)
    (rest : ∀ value after, program state = .ok value after →
      (later value).Accounts [] after) :
    (transcript.bind later).Accounts visits state := by
  rw [← List.append_nil visits]
  exact accounts.bind rest

theorem accounts_cursor {next : Cursor → Eval α σ β}
    {later : ∀ start, Transcript session (next start)}
    (accounts : (later state.cursor).Accounts visits state) :
    (Transcript.cursor.bind later).Accounts visits state :=
  ⟨accounts.made, accounts.accounted⟩

theorem accounts_get {next : ParseState α σ → Eval α σ β}
    {later : ∀ start, Transcript session (next start)}
    (accounts : (later state).Accounts visits state) :
    (Transcript.get.bind later).Accounts visits state :=
  ⟨accounts.made, accounts.accounted⟩

/-- A change of the state before a program. -/
theorem Accounts.after {update : ParseState α σ → ParseState α σ}
    {unchanged : ∀ state, (update state).store = state.store}
    {next : PUnit → Eval α σ β}
    {later : ∀ result, Transcript session (next result)}
    (accounts : (later .unit).Accounts visits (update state))
    (quiet : (update state).diagnostics = state.diagnostics) :
    ((Transcript.change unchanged).bind later).Accounts visits state :=
  ⟨accounts.made, quiet ▸ accounts.accounted⟩

theorem Accounts.ite {test : Prop} [Decidable test] {other : Eval α σ β}
    {otherwise : Transcript session other}
    (accounts : test → transcript.Accounts visits state)
    (accountsOther : ¬ test → otherwise.Accounts laterVisits state) :
    (transcript.ite otherwise : Transcript session
        (if test then program else other)).Accounts
      (if test then visits else laterVisits) state := by
  by_cases holds : test
  · have first := accounts holds
    constructor
    · simpa only [Transcript.ite, if_pos holds] using first.made
    · simpa only [Transcript.ite, if_pos holds] using first.accounted
  · have second := accountsOther holds
    constructor
    · simpa only [Transcript.ite, if_neg holds] using second.made
    · simpa only [Transcript.ite, if_neg holds] using second.accounted

theorem Accounts.either {test : Prop} [Decidable test] {other : Eval α σ β}
    {otherwise : Transcript session other}
    (accounts : transcript.Accounts visits state)
    (accountsOther : otherwise.Accounts visits state) :
    (transcript.ite otherwise : Transcript session
      (if test then program else other)).Accounts visits state := by
  simpa only [ite_self] using
    Accounts.ite (fun _ : test => accounts) fun _ => accountsOther

theorem Accounts.between {enter leave : ParseState α σ → ParseState α σ}
    {enters : ∀ state, (enter state).store = state.store}
    {leaves : ∀ state, (leave state).store = state.store}
    (accounts : transcript.Accounts visits (enter state))
    (quiet : (enter state).diagnostics = state.diagnostics)
    (quietAfter : ∀ after, (leave after).diagnostics = after.diagnostics) :
    (Transcript.between enter leave enters leaves transcript).Accounts visits
      state :=
  (accounts.then fun _ after _ =>
    (accounts_change (quietAfter after)).then fun _ _ _ =>
      accounts_pure _).after quiet

theorem Accounts.inScope
    (accounts : transcript.Accounts visits state.pushScope) :
    transcript.inScope.Accounts visits state :=
  accounts.between rfl fun _ => rfl

theorem Accounts.underNot (accounts : transcript.Accounts visits state.toggle) :
    transcript.underNot.Accounts visits state :=
  accounts.between rfl fun _ => rfl

theorem Accounts.traced {subject : Subject}
    (accounts : transcript.Accounts visits (state.enterNode session subject)) :
    (transcript.traced subject).Accounts visits state :=
  accounts.between (quiet_enterNode subject state).diagnostics
    fun after => (quiet_leaveNode subject after).diagnostics

theorem Accounts.inRule {rule : Rule α σ}
    (accounts : transcript.Accounts visits (state.enterRule rule)) :
    (transcript.inRule rule).Accounts visits state :=
  accounts.between rfl fun _ => rfl

/-- A program in a label scope, and one that follows it. -/
theorem Accounts.inScope_bind {next : β → Eval α σ γ}
    {later : ∀ result, Transcript session (next result)}
    (accounts : transcript.Accounts visits state.pushScope)
    (rest : ∀ value after, program state.pushScope = .ok value after →
      (later value).Accounts laterVisits after.popScope) :
    (transcript.inScope.bind later).Accounts (visits ++ laterVisits) state :=
  accounts.inScope.bind fun value after run => by
    have ends : Eval.Ends (Eval.inScope program)
        (fun value after => (later value).Accounts laterVisits after)
        (fun _ => True) True state := by
      refine Eval.ends_inScope.mpr ?_
      have anything : Eval.Ends program (fun _ _ => True) (fun _ => True) True
          state.pushScope := by
        unfold Eval.Ends
        split <;> trivial
      exact anything.mono_run fun value after run _ => rest value after run
    exact ends.result run

end Programs

section Verdicts

variable {program : Eval α σ (Verdict α)}
  {transcript : Transcript session program} {visits : List (Visit α σ)}
  {state : ParseState α σ}

theorem Accounts.lookahead
    (accounts : transcript.Accounts visits state.pushScope) :
    transcript.lookahead.Accounts visits state :=
  accounts_cursor <| accounts.inScope.then fun _ after _ =>
    (accounts_change (diagnostics_restore _ after)).then fun _ _ _ =>
      accounts_pure _

/-- What is replayed calls and reports nothing. -/
theorem Accounts.memoized {enabled : Bool} {node : NodeKey}
    (accounts : Eval.replays enabled node state = false →
      transcript.Accounts visits state) :
    (Transcript.memoized enabled node transcript).Accounts
      (if Eval.replays enabled node state then [] else visits) state := by
  have selected : (Transcript.memoized enabled node transcript).Accounts
      (if enabled then
        if (state.memo.lookup (state.memoKey node)).isSome then [] else visits
      else visits) state := by
    refine .ite (fun isEnabled => accounts_get (accounts_get ?_))
      fun disabled => accounts (by simp [Eval.replays, disabled])
    cases kept : state.memo.lookup (state.memoKey node) with
    | some entry =>
        exact (accounts_change (diagnostics_restore _ state)).then
          fun _ _ _ => accounts_pure _
    | none =>
        have notReplayed : Eval.replays enabled node state = false := by
          simp [Eval.replays, kept]
        refine (accounts notReplayed).then fun verdict after _ => ?_
        cases verdict with
        | matched value | unmatched =>
            exact (accounts_change rfl).then fun _ _ _ => accounts_pure _
        | aborted error => exact accounts_pure _
  cases enabled with
  | false => exact selected
  | true => simpa only [Eval.replays, Bool.true_and, if_true] using selected

theorem Accounts.counted {expr : Expr α σ}
    (accounts : state.countExpression.overLimit session = false →
      transcript.Accounts visits
        (state.countExpression.enterNode session
          (.expression expr.kindName))) :
    (Transcript.counted expr transcript).Accounts
      (if state.countExpression.overLimit session then [] else visits)
      state := by
  refine Accounts.after (accounts_get (.ite (fun _ => accounts_pure _)
    fun within => ?_)) rfl
  exact (accounts (by simpa using within)).traced

theorem Accounts.visit {place : ExprPlace} {expr : Expr α σ}
    (accounts : Eval.enters session place expr state = true →
      transcript.Accounts visits
        (state.countExpression.enterNode session
          (.expression expr.kindName))) :
    (Transcript.visit place expr transcript).Accounts
      (if Eval.enters session place expr state then visits else []) state := by
  rw [Eval.ite_enters]
  exact .memoized fun notKept => .counted fun within =>
    accounts (by simp [Eval.enters, notKept, within])

theorem Accounts.runRule {rule : Rule α σ}
    (accounts : transcript.Accounts visits
      ((state.enterNode session (.rule rule.name)).enterRule rule)) :
    (Transcript.runRule rule transcript).Accounts visits state := by
  refine accounts_cursor (accounts.inRule.traced.then
    fun verdict after _ => ?_)
  cases verdict with
  | matched value =>
      exact (accounts_change (quiet_traceMatch _ after).diagnostics).then
        fun _ _ _ => accounts_pure _
  | unmatched | aborted error => exact accounts_pure _

end Verdicts

end Transcript

end PegEngine
