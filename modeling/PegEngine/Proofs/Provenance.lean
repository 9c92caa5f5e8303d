import PegEngine.Proofs.Accounting

/-!
# Where diagnostics come from

Every complaint in the report of a parse comes from a call of code, and names
the place of the match and the rule that has the node of this code in its body
(`Session.attributes_diagnostics`).  The evaluation takes the name from the
innermost of the rules that it is evaluating; so this holds because that rule is
the one to which the node belongs, wherever code is called
(`Transcript.accounts_call`).

The transcript of an expression accounts for what is reported in it if those of
its members do, and hence so does that of a whole parse
(`Session.entering_accounts`).  When the parse reports why it has come to its
end, no rule is being evaluated any more, and none is named.
-/

namespace PegEngine

open ParseState

namespace Transcript

variable {α σ β γ : Type} {session : Session α σ}

section Code

variable {place : ExprPlace} {visit : Visit α σ} {state : ParseState α σ}

/-- Code is called by a visit, and what it complains of is reported by the
program that follows. -/
theorem accounts_call {named : NodeCode α σ} {code : Code α σ β}
    {same : ∀ context, named.leaves context = (code context).2}
    {start : Cursor} {value : Value α} {next : Except String β → Eval α σ γ}
    {later : ∀ reply, Transcript session (next reply)}
    (runs : state.Runs session place.rule)
    (makes : visit.Makes session
      ⟨place, named, state.context session start value⟩)
    (complains : ∀ context,
      named.complaint? context = (code context).1.complaint?)
    (callsNothing : ∀ reply after, (later reply).calls after = [])
    (answered : ∀ result store,
      (Eval.endState (next (.ok result)
        { state with store := store })).diagnostics = state.diagnostics)
    (complained : ∀ message store,
      (Eval.endState (next (.error message)
          { state with store := store })).diagnostics =
        state.diagnostics.push ⟨start.position,
          state.location session start.position, .semantic message⟩) :
    ((Transcript.runCode place named same start value).bind later).Accounts
      [visit] state := by
  let call : CodeCall α σ := ⟨place, named, state.context session start value⟩
  have isCall : ((Transcript.runCode place named same start value).bind
      later).calls state = [call] := by
    simp only [Transcript.bind, callsNothing]
    split <;> rfl
  have ends : (Eval.endState ((Eval.runCode session code start value >>= next)
      state)).diagnostics =
        (call.report? session).elim state.diagnostics
          state.diagnostics.push := by
    -- The evaluation names the innermost rule, and the report the one to which
    -- the code belongs.
    have runsNode : state.Runs session call.place.rule := runs
    have complains : call.code.complaint? call.context = _ := complains _
    rw [CodeCall.report?_of_runs runsNode, complains]
    simp only [Bind.bind, EStateM.bind, Eval.runCode_eq, call]
    rcases code (state.context session start value) with ⟨reply, store⟩
    cases reply with
    | answer result => exact answered result store
    | complaint message => exact complained message store
    | failure fault => rfl
  constructor
  · rw [isCall]
    rintro other isOther
    rw [List.mem_singleton.mp isOther]
    exact ⟨visit, List.mem_singleton.mpr rfl, makes⟩
  · rw [isCall, ends]
    exact Diagnostics.accounted_call call

/-- A predicate is called where it is evaluated, and what it complains of is
reported there. -/
theorem accounts_predicate {expr : Expr α σ} {test : Predicate α σ} {nots : Nat}
    {visited : ParseState α σ}
    (isNode : session.grammar.exprAt? place = some expr)
    (tests : expr = .require test ∨ expr = .forbid test)
    (runs : state.Runs session place.rule)
    (here : state.cursor = visited.cursor) (expected : Bool) :
    (predicate place test expected : Transcript session _).Accounts
      [.expression place expr nots visited] state := by
  refine accounts_cursor (accounts_call runs ?_ (fun _ => rfl) ?_ ?_ ?_)
  · refine .predicate isNode tests (congrArg Cursor.position here) ?_ rfl
    exact ByteArray.extract_same
  · intro reply after
    cases reply with
    | ok holds => exact ite_self []
    | error message => rfl
  · intro holds store
    dsimp only
    split <;> rfl
  · exact fun message store => rfl

/-- An action is called after its body has matched, and what it complains of is
reported where that match starts. -/
theorem Accounts.action {body : Expr α σ} {run : Action α σ} {nots depth : Nat}
    {visited : ParseState α σ} {visits : List (Visit α σ)}
    {transcript : Transcript session
      (Eval.evalExpr session depth (place.member 0) body)}
    (accounts : transcript.Accounts visits state)
    (valid : session.grammar.error? = none)
    (isNode : session.grammar.exprAt? place = some (.action body run))
    (ready : state.Ready session) (runs : state.Runs session place.rule)
    (here : state.cursor = visited.cursor) :
    (transcript.action place run).Accounts
      (visits ++ [.expression place (.action body run) nots visited])
      state := by
  have settles := Eval.evalExpr_settles valid depth
    (Grammar.exprAt?_onlyMember isNode rfl) ready runs
  refine accounts_cursor (accounts.bind fun verdict after ran => ?_)
  cases verdict with
  | unmatched | aborted error => exact accounts_pure _
  | matched value =>
      have settled := settles.result ran
      have sameRules := settled.balanced.activeRules
      refine accounts_call (runs.of_eq sameRules) ?_ (fun _ => rfl) ?_ ?_ ?_
      · exact .action isNode (congrArg Cursor.position here)
          (by rw [← here]; rfl) (here ▸ settled.describes.1)
      · intro reply last
        cases reply <;> rfl
      · exact fun result store => (quiet_traceMatch _ _).diagnostics
      · intro message store
        let called : ParseState α σ := { after with store := store }
        change ((called.traceMatch session state.cursor).report session
          (.semantic message) state.cursor.position).diagnostics = _
        rw [traceMatch_eq]
        rfl

end Code

/-- At places of the grammar, evaluated from the rules that these are in, the
transcripts account for what is reported. -/
def MembersAccount {evaluate : ExprPlace → Expr α σ → Eval α σ (Verdict α)}
    (members : ∀ place expr, Transcript session (evaluate place expr))
    (visits : ExprPlace → Expr α σ → (nots : Nat) → ParseState α σ →
      List (Visit α σ)) : Prop :=
  ∀ (place : ExprPlace) (expr : Expr α σ) (nots : Nat) (state : ParseState α σ),
    session.grammar.exprAt? place = some expr → state.Ready session →
      state.Runs session place.rule →
        (members place expr).Accounts (visits place expr nots state) state

section Members

variable (valid : session.grammar.error? = none) {depth : Nat}
  {members : ∀ place expr,
    Transcript session (Eval.evalExpr session depth place expr)}
  {visits : ExprPlace → Expr α σ → (nots : Nat) → ParseState α σ →
    List (Visit α σ)}
  (membersAccount : MembersAccount members visits) {place : ExprPlace}
  {nots : Nat} {state : ParseState α σ}
include valid membersAccount

theorem MembersAccount.sequence (start : Cursor) {index : Nat}
    (values : List (Value α)) {exprs : List (Expr α σ)}
    (lists : session.grammar.Lists place index exprs)
    (ready : state.Ready session) (runs : state.Runs session place.rule) :
    (Transcript.sequence members place start index values exprs).Accounts
      (Eval.visitsInSequence (Eval.evalExpr session depth) visits place nots
        index exprs state) state := by
  induction exprs generalizing index values state with
  | nil => exact accounts_pure _
  | cons expr exprs ih =>
      have settles := Eval.evalExpr_settles valid depth lists.head ready runs
      rw [Eval.visitsInSequence]
      refine (membersAccount _ _ _ _ lists.head ready runs).bind
        fun verdict after run => ?_
      rw [run]
      have settled := settles.result run
      cases verdict with
      | matched value =>
          exact ih _ lists.tail settled.ready_of_matched
            (runs.of_eq settled.balanced.activeRules)
      | unmatched =>
          exact (accounts_change (diagnostics_restore start after)).then
            fun _ _ _ => accounts_pure _
      | aborted error => exact accounts_pure _

theorem MembersAccount.choice {index : Nat} {exprs : List (Expr α σ)}
    (lists : session.grammar.Lists place index exprs)
    (ready : state.Ready session) (runs : state.Runs session place.rule) :
    (Transcript.choice members place index exprs).Accounts
      (Eval.visitsInChoice (Eval.evalExpr session depth) visits place nots
        index exprs state) state := by
  induction exprs generalizing index state with
  | nil => exact accounts_pure _
  | cons expr exprs ih =>
      have settles :=
        Eval.evalExpr_settles valid depth lists.head ready.pushScope runs
      rw [Eval.visitsInChoice]
      refine (membersAccount _ _ _ _ lists.head ready.pushScope
        runs).inScope_bind fun verdict after run => ?_
      rw [run]
      have settled := (settles.result run).popScope
      cases verdict with
      | matched value => exact accounts_pure _
      | unmatched =>
          exact ih lists.tail settled.ready_of_unmatched
            (runs.of_eq settled.balanced.activeRules)
      | aborted error => exact accounts_pure _

theorem MembersAccount.rounds {body : Expr α σ}
    (found : session.grammar.exprAt? place = some body) (rounds : Nat)
    (values : List (Value α)) (ready : state.Ready session)
    (runs : state.Runs session place.rule) :
    (Transcript.rounds (members place body) rounds values).Accounts
      (Eval.visitsInRounds (Eval.evalExpr session depth place body)
        (visits place body nots) rounds state) state := by
  induction rounds generalizing values state with
  | zero => exact accounts_throw _
  | succ rounds ih =>
      have settles :=
        Eval.evalExpr_settles valid depth found ready.pushScope runs
      rw [Eval.visitsInRounds]
      refine accounts_cursor ((membersAccount _ _ _ _ found ready.pushScope
        runs).inScope_bind fun verdict after run => ?_)
      rw [run]
      have settled := (settles.result run).popScope
      cases verdict with
      | matched value =>
          -- Leaving the scope does not move the cursor, so both tests are one.
          exact accounts_cursor (.ite (fun _ => accounts_pure _) fun _ =>
            ih _ settled.ready_of_matched
              (runs.of_eq settled.balanced.activeRules))
      | unmatched | aborted error => exact accounts_pure _

theorem MembersAccount.repetition {body : Expr α σ}
    (found : session.grammar.exprAt? place = some body) (required : Nat)
    (ready : state.Ready session) (runs : state.Runs session place.rule) :
    (Transcript.repetition required (members place body)).Accounts
      (Eval.visitsInRounds (Eval.evalExpr session depth place body)
        (visits place body nots)
        (session.input.size - state.cursor.offset + 1) state) state := by
  refine accounts_cursor ((membersAccount.rounds valid found _ [] ready
    runs).then fun result after _ => ?_)
  cases result with
  | ok values =>
      exact (accounts_pure _).either (accounts_pure _)
  | error error => exact accounts_pure _

omit valid in
/-- A rule that is called, and the calls of code in it. -/
theorem MembersAccount.rule {rule : Rule α σ} {index : Nat}
    (isRule : session.grammar.rules[index]? = some rule)
    (ready : state.Ready session) :
    (Transcript.rule members rule index).Accounts
      (Eval.visitsOfRule session visits rule index nots state) state := by
  have inside : (Transcript.rule members rule index).Accounts
      (if Eval.replays session.options.memoize (.rule index) state then []
        else visits (.body index) rule.body nots
          ((state.enterNode session (.rule rule.name)).enterRule rule))
      state :=
    .memoized fun _ => .runRule <| membersAccount _ _ _ _
      (Grammar.exprAt?_body isRule) ((ready.enterNode _).enterRule rule)
      (runs_enterRule isRule)
  exact inside.mono (List.subset_cons_self _ _)

theorem MembersAccount.reference {name : String}
    (found : session.grammar.exprAt? place = some (.reference name))
    (ready : state.Ready session) :
    (Transcript.reference members name).Accounts
      (Eval.visitsOfNode session (Eval.evalExpr session depth) visits place
        nots state (.reference name)) state := by
  obtain ⟨-, rule, index, target⟩ := Grammar.target?_of_valid valid found
  have selected : (Transcript.reference members name).Accounts
      (if name.isEmpty then []
        else Eval.visitsOfRule session visits rule index nots state) state := by
    refine .ite (fun _ => accounts_pure _) fun _ => ?_
    rw [target]
    exact membersAccount.rule (Grammar.rule_of_target? target) ready
  simpa only [Eval.visitsOfNode, target] using selected

/-- The calls of code in an expression are its own one, if it has code, and
those of its members. -/
theorem MembersAccount.node {expr : Expr α σ} {visited : ParseState α σ}
    {outer : Nat} (found : session.grammar.exprAt? place = some expr)
    (ready : state.Ready session) (runs : state.Runs session place.rule)
    (here : state.cursor = visited.cursor) :
    (Transcript.node members place expr).Accounts
      (.expression place expr outer visited ::
        Eval.visitsOfNode session (Eval.evalExpr session depth) visits place
          nots state expr) state := by
  have only : ∀ {body : Expr α σ}, expr.members = [body] →
      session.grammar.exprAt? (place.member 0) = some body :=
    Grammar.exprAt?_onlyMember found
  -- What has no code of its own calls code only in what it visits in turn.
  have own : ∀ {calls : List (Visit α σ)} {program : Eval α σ (Verdict α)}
      {transcript : Transcript session program},
      transcript.Accounts calls state →
        transcript.Accounts (.expression place expr outer visited :: calls)
          state :=
    fun accounts => accounts.mono (List.subset_cons_self _ _)
  cases expr with
  | literal text ignoresCase =>
      exact accounts_matcher (accounted_matchLiteral text ignoresCase state)
  | oneOf charClass => exact accounts_matcher (accounted_matchChar _ _ state)
  | any => exact accounts_matcher (accounted_matchChar _ _ state)
  | sequence exprs =>
      have inside : (Transcript.sequence members place state.cursor 0 []
          exprs).Accounts (Eval.visitsInSequence (Eval.evalExpr session depth)
            visits place nots 0 exprs state) state :=
        membersAccount.sequence valid state.cursor []
          (Grammar.lists_members found) ready runs
      exact own ⟨inside.made, inside.accounted⟩
  | choice exprs =>
      exact own (membersAccount.choice valid (Grammar.lists_members found)
        ready runs)
  | zeroOrMore body | oneOrMore body =>
      exact own (membersAccount.repetition valid (only rfl) _ ready runs)
  | optional body =>
      refine own ((membersAccount _ _ _ _ (only rfl) ready.pushScope
        runs).inScope.then fun verdict _ _ => ?_)
      cases verdict <;> exact accounts_pure _
  | followedBy body =>
      refine own ((membersAccount _ _ _ _ (only rfl) ready.pushScope
        runs).lookahead.then fun verdict _ _ => ?_)
      cases verdict <;> exact accounts_pure _
  | notFollowedBy body =>
      refine own (((membersAccount _ _ _ _ (only rfl) ready.pushScope.toggle
        runs).underNot).lookahead.then fun verdict _ _ => ?_)
      cases verdict <;> exact accounts_pure _
  | labeled label body =>
      refine own ((membersAccount _ _ _ _ (only rfl) ready.pushScope
        runs).inScope.then fun verdict after _ => ?_)
      cases verdict with
      | matched value =>
          have quiet := quiet_bind label value after
          exact (accounts_change quiet.diagnostics).then
            fun _ _ _ => accounts_pure _
      | unmatched | aborted error => exact accounts_pure _
  | reference name => exact own (membersAccount.reference valid found ready)
  | action body run =>
      exact ((membersAccount _ _ _ _ (only rfl) ready runs).action valid found
        ready runs here).mono (List.perm_append_singleton _ _).subset
  | require test =>
      exact accounts_predicate found (.inl rfl) runs here true
  | forbid test =>
      exact accounts_predicate found (.inr rfl) runs here false

end Members

/-- The transcript of every expression of a valid grammar accounts for what is
reported in evaluating it. -/
theorem expr_accounts (valid : session.grammar.error? = none) (depth : Nat) :
    MembersAccount (Transcript.expr session depth)
      (Eval.visits session depth) := by
  induction depth with
  | zero => exact fun _ _ _ _ _ _ _ => accounts_throw _
  | succ depth ih =>
      intro place expr nots state found ready runs
      have inside : (Transcript.expr session (depth + 1) place expr).Accounts
          (if Eval.enters session place expr state then
            .expression place expr nots state ::
              Eval.visitsOfNode session (Eval.evalExpr session depth)
                (Eval.visits session depth) place nots
                (state.countExpression.enterNode session
                  (.expression expr.kindName))
                expr
          else []) state := by
        refine .visit fun enters => ?_
        have counted := Eval.ready_of_enters ready enters
        have runsInside : state.countExpression.Runs session place.rule :=
          runs.of_eq rfl
        exact ih.node valid found (counted.enterNode _)
          (runsInside.enterNode _) (cursor_enterNode _)
      refine inside.mono ?_
      rw [Eval.visits]
      split
      · exact List.Subset.refl _
      · exact List.nil_subset _

end Transcript

namespace Session

variable {α σ : Type} {session : Session α σ} {entry : Rule α σ}

/-- The calls of code in a parse account for what is reported before the entry
rule has come to its end. -/
theorem entering_accounts (valid : session.grammar.error? = none)
    (starts : session.grammar.start? = some entry) (depth : Nat) :
    (∀ call ∈ session.calls depth,
        ∃ visit ∈ session.visits depth entry, visit.Makes session call) ∧
      Diagnostics.Accounted session (session.calls depth) .empty
        (Eval.endState (session.entering depth entry)).diagnostics := by
  have accounts : (Transcript.rule (Transcript.expr session depth) entry
      0).Accounts (session.visits depth entry) session.opening :=
    (Transcript.expr_accounts valid depth).rule
      (Grammar.entry_of_start? starts) session.opening_ready
  have opens : Diagnostics.Accounted session [] Diagnostics.empty
      session.opening.diagnostics :=
    accounted_read (ParseState.initial session)
  have calls : session.calls depth =
      (Transcript.rule (Transcript.expr session depth) entry 0).calls
        session.opening := by
    simp only [Session.calls, starts, valid]
  rw [calls]
  exact ⟨accounts.made, opens.trans accounts.accounted⟩

/-- The report keeps what there is when the entry rule has come to its end, and
adds nothing but a contained fault or something that no code has asked for and
that names no rule. -/
theorem diagnostics_of_reportOn (valid : session.grammar.error? = none)
    (starts : session.grammar.start? = some entry) {depth : Nat}
    {parsed : Parsed α} {log : Array LogEntry}
    (ends : session.reportOn (session.entering depth entry) =
      some ⟨.parsed parsed, log⟩) :
    let last := Eval.endState (session.entering depth entry)
    last.diagnostics.toList <+: parsed.diagnostics.toList ∧
      ∀ diagnostic ∈ parsed.diagnostics.toList,
        diagnostic ∈ last.diagnostics.toList ∨ diagnostic.kind = .fault ∨
          diagnostic.kind ≠ .semantic ∧
            diagnostic.location = session.placeText diagnostic.position := by
  have settles := entering_settles starts valid depth
  dsimp only
  rcases run : session.entering depth entry with
    ⟨verdict, after⟩ | ⟨interrupt, after⟩
  all_goals rw [run] at ends
  · have settled := settles.result run
    have noRule : after.activeRules = [] :=
      settled.balanced.activeRules.trans session.activeRules_opening
    cases verdict with
    | matched value =>
        cases ends
        exact ⟨List.prefix_refl _, fun _ reported => .inl reported⟩
    | unmatched =>
        cases ends
        simp only [reportNoMatch]
        split
        · exact ⟨Diagnostics.isPrefix_push _ _, Diagnostics.push_adds
            (.inr ⟨nofun, location_of_noRule noRule _⟩)⟩
        · exact ⟨List.prefix_refl _, fun _ reported => .inl reported⟩
    | aborted error =>
        obtain ⟨rfl, -⟩ := settled.describes
        cases ends
        exact ⟨Diagnostics.isPrefix_push _ _, Diagnostics.push_adds
          (.inr ⟨nofun, location_of_noRule noRule _⟩)⟩
  · cases interrupt with
    | exhausted => cases ends
    | fault fault =>
        simp only [reportOn] at ends
        split at ends
        · cases ends
          exact ⟨Diagnostics.isPrefix_push _ _,
            Diagnostics.push_adds (.inl rfl)⟩
        · cases ends

/-- For a valid grammar: every complaint in the report of a parse is what a call
of code has complained of, and is reported at the start of the match with which
the code was called and under the name of the rule to which the node of the code
belongs.  Every call is made by a visit to its node, and what it complains of is
in the report.  What is reported of the end of the parse names no rule. -/
theorem attributes_diagnostics (valid : session.grammar.error? = none)
    (starts : session.grammar.start? = some entry) {depth : Nat}
    {parsed : Parsed α} {log : Array LogEntry}
    (ends : session.parseWithin depth = some ⟨.parsed parsed, log⟩) :
    (∀ diagnostic ∈ parsed.diagnostics.toList, diagnostic.kind = .semantic →
        ∃ call ∈ session.calls depth,
          call.report? session = some diagnostic) ∧
      (∀ call ∈ session.calls depth,
        (∃ visit ∈ session.visits depth entry, visit.Makes session call) ∧
          ∀ diagnostic, call.report? session = some diagnostic →
            parsed.diagnostics.Shows diagnostic) ∧
      ∀ diagnostic ∈ parsed.diagnostics.toList,
        diagnostic.kind = .syntactic ∨ diagnostic.kind = .resourceExhausted →
          diagnostic.location = session.placeText diagnostic.position := by
  rw [parseWithin_eq starts valid] at ends
  obtain ⟨made, accounted⟩ := entering_accounts valid starts depth
  obtain ⟨kept, added⟩ := diagnostics_of_reportOn valid starts ends
  have origin : ∀ diagnostic ∈ (Eval.endState
      (session.entering depth entry)).diagnostics.toList,
      diagnostic.kind = .encoding ∨ diagnostic.kind = .semantic ∧
        ∃ call ∈ session.calls depth,
          call.report? session = some diagnostic := by
    intro diagnostic reported
    rcases accounted.reported diagnostic reported with
      earlier | malformed | ⟨call, isCall, reports⟩
    · cases earlier
    · exact .inl malformed
    · exact .inr ⟨CodeCall.kind_of_report? reports, call, isCall, reports⟩
  refine ⟨fun diagnostic reported complains => ?_, fun call isCall =>
    ⟨made call isCall, fun diagnostic reports => ?_⟩,
    fun diagnostic reported concludes => ?_⟩
  · rcases added diagnostic reported with earlier | fault | ⟨other, -⟩
    · rcases origin diagnostic earlier with malformed | ⟨-, fromCall⟩
      · simp [malformed] at complains
      · exact fromCall
    · simp [fault] at complains
    · exact absurd complains other
  · obtain ⟨earlier, reported, same⟩ :=
      accounted.shown call isCall diagnostic reports
    exact ⟨earlier, kept.subset reported, same⟩
  · rcases added diagnostic reported with earlier | fault | ⟨-, unnamed⟩
    · rcases origin diagnostic earlier with malformed | ⟨complains, -⟩
      · simp [malformed] at concludes
      · simp [complains] at concludes
    · simp [fault] at concludes
    · exact unnamed

end Session

namespace Grammar

/-- An action of one rule complains of the word that it has matched, and a
predicate of the other rule of what comes behind that. -/
def annotated : List (Rule Unit) :=
  [⟨"main", "",
      .sequence
        [.reference "word",
          .require (Code.pure fun _ => .complaint "unfinished")]⟩,
    ⟨"word", "noun",
      .action (.oneOrMore .any) (Code.pure fun _ => .complaint "too short")⟩]

def annotatedSession : Session Unit :=
  .ofSettings ⟨annotated⟩ "notes" ⟨#[0x61, 0x62]⟩ []

/-- Each of them is reported at its place and under its rule. -/
theorem annotated_attributed :
    annotatedSession.grammar.error? = none ∧
      (annotatedSession.calls 8).length = 2 ∧
      ∃ parsed log,
        annotatedSession.parseWithin 8 = some ⟨.parsed parsed, log⟩ ∧
          parsed.diagnostics.toList.map Diagnostic.render =
            ["notes:1:1 (0): rule noun: too short",
              "notes:1:3 (2): rule main: unfinished"] ∧
          (∀ diagnostic ∈ parsed.diagnostics.toList,
            diagnostic.kind = .semantic →
              ∃ call ∈ annotatedSession.calls 8,
                call.report? annotatedSession = some diagnostic) ∧
          ∀ call ∈ annotatedSession.calls 8, ∀ diagnostic,
            call.report? annotatedSession = some diagnostic →
              parsed.diagnostics.Shows diagnostic := by
  have ends : annotatedSession.parseWithin 8 = some ⟨.parsed _, _⟩ := rfl
  obtain ⟨reported, called, -⟩ := Session.attributes_diagnostics rfl rfl ends
  exact ⟨rfl, by decide +kernel, _, _, ends, by decide +kernel, reported,
    fun call isCall => (called call isCall).2⟩

end Grammar

end PegEngine
