import PegEngine.Proofs.Discipline

/-!
# The discipline of every expression

Each way of combining expressions keeps to the discipline if the evaluation of
the members does, wherever the expression calls them
(`Eval.evalNode_settles`).  By induction on the depth so does every evaluation
of an expression of a valid grammar (`Eval.evalExpr_settles`), and of a rule
(`Eval.evalRule_settles`).
-/

namespace PegEngine

open ParseState

namespace Eval

variable {α σ : Type} {session : Session α σ} {allowed : Prop}
  {state : ParseState α σ}

/-- A matcher that keeps to its specification keeps to the discipline. -/
theorem settles_matcher {qualifies : Nat → Prop} {index : Nat}
    {spans : Value α → Nat → Prop}
    {change : ParseState α σ → Verdict α × ParseState α σ}
    (ready : state.Ready session) (runs : state.Runs session index)
    (matchesTo : MatchesTo session qualifies state (change state))
    (spanned : ∀ finish, qualifies finish →
      spans (.text (session.input.extract state.cursor.offset finish)) finish) :
    Settles session allowed false spans state.cursor (modifyGet change)
      state := by
  obtain ⟨steady, stands, result⟩ := matchesTo
  have after := ready.steady steady runs stands
  refine ends_modifyGet.mpr ⟨after.toSound, steady.balanced,
    fun _ => by rw [steady.scopes], ?_⟩
  rcases result with ⟨isMatch, qualified⟩ | ⟨isFailure, back, _⟩
  · rw [isMatch]
    exact ⟨spanned _ qualified, after.within⟩
  · rw [isFailure]
    exact ⟨back, after.within⟩

section Members

variable {evaluate : ExprPlace → Expr α σ → Eval α σ (Verdict α)}
  {place : ExprPlace}

theorem evalSequence_settles {index : Nat} {exprs : List (Expr α σ)}
    {start : Cursor} (values : List (Value α))
    (stands : start.Stands session.input) (ready : state.Ready session)
    (members : ∀ (earlier later : List (Expr α σ)) (expr : Expr α σ)
      (found : List (Value α)) (inner : ParseState α σ),
      exprs = earlier ++ expr :: later →
        session.grammar.Spans session.input (.sequence earlier)
          state.cursor.offset (.list found) inner.cursor.offset →
        inner.Ready session → inner.activeRules = state.activeRules →
        state.expressions ≤ inner.expressions →
          Settles session allowed expr.bindsLabels
            (session.grammar.Spans session.input expr inner.cursor.offset)
            inner.cursor
            (evaluate (place.member (index + earlier.length)) expr) inner) :
    Settles session allowed (Expr.anyUsesScope exprs)
      (fun value finish => ∃ found, value = .list (values.reverse ++ found) ∧
        session.grammar.Spans session.input (.sequence exprs)
          state.cursor.offset (.list found) finish)
      start (evalSequence session evaluate place start index values exprs)
      state := by
  induction exprs generalizing index values state with
  | nil =>
      exact ⟨ready.toSound, .refl _, fun _ => rfl,
        ⟨[], by simp, .sequenceNil _⟩, ready.within⟩
  | cons expr exprs ih =>
      have first := members [] exprs expr [] state rfl (.sequenceNil _) ready
        rfl (Nat.le_refl _)
      apply ends_bind.mpr
      apply first.mono
      intro verdict after settled
      have labels : Expr.anyUsesScope (expr :: exprs) = false →
          Expr.anyUsesScope exprs = false ∧
            after.scopes.top = state.scopes.top := by
        intro nothing
        have apart := Expr.anyUsesScope_eq_false.mp nothing
        refine ⟨Expr.anyUsesScope_eq_false.mpr fun other isOther =>
          apart other (.tail _ isOther), ?_⟩
        exact settled.labels
          (Expr.bindsLabels_of_not_usesScope (apart expr (.head _)))
      cases verdict with
      | matched value =>
          have spans := settled.describes.1
          refine (ih (value :: values) settled.ready_of_matched ?_).mono
            fun verdict last rest => rest.following settled.balanced labels ?_
          · intro earlier later other found inner split spansEarlier ready
              sameRules counted
            have called := members (expr :: earlier) later other
              (value :: found) inner (by rw [split]; rfl)
              (.sequenceCons spans spansEarlier) ready
              (sameRules.trans settled.balanced.activeRules)
              (Nat.le_trans settled.balanced.expressions counted)
            rw [List.length_cons, ← Nat.succ_add_eq_add_succ] at called
            exact called
          · rintro _ finish ⟨found, rfl, spansLater⟩
            exact ⟨value :: found, by simp, .sequenceCons spans spansLater⟩
      | unmatched =>
          have restored := settled.restore stands
          exact ⟨restored.sound, restored.balanced,
            fun nothing => restored.labels
              (Expr.bindsLabels_of_not_usesScope
                (Expr.anyUsesScope_eq_false.mp nothing expr (.head _))),
            restored.describes⟩
      | aborted error =>
          exact ⟨settled.sound, settled.balanced,
            fun nothing => (labels nothing).2, settled.describes⟩

theorem evalChoice_settles (index : Nat) {exprs : List (Expr α σ)}
    (ready : state.Ready session)
    (members : ∀ (skipped : Nat) (expr : Expr α σ) (inner : ParseState α σ),
      exprs[skipped]? = some expr → inner.cursor = state.cursor →
        inner.Ready session → inner.activeRules = state.activeRules →
        state.expressions ≤ inner.expressions →
          Settles session allowed expr.bindsLabels
            (session.grammar.Spans session.input expr inner.cursor.offset)
            inner.cursor (evaluate (place.member (index + skipped)) expr)
            inner) :
    Settles session allowed false
      (fun value finish => ∃ expr ∈ exprs, session.grammar.Spans session.input
        expr state.cursor.offset value finish)
      state.cursor (evalChoice evaluate place index exprs) state := by
  induction exprs generalizing index state with
  | nil =>
      exact ⟨ready.toSound, .refl _, fun _ => rfl, rfl, ready.within⟩
  | cons expr exprs ih =>
      have first := settles_inScope (members 0 expr state.pushScope rfl rfl
        ready.pushScope rfl (Nat.le_refl _))
      apply ends_bind.mpr
      apply first.mono
      intro verdict after settled
      cases verdict with
      | matched value =>
          exact settled.conclude
            ⟨⟨expr, .head _, settled.describes.1⟩, settled.describes.2⟩
      | unmatched =>
          have back : after.cursor = state.cursor := settled.describes.1
          have later := ih (index + 1) settled.ready_of_unmatched ?_
          · rw [back] at later
            refine later.mono fun verdict last rest =>
              rest.following settled.balanced
                (fun _ => ⟨rfl, settled.labels rfl⟩) ?_
            rintro value finish ⟨other, isOther, spans⟩
            exact ⟨other, .tail _ isOther, spans⟩
          · intro skipped other inner isOther atStart ready sameRules counted
            rw [Nat.add_right_comm]
            exact members (skipped + 1) other inner isOther
              (atStart.trans back) ready
              (sameRules.trans settled.balanced.activeRules)
              (Nat.le_trans settled.balanced.expressions counted)
      | aborted error => exact settled.conclude settled.describes

end Members

/-- What the rounds of a repetition come to, as a verdict. -/
def ofRounds : Except ParseError (List (Value α)) → Verdict α
  | .ok values => .matched (.list values.reverse)
  | .error error => .aborted error

/-- There are enough rounds for every repetition, since all but the last one
consume something. -/
theorem evalRounds_settles {body : Expr α σ} {program : Eval α σ (Verdict α)}
    {rounds : Nat} (values : List (Value α)) (ready : state.Ready session)
    (enough : session.input.size < state.cursor.offset + rounds)
    (member : ∀ (found : List (Value α)) (inner : ParseState α σ),
      session.grammar.Spans session.input (.zeroOrMore body)
          state.cursor.offset (.list found) inner.cursor.offset →
        inner.Ready session → inner.activeRules = state.activeRules →
        state.expressions ≤ inner.expressions →
          Settles session allowed body.bindsLabels
            (session.grammar.Spans session.input body inner.cursor.offset)
            inner.cursor program inner) :
    Ends (evalRounds program rounds values)
      (fun result after => Settled session false
        (fun value finish => ∃ found,
          value = .list (values.reverse ++ found) ∧
          session.grammar.Spans session.input (.zeroOrMore body)
            state.cursor.offset (.list found) finish ∧
          (found = [] → finish = state.cursor.offset))
        state.cursor state (ofRounds result) after)
      (Within session) allowed state := by
  induction rounds generalizing values state with
  | zero =>
      have inside := ready.stands.boundary.le_size
      omega
  | succ rounds ih =>
      have first := settles_inScope (member [] state.pushScope
        (.zeroOrMoreNil _ _) ready.pushScope rfl (Nat.le_refl _))
      simp only [evalRounds, ends_bind, ends_cursor]
      apply first.mono
      intro verdict after settled
      cases verdict with
      | matched value =>
          have spans := settled.describes.1
          simp only [ends_bind, ends_cursor]
          by_cases stuck : after.cursor.offset = state.cursor.offset
          · rw [if_pos stuck]
            refine settled.conclude
              ⟨⟨[value], by simp, .zeroOrMoreCons spans (.zeroOrMoreNil _ _),
                by simp⟩, settled.describes.2⟩
          · rw [if_neg stuck]
            have forward : state.cursor.offset ≤ after.cursor.offset := spans.le
            refine (ih (value :: values) settled.ready_of_matched (by omega)
              ?_).mono_result ?_
            · intro found inner spansEarlier ready sameRules counted
              exact member (value :: found) inner
                (.zeroOrMoreCons spans spansEarlier) ready
                (sameRules.trans settled.balanced.activeRules)
                (Nat.le_trans settled.balanced.expressions counted)
            · intro result last rest
              have notUnmatched : ofRounds result ≠ .unmatched := by
                cases result <;> simp [ofRounds]
              apply (rest.restart notUnmatched).following settled.balanced
                (fun _ => ⟨rfl, settled.labels rfl⟩)
              rintro _ finish ⟨found, rfl, spansLater, _⟩
              exact ⟨value :: found, by simp,
                .zeroOrMoreCons spans spansLater, by simp⟩
      | unmatched =>
          have back : after.cursor = state.cursor := settled.describes.1
          refine settled.conclude ⟨⟨[], by simp, ?_, ?_⟩, settled.describes.2⟩
          · rw [back]
            exact .zeroOrMoreNil _ _
          · intro _
            rw [back]
      | aborted error => exact settled.conclude settled.describes

theorem evalRepetition_settles (body : Expr α σ)
    {program : Eval α σ (Verdict α)} (required : Nat) (atMostOne : required ≤ 1)
    (ready : state.Ready session)
    (member : ∀ (found : List (Value α)) (inner : ParseState α σ),
      session.grammar.Spans session.input (.zeroOrMore body)
          state.cursor.offset (.list found) inner.cursor.offset →
        inner.Ready session → inner.activeRules = state.activeRules →
        state.expressions ≤ inner.expressions →
          Settles session allowed body.bindsLabels
            (session.grammar.Spans session.input body inner.cursor.offset)
            inner.cursor program inner) :
    Settles session allowed false
      (fun value finish => ∃ found, value = .list found ∧
        required ≤ found.length ∧
        session.grammar.Spans session.input (.zeroOrMore body)
          state.cursor.offset (.list found) finish)
      state.cursor (evalRepetition session required program) state := by
  have inside := ready.stands.boundary.le_size
  simp only [evalRepetition, Settles, ends_bind, ends_cursor]
  refine (evalRounds_settles [] ready (by omega) member).mono_result ?_
  intro result after settled
  cases result with
  | error error => exact settled.conclude settled.describes
  | ok values =>
      obtain ⟨⟨found, same, spans, unmoved⟩, within⟩ := settled.describes
      have length : values.length = found.length := by
        have lists := Value.list.inj same
        simpa using congrArg List.length lists
      dsimp only
      by_cases few : values.length < required
      · rw [if_pos few]
        have nothing : found = [] := List.length_eq_zero_iff.mp (by omega)
        exact settled.conclude ⟨settled.sound.stands.eq_of_offset_eq
          ready.stands (unmoved nothing), within⟩
      · rw [if_neg few]
        exact settled.conclude ⟨⟨found, same, by omega, spans⟩, within⟩

section Rules

variable {rule : Rule α σ} {index : Nat} {spans : Value α → Nat → Prop}

theorem runRule_settles {program : Eval α σ (Verdict α)} {bindsLabels : Bool}
    (settles : Settles session allowed bindsLabels spans state.cursor program
      ((state.enterNode session (.rule rule.name)).enterRule rule)) :
    Settles session allowed false spans state.cursor
      (runRule session rule program) state := by
  have inside : Settles session allowed false spans state.cursor
      (inRule rule program) (state.enterNode session (.rule rule.name)) :=
    (ends_inRule rule).mpr (settles.mono fun _ _ settled => settled.leaveRule)
  have traced := settles_traced _ inside
  apply (ends_runRule session rule).mpr
  apply traced.mono
  intro verdict after settled
  cases verdict with
  | matched value => exact settled.traceMatch _
  | unmatched => exact settled
  | aborted error => exact settled

theorem evalRule_settles
    {evaluate : ExprPlace → Expr α σ → Eval α σ (Verdict α)}
    (isRule : session.grammar.rules[index]? = some rule)
    (ready : state.Ready session)
    (member : ∀ inner : ParseState α σ, inner.cursor = state.cursor →
      inner.Ready session → inner.Runs session index →
      state.expressions ≤ inner.expressions →
        Settles session allowed rule.body.bindsLabels
          (session.grammar.Spans session.input rule.body inner.cursor.offset)
          inner.cursor (evaluate (.body index) rule.body) inner) :
    Settles session allowed false
      (session.grammar.Spans session.input rule.body state.cursor.offset)
      state.cursor (evalRule session evaluate rule index) state := by
  have isNode : session.grammar.nodeExpr? (.rule index) = some rule.body := by
    simp [Grammar.nodeExpr?, isRule]
  let inner := (state.enterNode session (.rule rule.name)).enterRule rule
  have entered : inner.Ready session :=
    (ready.enterNode (.rule rule.name)).enterRule rule
  have atStart : inner.cursor = state.cursor := cursor_enterNode _
  have counted : state.expressions ≤ inner.expressions :=
    Nat.le_of_eq (expressions_enterNode _).symm
  have called :=
    member inner atStart entered (runs_enterRule isRule) counted
  rw [atStart] at called
  exact settles_memoized _ isNode ready (runRule_settles called)

end Rules

/-- Code that gives an answer or a complaint; the state is otherwise left as it
is. -/
theorem runCode_ends {β : Type} {code : Code α σ β} {start : Cursor}
    {value : Value α} {onResult : Except String β → ParseState α σ → Prop}
    (within : state.Within session)
    (answered : ∀ result store,
      code (state.context session start value) = (.answer result, store) →
        onResult (.ok result) { state with store := store })
    (complained : ∀ message store,
      code (state.context session start value) =
          (.complaint message, store) →
        onResult (.error message) { state with store := store }) :
    Ends (runCode session code start value) onResult (Within session) allowed
      state := by
  rw [ends_runCode]
  rcases replied : code (state.context session start value) with ⟨reply, store⟩
  cases reply with
  | answer result => exact answered result store replied
  | complaint message => exact complained message store replied
  | failure fault => exact within

theorem evalAction_settles {body : Expr α σ} {run : Action α σ} {index : Nat}
    {program : Eval α σ (Verdict α)} (runs : state.Runs session index)
    (settles : Settles session allowed body.bindsLabels
      (session.grammar.Spans session.input body state.cursor.offset)
      state.cursor program state) :
    Settles session allowed true
      (session.grammar.Spans session.input (.action body run)
        state.cursor.offset)
      state.cursor (evalAction session run program) state := by
  simp only [evalAction, Settles, ends_bind, ends_cursor]
  apply settles.mono
  intro verdict after settled
  have binding := settled.binding
  cases verdict with
  | unmatched => exact binding.conclude settled.describes
  | aborted error => exact binding.conclude settled.describes
  | matched value =>
      obtain ⟨spans, within⟩ := settled.describes
      have concluded : ∀ result : Value α,
          session.grammar.Spans session.input (.action body run)
            state.cursor.offset result after.cursor.offset →
          Settled session true
            (session.grammar.Spans session.input (.action body run)
              state.cursor.offset)
            state.cursor state (.matched result) after :=
        fun result spans => binding.conclude ⟨spans, within⟩
      simp only [ends_bind, ends_modify]
      refine runCode_ends within ?_ ?_
      · intro result store replied
        have sameText : (after.context session state.cursor value).text =
            session.input.extract state.cursor.offset after.cursor.offset :=
          rfl
        have answered := concluded result
          (.answered spans sameText rfl (by rw [replied]))
        exact (answered.unseen store after.log).traceMatch _
      · intro message store replied
        have complained := concluded .nil (.complained spans)
        exact ((complained.unseen store after.log).traceMatch _).report _ _ runs

theorem evalPredicate_settles {test : Predicate α σ} {expected : Bool}
    {index : Nat} {spans : Value α → Nat → Prop} (ready : state.Ready session)
    (runs : state.Runs session index)
    (spanned : spans .nil state.cursor.offset) :
    Settles session allowed false spans state.cursor
      (evalPredicate session test expected) state := by
  have settled : ∀ (verdict : Verdict α) (store : Store σ),
      verdict.Describes session spans state.cursor state →
        Settled session false spans state.cursor state verdict
          { state with store := store } := by
    intro verdict store describes
    have unchanged : Settled session false spans state.cursor state verdict
        state :=
      ⟨ready.toSound, .refl _, fun _ => rfl, describes⟩
    exact unchanged.unseen store state.log
  simp only [evalPredicate, Settles, ends_bind, ends_cursor]
  refine runCode_ends ready.within ?_ ?_
  · intro holds store _
    dsimp only
    split
    · exact settled (.matched .nil) store ⟨spanned, ready.within⟩
    · exact settled .unmatched store ⟨rfl, ready.within⟩
  · intro message store _
    have complained := settled (.matched .nil) store ⟨spanned, ready.within⟩
    exact complained.report _ _ runs

/-- An expression keeps to the discipline, whatever rule is the innermost one,
if all that it calls does: a member from the same rule, the body of a rule from
that rule. -/
theorem evalNode_settles
    {evaluate : ExprPlace → Expr α σ → Eval α σ (Verdict α)} {place : ExprPlace}
    {expr : Expr α σ} {active : Nat} (valid : session.grammar.error? = none)
    (found : session.grammar.exprAt? place = some expr)
    (ready : state.Ready session) (runs : state.Runs session active)
    (members : ∀ (callee : ExprPlace) (called : Expr α σ)
      (inner : ParseState α σ) (current : Nat),
      session.grammar.Calls session.input place state.cursor.offset expr callee
          called inner.cursor.offset →
        inner.Ready session → inner.Runs session current →
        (active = place.rule → current = callee.rule) →
        state.expressions ≤ inner.expressions →
          Settles session allowed called.bindsLabels
            (session.grammar.Spans session.input called inner.cursor.offset)
            inner.cursor (evaluate callee called) inner) :
    Settles session allowed expr.bindsLabels
      (session.grammar.Spans session.input expr state.cursor.offset)
      state.cursor (evalNode session evaluate place expr) state := by
  cases expr with
  | literal text ignoresCase =>
      exact settles_matcher ready runs
        (matchLiteral_spec session text ignoresCase state ready.stands)
        fun finish spelled => .literal spelled
  | oneOf charClass =>
      apply settles_matcher ready runs
        (matchChar_spec session _ _ state ready.stands)
      rintro finish ⟨char, read, accepted, rfl⟩
      exact .oneOf read accepted
  | any =>
      apply settles_matcher ready runs
        (matchChar_spec session _ _ state ready.stands)
      rintro finish ⟨char, read, -, rfl⟩
      exact .any read
  | sequence exprs =>
      simp only [evalNode, Settles, ends_bind, ends_cursor]
      refine (evalSequence_settles [] ready.stands ready ?_).mono ?_
      · intro earlier later expr values inner split spans ready sameRules
          counted
        rw [Nat.zero_add]
        exact members _ _ inner _ (.sequence split spans) ready
          (runs.of_eq sameRules) id counted
      · intro verdict after settled
        apply settled.following (.refl _) (fun nothing => ⟨nothing, rfl⟩)
        rintro _ finish ⟨values, rfl, spans⟩
        exact spans
  | choice exprs =>
      refine (evalChoice_settles 0 ready ?_).mono ?_
      · intro skipped expr inner isAlternative atStart ready sameRules counted
        rw [Nat.zero_add]
        exact members _ _ inner _ (atStart ▸ .choice isAlternative) ready
          (runs.of_eq sameRules) id counted
      · intro verdict after settled
        apply settled.following (.refl _) (fun _ => ⟨rfl, rfl⟩)
        rintro value finish ⟨expr, isAlternative, spans⟩
        exact .choice isAlternative spans
  | zeroOrMore body =>
      refine (evalRepetition_settles body 0 (Nat.zero_le _) ready ?_).mono ?_
      · intro values inner spans ready sameRules counted
        exact members _ _ inner _ (.zeroOrMore spans) ready
          (runs.of_eq sameRules) id counted
      · intro verdict after settled
        apply settled.following (.refl _) (fun _ => ⟨rfl, rfl⟩)
        rintro _ finish ⟨values, rfl, -, spans⟩
        exact spans
  | oneOrMore body =>
      refine (evalRepetition_settles body 1 (Nat.le_refl _) ready ?_).mono ?_
      · intro values inner spans ready sameRules counted
        exact members _ _ inner _ (.oneOrMore spans) ready
          (runs.of_eq sameRules) id counted
      · intro verdict after settled
        apply settled.following (.refl _) (fun _ => ⟨rfl, rfl⟩)
        rintro _ finish ⟨values, rfl, atLeastOne, spans⟩
        cases spans with
        | zeroOrMoreNil => simp at atLeastOne
        | zeroOrMoreCons first later => exact .oneOrMore first later
  | optional body =>
      have inside := members _ _ state.pushScope _ (.optional body)
        ready.pushScope runs id (Nat.le_refl _)
      apply ends_bind.mpr
      apply (settles_inScope inside).mono
      intro verdict after settled
      cases verdict with
      | matched value =>
          exact settled.conclude
            ⟨.optionalSome settled.describes.1, settled.describes.2⟩
      | unmatched =>
          refine settled.conclude ⟨?_, settled.describes.2⟩
          rw [settled.describes.1]
          exact .optionalNone body _
      | aborted error => exact settled.conclude settled.describes
  | followedBy body =>
      have inside := members _ _ state.pushScope _ (.followedBy body)
        ready.pushScope runs id (Nat.le_refl _)
      apply ends_bind.mpr
      apply (settles_lookahead ready inside).mono
      intro verdict after settled
      cases verdict with
      | matched value =>
          refine settled.conclude ⟨?_, settled.describes.2⟩
          rw [settled.describes.1]
          exact .followedBy body _
      | unmatched => exact settled.conclude settled.describes
      | aborted error => exact settled.conclude settled.describes
  | notFollowedBy body =>
      have inside := members _ _ state.pushScope.toggle _
        (.notFollowedBy body) ready.pushScope.toggle runs id (Nat.le_refl _)
      apply ends_bind.mpr
      apply (settles_lookahead ready (settles_underNot inside)).mono
      intro verdict after settled
      cases verdict with
      | matched value =>
          exact settled.conclude ⟨settled.sound.stands.eq_of_offset_eq
            ready.stands settled.describes.1, settled.describes.2⟩
      | unmatched =>
          refine settled.conclude ⟨?_, settled.describes.2⟩
          rw [settled.describes.1]
          exact .notFollowedBy body _
      | aborted error => exact settled.conclude settled.describes
  | labeled label body =>
      have inside := members _ _ state.pushScope _ (.labeled label body)
        ready.pushScope runs id (Nat.le_refl _)
      apply ends_bind.mpr
      apply (settles_inScope inside).mono
      intro verdict after settled
      have binding := settled.binding
      cases verdict with
      | matched value =>
          have labeled : Settled session true
              (session.grammar.Spans session.input (.labeled label body)
                state.cursor.offset)
              state.cursor state (.matched value) after :=
            binding.conclude ⟨.labeled settled.describes.1, settled.describes.2⟩
          exact labeled.bind label value
      | unmatched => exact binding.conclude settled.describes
      | aborted error => exact binding.conclude settled.describes
  | reference name =>
      obtain ⟨named, rule, index, target⟩ :=
        Grammar.target?_of_valid valid found
      simp only [evalNode, evalReference, named, target]
      have isRule := Grammar.rule_of_target? target
      refine (evalRule_settles isRule ready ?_).mono ?_
      · intro inner atStart ready runs counted
        exact members _ _ inner _ (atStart ▸ .reference target) ready runs
          (fun _ => rfl) counted
      · intro verdict after settled
        exact settled.following (.refl _) (fun _ => ⟨rfl, rfl⟩)
          fun _ _ spans => .reference target spans
  | action body run =>
      exact evalAction_settles runs (members _ _ state _ (.action body run)
        ready runs id (Nat.le_refl _))
  | require test => exact evalPredicate_settles ready runs (.require test _)
  | forbid test => exact evalPredicate_settles ready runs (.forbid test _)

/-- One more level of evaluation keeps to the discipline if the levels below it
do.  Whatever is called is called after the expression has been counted. -/
theorem evalExpr_succ_settles_from {depth : Nat} {place : ExprPlace}
    {expr : Expr α σ} {active : Nat} (valid : session.grammar.error? = none)
    (found : session.grammar.exprAt? place = some expr)
    (ready : state.Ready session) (runs : state.Runs session active)
    (members : ∀ (callee : ExprPlace) (called : Expr α σ)
      (inner : ParseState α σ) (current : Nat),
      session.grammar.Calls session.input place state.cursor.offset expr callee
          called inner.cursor.offset →
        inner.Ready session → inner.Runs session current →
        (active = place.rule → current = callee.rule) →
        state.expressions < inner.expressions →
          Settles session allowed called.bindsLabels
            (session.grammar.Spans session.input called inner.cursor.offset)
            inner.cursor (evalExpr session depth callee called) inner) :
    Settles session allowed expr.bindsLabels
      (session.grammar.Spans session.input expr state.cursor.offset)
      state.cursor (evalExpr session (depth + 1) place expr) state := by
  refine settles_memoized _ found ready
    (settles_counted expr ready rfl fun entered ready atStart sameRules
      counted => ?_)
  rw [← atStart]
  apply evalNode_settles valid found ready (runs.of_eq sameRules)
  intro callee called inner current calls ready runs same more
  rw [atStart] at calls
  exact members callee called inner current calls ready runs same (by omega)

theorem evalExpr_succ_settles {depth : Nat} {place : ExprPlace}
    {expr : Expr α σ} (valid : session.grammar.error? = none)
    (found : session.grammar.exprAt? place = some expr)
    (ready : state.Ready session) (runs : state.Runs session place.rule)
    (members : ∀ (callee : ExprPlace) (called : Expr α σ)
      (inner : ParseState α σ),
      session.grammar.Calls session.input place state.cursor.offset expr callee
          called inner.cursor.offset →
        inner.Ready session → inner.Runs session callee.rule →
        state.expressions < inner.expressions →
          Settles session allowed called.bindsLabels
            (session.grammar.Spans session.input called inner.cursor.offset)
            inner.cursor (evalExpr session depth callee called) inner) :
    Settles session allowed expr.bindsLabels
      (session.grammar.Spans session.input expr state.cursor.offset)
      state.cursor (evalExpr session (depth + 1) place expr) state :=
  evalExpr_succ_settles_from valid found ready runs
    fun callee called inner _ calls ready runs same counted =>
      members callee called inner calls ready (same rfl ▸ runs) counted

/-- Every evaluation of an expression of a valid grammar keeps to the
discipline, whatever rule is the innermost one. -/
theorem evalExpr_settles {active : Nat}
    (valid : session.grammar.error? = none) (depth : Nat) {place : ExprPlace}
    {expr : Expr α σ} (found : session.grammar.exprAt? place = some expr)
    (ready : state.Ready session) (runs : state.Runs session active) :
    Settles session True expr.bindsLabels
      (session.grammar.Spans session.input expr state.cursor.offset)
      state.cursor (evalExpr session depth place expr) state := by
  induction depth generalizing place expr state active with
  | zero => trivial
  | succ depth ih =>
      exact evalExpr_succ_settles_from valid found ready runs
        fun _ _ _ _ calls ready runs _ _ =>
          ih (calls.placed found) ready runs

end Eval

end PegEngine
