import PegEngine.Proofs.Outcomes

/-!
# Evaluations side by side

`Eval.Paired` compares two evaluations, each from a state of its own: the second
one comes to the same result or to the same fault as the first one, and what
they leave behind is related.  An evaluation that runs out of depth is not
compared.  As for `Eval.Ends`, there is one lemma for each way of putting
evaluations together.
-/

namespace PegEngine

namespace Eval

variable {α σ β γ : Type}

/-- The second program comes to what the first one comes to, unless that runs
out of depth. -/
structure Paired (first second : Eval α σ β)
    (onResult : β → ParseState α σ → ParseState α σ → Prop)
    (onFault : ParseState α σ → ParseState α σ → Prop)
    (left right : ParseState α σ) : Prop where
  result : ∀ value after, first left = .ok value after →
    ∃ other, second right = .ok value other ∧ onResult value after other
  fault : ∀ fault after, first left = .error (.fault fault) after →
    ∃ other, second right = .error (.fault fault) other ∧ onFault after other

section Rules

variable {first second : Eval α σ β}
  {onResult : β → ParseState α σ → ParseState α σ → Prop}
  {onFault : ParseState α σ → ParseState α σ → Prop}
  {left right : ParseState α σ}

theorem Paired.of_exhausted {after : ParseState α σ}
    (exhausted : first left = .error .exhausted after) :
    Paired first second onResult onFault left right where
  result value after run := by
    rw [exhausted] at run
    cases run
  fault reason after run := by
    rw [exhausted] at run
    cases run

/-- From what is related after the programs to what is weaker, with faults left
as they are. -/
theorem Paired.imp {weaker : β → ParseState α σ → ParseState α σ → Prop}
    (paired : Paired first second onResult onFault left right)
    (result : ∀ value after other, onResult value after other →
      weaker value after other) :
    Paired first second weaker onFault left right where
  result value after run := by
    obtain ⟨other, runToo, related⟩ := paired.result value after run
    exact ⟨other, runToo, result value after other related⟩
  fault := paired.fault

/-- Only the runs of the programs from their own states matter. -/
theorem Paired.of_runs {other otherToo : Eval α σ β}
    {start startToo : ParseState α σ}
    (paired : Paired first second onResult onFault left right)
    (same : other start = first left)
    (sameToo : otherToo startToo = second right) :
    Paired other otherToo onResult onFault start startToo where
  result := by
    rw [same, sameToo]
    exact paired.result
  fault := by
    rw [same, sameToo]
    exact paired.fault

/-- What holds of each of two programs holds of them as a pair. -/
theorem Paired.and_ends {leftResult rightResult : β → ParseState α σ → Prop}
    {leftFault rightFault : ParseState α σ → Prop}
    {leftExhausted rightExhausted : Prop}
    (paired : Paired first second onResult onFault left right)
    (ends : Ends first leftResult leftFault leftExhausted left)
    (endsToo : Ends second rightResult rightFault rightExhausted right) :
    Paired first second
      (fun value after other => onResult value after other ∧
        leftResult value after ∧ rightResult value other)
      onFault left right where
  result value after run := by
    obtain ⟨other, runToo, related⟩ := paired.result value after run
    exact ⟨other, runToo, related, ends.result run, endsToo.result runToo⟩
  fault := paired.fault

theorem paired_pure {result : β} (related : onResult result left right) :
    Paired (pure result) (pure result) onResult onFault left right where
  result := by
    rintro _ _ ⟨⟩
    exact ⟨right, rfl, related⟩
  fault := nofun

theorem paired_throw (fault : Fault) (related : onFault left right) :
    Paired (throw (.fault fault)) (throw (.fault fault)) onResult onFault left
      right where
  result := nofun
  fault := by
    rintro _ _ ⟨⟩
    exact ⟨right, rfl, related⟩

theorem paired_bind {next other : β → Eval α σ γ}
    {onResult : γ → ParseState α σ → ParseState α σ → Prop}
    (paired : Paired first second
      (fun value => Paired (next value) (other value) onResult onFault) onFault
      left right) :
    Paired (first >>= next) (second >>= other) onResult onFault left right where
  result value after run := by
    simp only [Bind.bind, EStateM.bind] at run ⊢
    cases start : first left with
    | ok middle between =>
        rw [start] at run
        obtain ⟨betweenToo, startToo, later⟩ := paired.result _ _ start
        rw [startToo]
        exact later.result value after run
    | error interrupt between =>
        rw [start] at run
        cases run
  fault reason after run := by
    simp only [Bind.bind, EStateM.bind] at run ⊢
    cases start : first left with
    | ok middle between =>
        rw [start] at run
        obtain ⟨betweenToo, startToo, later⟩ := paired.result _ _ start
        rw [startToo]
        exact later.fault reason after run
    | error interrupt between =>
        rw [start] at run
        obtain ⟨rfl, rfl⟩ : interrupt = .fault reason ∧ between = after := by
          cases run
          exact ⟨rfl, rfl⟩
        obtain ⟨betweenToo, startToo, related⟩ := paired.fault _ _ start
        rw [startToo]
        exact ⟨betweenToo, rfl, related⟩

theorem paired_modify {change : ParseState α σ → ParseState α σ}
    {onResult : PUnit → ParseState α σ → ParseState α σ → Prop}
    {changeToo : ParseState α σ → ParseState α σ}
    (related : onResult .unit (change left) (changeToo right)) :
    Paired (modify change) (modify changeToo) onResult onFault left right where
  result := by
    rintro _ _ ⟨⟩
    exact ⟨changeToo right, rfl, related⟩
  fault := nofun

theorem paired_modifyGet
    {change changeToo : ParseState α σ → β × ParseState α σ}
    (same : (changeToo right).1 = (change left).1)
    (related : onResult (change left).1 (change left).2 (changeToo right).2) :
    Paired (modifyGet change) (modifyGet changeToo) onResult onFault left
      right where
  result := by
    rintro _ _ ⟨⟩
    exact ⟨(changeToo right).2, congrArg (EStateM.Result.ok · _) same, related⟩
  fault := nofun

theorem paired_cursor
    {onResult : Cursor → ParseState α σ → ParseState α σ → Prop}
    (same : right.cursor = left.cursor)
    (related : onResult left.cursor left right) :
    Paired cursor cursor onResult onFault left right where
  result := by
    rintro _ _ ⟨⟩
    exact ⟨right, congrArg (EStateM.Result.ok · right) same, related⟩
  fault := nofun

/-- Programs that run between two changes of the state. -/
theorem paired_between
    {enter leave enterToo leaveToo : ParseState α σ → ParseState α σ}
    (paired : Paired first second
      (fun value after other => onResult value (leave after) (leaveToo other))
      onFault (enter left) (enterToo right)) :
    Paired
      (do
        modify enter
        let value ← first
        modify leave
        return value)
      (do
        modify enterToo
        let value ← second
        modify leaveToo
        return value)
      onResult onFault left right := by
  refine paired_bind (paired_modify (paired_bind (paired.imp ?_)))
  intro value after other related
  exact paired_bind (paired_modify (paired_pure related))

theorem paired_inScope
    (paired : Paired first second
      (fun value after other => onResult value after.popScope other.popScope)
      onFault left.pushScope right.pushScope) :
    Paired (inScope first) (inScope second) onResult onFault left right :=
  paired_between paired

theorem paired_underNot
    (paired : Paired first second
      (fun value after other => onResult value after.toggle other.toggle)
      onFault left.toggle right.toggle) :
    Paired (underNot first) (underNot second) onResult onFault left right :=
  paired_between paired

theorem paired_inRule (rule : Rule α σ)
    (paired : Paired first second
      (fun value after other => onResult value after.leaveRule other.leaveRule)
      onFault (left.enterRule rule) (right.enterRule rule)) :
    Paired (inRule rule first) (inRule rule second) onResult onFault left
      right :=
  paired_between paired

variable {session other : Session α σ}

theorem paired_traced (subject : Subject)
    (paired : Paired first second
      (fun value after afterToo => onResult value
        (after.leaveNode session subject) (afterToo.leaveNode other subject))
      onFault (left.enterNode session subject)
      (right.enterNode other subject)) :
    Paired (traced session subject first) (traced other subject second) onResult
      onFault left right :=
  paired_between paired

theorem get_bind (next : ParseState α σ → Eval α σ β) (state : ParseState α σ) :
    (get >>= next) state = next state state :=
  rfl

theorem runCode_eq (session : Session α σ) (code : Code α σ β) (start : Cursor)
    (value : Value α) (state : ParseState α σ) :
    runCode session code start value state =
      match code (state.context session start value) with
      | (.answer result, store) =>
        .ok (.ok result) { state with store := store }
      | (.complaint message, store) =>
        .ok (.error message) { state with store := store }
      | (.failure fault, store) =>
        .error (.fault fault) { state with store := store } := by
  unfold runCode
  rw [get_bind]
  rcases code (state.context session start value) with ⟨reply, store⟩
  cases reply <;> rfl

/-- Code that replies the same to both programs may leave different stores. -/
theorem paired_runCode {code : Code α σ β} {start : Cursor} {value : Value α}
    {onResult : Except String β → ParseState α σ → ParseState α σ → Prop}
    (sameReply : (code (right.context other start value)).1 =
      (code (left.context session start value)).1)
    (replied : ∀ reply store storeToo,
      onResult reply { left with store := store }
        { right with store := storeToo })
    (failed : ∀ store storeToo,
      onFault { left with store := store }
        { right with store := storeToo }) :
    Paired (runCode session code start value) (runCode other code start value)
      onResult onFault left right := by
  have run := runCode_eq session code start value left
  have runToo := runCode_eq other code start value right
  generalize code (left.context session start value) = given at sameReply run
  generalize code (right.context other start value) = givenToo
    at sameReply runToo
  obtain ⟨reply, store⟩ := given
  obtain ⟨replyToo, storeToo⟩ := givenToo
  obtain rfl : reply = replyToo := sameReply.symm
  cases reply with
  | answer result =>
      refine ⟨fun found after same => ?_, fun fault after same => ?_⟩
      · cases run.symm.trans same
        exact ⟨_, runToo, replied _ _ _⟩
      · cases run.symm.trans same
  | complaint message =>
      refine ⟨fun found after same => ?_, fun fault after same => ?_⟩
      · cases run.symm.trans same
        exact ⟨_, runToo, replied _ _ _⟩
      · cases run.symm.trans same
  | failure fault =>
      refine ⟨fun found after same => ?_, fun fault after same => ?_⟩
      · cases run.symm.trans same
      · cases run.symm.trans same
        exact ⟨_, runToo, failed _ _⟩

section Verdicts

variable {first second : Eval α σ (Verdict α)}
  {onResult : Verdict α → ParseState α σ → ParseState α σ → Prop}

theorem paired_lookahead (same : right.cursor = left.cursor)
    (paired : Paired first second
      (fun verdict after afterToo => onResult verdict
        (after.popScope.restore session left.cursor)
        (afterToo.popScope.restore other left.cursor))
      onFault left.pushScope right.pushScope) :
    Paired (lookahead session first) (lookahead other second) onResult onFault
      left right := by
  refine paired_bind (paired_cursor same (paired_bind (paired_inScope
    (paired.imp ?_))))
  intro verdict after afterToo related
  exact paired_bind (paired_modify (paired_pure related))

/-- An expression that passes the limit is counted, and not evaluated. -/
theorem counted_run (session : Session α σ) (expr : Expr α σ)
    (program : Eval α σ (Verdict α)) (state : ParseState α σ) :
    counted session expr program state =
      if state.countExpression.overLimit session then
        .ok (.aborted .maxExpressions) state.countExpression
      else
        traced session (.expression expr.kindName) program
          state.countExpression := by
  change (if state.countExpression.overLimit session then
    return .aborted .maxExpressions
  else traced session (.expression expr.kindName) program :
    Eval α σ (Verdict α)) state.countExpression = _
  split <;> rfl

theorem paired_counted (expr : Expr α σ)
    (unlimited : session.options.maxExpressions = none)
    (unlimitedToo : other.options.maxExpressions = none)
    (paired : Paired (traced session (.expression expr.kindName) first)
      (traced other (.expression expr.kindName) second) onResult onFault
      left.countExpression right.countExpression) :
    Paired (counted session expr first) (counted other expr second) onResult
      onFault left right := by
  have within : ¬ left.countExpression.overLimit session = true := by
    simp [ParseState.overLimit, unlimited]
  have withinToo : ¬ right.countExpression.overLimit other = true := by
    simp [ParseState.overLimit, unlimitedToo]
  refine paired.of_runs ?_ ?_
  · rw [counted_run, if_neg within]
  · rw [counted_run, if_neg withinToo]

theorem memoized_of_kept {node : NodeKey} {entry : MemoEntry α}
    (kept : right.memo.lookup (right.memoKey node) = some entry) :
    memoized session true node second right =
      .ok (.ofResult entry.value) (right.restore session entry.finish) := by
  simp only [memoized, if_true]
  rw [get_bind, get_bind, kept]
  rfl

theorem memoized_of_not_kept {node : NodeKey}
    (notKept : right.memo.lookup (right.memoKey node) = none) :
    memoized session true node second right =
      (do
        let verdict ← second
        modify (ParseState.rememberVerdict (right.memoKey node) verdict)
        return verdict : Eval α σ (Verdict α)) right := by
  simp only [memoized, if_true]
  rw [get_bind, get_bind, notKept]
  refine congrFun (congrArg (second >>= ·) ?_) right
  funext verdict
  cases verdict <;> rfl

/-- Only the second program keeps what it comes to. -/
theorem paired_of_remember {key : MemoKey}
    (paired : Paired first second
      (fun verdict after afterToo => onResult verdict after
        (afterToo.rememberVerdict key verdict))
      onFault left right) :
    Paired first
      (do
        let verdict ← second
        modify (ParseState.rememberVerdict key verdict)
        return verdict)
      onResult onFault left right := by
  rw [← bind_pure first]
  refine paired_bind (paired.imp ?_)
  intro verdict after afterToo related
  refine ⟨?_, nofun⟩
  rintro _ _ ⟨⟩
  exact ⟨_, rfl, related⟩

/-- The result of a node is replayed in place of an evaluation that comes to
it. -/
theorem paired_memoized {enabled : Bool} {node : NodeKey}
    (evaluated : enabled = false →
      Paired first second onResult onFault left right)
    (replayed : ∀ entry, enabled = true →
      right.memo.lookup (right.memoKey node) = some entry →
        Ends first
          (fun verdict after => verdict = .ofResult entry.value ∧
            onResult verdict after (right.restore other entry.finish))
          (fun _ => False) True left)
    (kept : enabled = true →
      right.memo.lookup (right.memoKey node) = none →
        Paired first second
          (fun verdict after afterToo => onResult verdict after
            (afterToo.rememberVerdict (right.memoKey node) verdict))
          onFault left right) :
    Paired first (memoized other enabled node second) onResult onFault left
      right := by
  cases enabled with
  | false => exact evaluated rfl
  | true =>
      cases found : right.memo.lookup (right.memoKey node) with
      | some entry =>
          have ends := replayed entry rfl found
          refine ⟨fun verdict after run => ?_, fun reason after run => ?_⟩
          · obtain ⟨rfl, related⟩ := ends.result run
            exact ⟨_, memoized_of_kept found, related⟩
          · exact (ends.fault run).elim
      | none =>
          exact (paired_of_remember (kept rfl found)).of_runs rfl
            (memoized_of_not_kept found)

/-- The first program may replay the result of a node as well, provided that the
second one comes to it. -/
theorem paired_of_memoized {enabled : Bool} {node : NodeKey}
    (evaluated : enabled = false →
      Paired first second onResult onFault left right)
    (replayed : ∀ entry, enabled = true →
      left.memo.lookup (left.memoKey node) = some entry →
        ∃ last, second right = .ok (.ofResult entry.value) last ∧
          onResult (.ofResult entry.value) (left.restore session entry.finish)
            last)
    (kept : enabled = true →
      left.memo.lookup (left.memoKey node) = none →
        Paired first second
          (fun verdict after => onResult verdict
            (after.rememberVerdict (left.memoKey node) verdict))
          onFault left right) :
    Paired (memoized session enabled node first) second onResult onFault left
      right := by
  cases enabled with
  | false => exact evaluated rfl
  | true =>
      cases found : left.memo.lookup (left.memoKey node) with
      | some entry =>
          obtain ⟨last, run, related⟩ := replayed entry rfl found
          have replay : memoized session true node first left =
              .ok (.ofResult entry.value) (left.restore session entry.finish) :=
            memoized_of_kept found
          refine ⟨fun verdict after same => ?_, fun fault after same => ?_⟩
          · cases replay.symm.trans same
            exact ⟨last, run, related⟩
          · cases replay.symm.trans same
      | none =>
          have remembered : Paired
              (do
                let verdict ← first
                modify (ParseState.rememberVerdict (left.memoKey node) verdict)
                return verdict)
              (second >>= pure) onResult onFault left right := by
            apply paired_bind
            apply (kept rfl found).imp
            intro verdict after afterToo related
            refine ⟨?_, nofun⟩
            rintro _ _ ⟨⟩
            exact ⟨_, rfl, related⟩
          rw [bind_pure] at remembered
          exact remembered.of_runs (memoized_of_not_kept found) rfl

end Verdicts

end Rules

end Eval

end PegEngine
