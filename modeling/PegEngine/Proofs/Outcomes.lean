import PegEngine.Evaluation.Depth

/-!
# What holds when an evaluation ends

An evaluation ends with a result, with a fault, or for want of depth.
`Eval.Ends` says what is to hold in each case.  For each way of putting
evaluations together there is one lemma here that leads back to the parts, so
that no later proof has to open the definitions.
-/

namespace PegEngine

namespace ParseState

variable {α σ : Type}

/-- Keep the result of a verdict, unless the evaluation was given up. -/
def rememberVerdict (key : MemoKey) (verdict : Verdict α)
    (state : ParseState α σ) : ParseState α σ :=
  match verdict with
  | .matched value => state.remember key (some value)
  | .unmatched => state.remember key none
  | .aborted _ => state

end ParseState

namespace Eval

variable {α σ β γ : Type}

/-- What holds after a program: one thing if it gives a result, another if code
fails, a third if the depth does not suffice. -/
def Ends (program : Eval α σ β) (onResult : β → ParseState α σ → Prop)
    (onFault : ParseState α σ → Prop) (onExhausted : Prop)
    (state : ParseState α σ) : Prop :=
  match program state with
  | .ok result after => onResult result after
  | .error (.fault _) after => onFault after
  | .error .exhausted _ => onExhausted

section Rules

variable {program : Eval α σ β} {onResult : β → ParseState α σ → Prop}
  {onFault : ParseState α σ → Prop} {onExhausted : Prop}
  {state : ParseState α σ}

theorem Ends.mono {weakerResult : β → ParseState α σ → Prop}
    {weakerFault : ParseState α σ → Prop} {weakerExhausted : Prop}
    (ends : Ends program onResult onFault onExhausted state)
    (result : ∀ value after, onResult value after → weakerResult value after)
    (fault : ∀ after, onFault after → weakerFault after)
    (exhausted : onExhausted → weakerExhausted) :
    Ends program weakerResult weakerFault weakerExhausted state := by
  unfold Ends at ends ⊢
  split
  · simp_all
  · simp_all
  · simp_all

/-- Most often only what holds of a result is weakened. -/
theorem Ends.mono_result {weaker : β → ParseState α σ → Prop}
    (ends : Ends program onResult onFault onExhausted state)
    (result : ∀ value after, onResult value after → weaker value after) :
    Ends program weaker onFault onExhausted state :=
  ends.mono result (fun _ fault => fault) id

/-- Of the result it may be used that the program gives it. -/
theorem Ends.mono_run {weaker : β → ParseState α σ → Prop}
    (ends : Ends program onResult onFault onExhausted state)
    (result : ∀ value after, program state = .ok value after →
      onResult value after → weaker value after) :
    Ends program weaker onFault onExhausted state := by
  unfold Ends at ends ⊢
  split
  case h_1 value after run =>
    rw [run] at ends
    exact result value after run ends
  case h_2 run => simpa only [run] using ends
  case h_3 run => simpa only [run] using ends

/-- So it may of a fault. -/
theorem Ends.mono_runs {weaker : β → ParseState α σ → Prop}
    {weakerFault : ParseState α σ → Prop}
    (ends : Ends program onResult onFault onExhausted state)
    (result : ∀ value after, program state = .ok value after →
      onResult value after → weaker value after)
    (fault : ∀ fault after, program state = .error (.fault fault) after →
      onFault after → weakerFault after) :
    Ends program weaker weakerFault onExhausted state := by
  unfold Ends at ends ⊢
  split
  case h_1 value after run =>
    rw [run] at ends
    exact result value after run ends
  case h_2 reason after run =>
    rw [run] at ends
    exact fault reason after run ends
  case h_3 run => simpa only [run] using ends

theorem Ends.result {value : β} {after : ParseState α σ}
    (ends : Ends program onResult onFault onExhausted state)
    (run : program state = .ok value after) : onResult value after := by
  simpa [Ends, run] using ends

theorem Ends.not_exhausted (ends : Ends program onResult onFault False state)
    (after : ParseState α σ) :
    program state ≠ .error .exhausted after := by
  intro exhausted
  simp [Ends, exhausted] at ends

theorem Ends.fault {fault : Fault} {after : ParseState α σ}
    (ends : Ends program onResult onFault onExhausted state)
    (run : program state = .error (.fault fault) after) : onFault after := by
  simpa [Ends, run] using ends

/-- A program ends with a result if nothing else is allowed. -/
theorem Ends.exists_result
    (ends : Ends program onResult (fun _ => False) False state) :
    ∃ value after, program state = .ok value after ∧ onResult value after := by
  unfold Ends at ends
  split at ends
  case h_1 value after run => exact ⟨value, after, run, ends⟩
  case h_2 => exact ends.elim
  case h_3 => exact ends.elim

/-- A program shares the results of those that refine it. -/
theorem Ends.of_refines {other : Eval α σ β}
    (ends : Ends program onResult onFault False state)
    (refines : Refines program other) :
    Ends other onResult onFault False state := by
  rcases refines state with ⟨after, exhausted⟩ | same
  · exact absurd exhausted (ends.not_exhausted after)
  · unfold Ends at ends ⊢
    rwa [← same]

/-- Two things that hold when a program ends hold together. -/
theorem Ends.and {other : β → ParseState α σ → Prop}
    {onFaultToo : ParseState α σ → Prop} {onExhaustedToo : Prop}
    (ends : Ends program onResult onFault onExhausted state)
    (endsToo : Ends program other onFaultToo onExhaustedToo state) :
    Ends program
      (fun result after => onResult result after ∧ other result after)
      onFault onExhausted state := by
  unfold Ends at ends endsToo ⊢
  split
  · simp_all
  · simp_all
  · simp_all

@[simp]
theorem ends_pure (result : β) :
    Ends (pure result) onResult onFault onExhausted state ↔
      onResult result state :=
  Iff.rfl

@[simp]
theorem ends_bind {next : β → Eval α σ γ}
    {onResult : γ → ParseState α σ → Prop} :
    Ends (program >>= next) onResult onFault onExhausted state ↔
      Ends program
        (fun result after =>
          Ends (next result) onResult onFault onExhausted after)
        onFault onExhausted state := by
  simp only [Ends, Bind.bind, EStateM.bind]
  cases program state with
  | ok result after => rfl
  | error interrupt after => cases interrupt <;> rfl

@[simp]
theorem ends_get {onResult : ParseState α σ → ParseState α σ → Prop} :
    Ends get onResult onFault onExhausted state ↔ onResult state state :=
  Iff.rfl

@[simp]
theorem ends_modify {change : ParseState α σ → ParseState α σ}
    {onResult : PUnit → ParseState α σ → Prop} :
    Ends (modify change) onResult onFault onExhausted state ↔
      onResult .unit (change state) :=
  Iff.rfl

@[simp]
theorem ends_modifyGet {change : ParseState α σ → β × ParseState α σ} :
    Ends (modifyGet change) onResult onFault onExhausted state ↔
      onResult (change state).1 (change state).2 :=
  Iff.rfl

@[simp]
theorem ends_throw_fault (fault : Fault) :
    Ends (throw (.fault fault)) onResult onFault onExhausted state ↔
      onFault state :=
  Iff.rfl

@[simp]
theorem ends_throw_exhausted :
    Ends (throw .exhausted) onResult onFault onExhausted state ↔
      onExhausted :=
  Iff.rfl

@[simp]
theorem ends_cursor {onResult : Cursor → ParseState α σ → Prop} :
    Ends cursor onResult onFault onExhausted state ↔
      onResult state.cursor state :=
  Iff.rfl

@[simp]
theorem ends_inScope :
    Ends (inScope program) onResult onFault onExhausted state ↔
      Ends program (fun result after => onResult result after.popScope)
        onFault onExhausted state.pushScope := by
  simp only [inScope, ends_bind, ends_modify, ends_pure]

@[simp]
theorem ends_underNot :
    Ends (underNot program) onResult onFault onExhausted state ↔
      Ends program (fun result after => onResult result after.toggle)
        onFault onExhausted state.toggle := by
  simp only [underNot, ends_bind, ends_modify, ends_pure]

@[simp]
theorem ends_inRule (rule : Rule α σ) :
    Ends (inRule rule program) onResult onFault onExhausted state ↔
      Ends program (fun result after => onResult result after.leaveRule)
        onFault onExhausted (state.enterRule rule) := by
  simp only [inRule, ends_bind, ends_modify, ends_pure]

@[simp]
theorem ends_traced (session : Session α σ) (subject : Subject) :
    Ends (traced session subject program) onResult onFault onExhausted
        state ↔
      Ends program
        (fun result after => onResult result (after.leaveNode session subject))
        onFault onExhausted (state.enterNode session subject) := by
  simp only [traced, ends_bind, ends_modify, ends_pure]

@[simp]
theorem ends_lookahead (session : Session α σ) {program : Eval α σ (Verdict α)}
    {onResult : Verdict α → ParseState α σ → Prop} :
    Ends (lookahead session program) onResult onFault onExhausted state ↔
      Ends program
        (fun verdict after =>
          onResult verdict (after.popScope.restore session state.cursor))
        onFault onExhausted state.pushScope := by
  simp only [lookahead, ends_bind, ends_cursor, ends_inScope, ends_modify,
    ends_pure]

/-- Code replies once, and the store that it leaves is kept. -/
theorem ends_runCode (session : Session α σ) (code : Code α σ β)
    (start : Cursor) (value : Value α)
    {onResult : Except String β → ParseState α σ → Prop} :
    Ends (runCode session code start value) onResult onFault onExhausted
        state ↔
      match code (state.context session start value) with
      | (.answer result, store) =>
        onResult (.ok result) { state with store := store }
      | (.complaint message, store) =>
        onResult (.error message) { state with store := store }
      | (.failure _, store) => onFault { state with store := store } := by
  simp only [runCode, ends_bind, ends_get]
  rcases code (state.context session start value) with ⟨reply, store⟩
  cases reply <;> simp

theorem ends_counted (session : Session α σ) (expr : Expr α σ)
    {program : Eval α σ (Verdict α)}
    {onResult : Verdict α → ParseState α σ → Prop} :
    Ends (counted session expr program) onResult onFault onExhausted state ↔
      if state.countExpression.overLimit session then
        onResult (.aborted .maxExpressions) state.countExpression
      else
        Ends (traced session (.expression expr.kindName) program) onResult
          onFault onExhausted state.countExpression := by
  simp only [counted, ends_bind, ends_modify, ends_get]
  split <;> simp

/-- A node is replayed if its result was kept, and else evaluated. -/
theorem ends_memoized (session : Session α σ) (enabled : Bool) (node : NodeKey)
    {program : Eval α σ (Verdict α)}
    {onResult : Verdict α → ParseState α σ → Prop} :
    Ends (memoized session enabled node program) onResult onFault onExhausted
        state ↔
      if enabled then
        match state.memo.lookup (state.memoKey node) with
        | some entry =>
          onResult (.ofResult entry.value) (state.restore session entry.finish)
        | none =>
          Ends program
            (fun verdict after => onResult verdict
              (after.rememberVerdict (state.memoKey node) verdict))
            onFault onExhausted state
      else Ends program onResult onFault onExhausted state := by
  cases enabled with
  | false => rfl
  | true =>
      simp only [memoized, if_true, ends_bind, ends_get]
      cases state.memo.lookup (state.memoKey node) with
      | some entry => rfl
      | none =>
          simp only [ends_bind]
          refine iff_of_eq (congrFun (congrArg (Ends program · _ _) ?_) _)
          funext verdict after
          cases verdict <;> rfl

@[simp]
theorem ends_runRule (session : Session α σ) (rule : Rule α σ)
    {program : Eval α σ (Verdict α)}
    {onResult : Verdict α → ParseState α σ → Prop} :
    Ends (runRule session rule program) onResult onFault onExhausted state ↔
      Ends (traced session (.rule rule.name) (inRule rule program))
        (fun verdict after => onResult verdict
          (match verdict with
          | .matched _ => after.traceMatch session state.cursor
          | _ => after))
        onFault onExhausted state := by
  simp only [runRule, ends_bind, ends_cursor]
  refine iff_of_eq (congrFun (congrArg (Ends _ · _ _) ?_) _)
  funext verdict after
  cases verdict <;> rfl

end Rules

end Eval

end PegEngine
