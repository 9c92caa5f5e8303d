import PegEngine.Evaluation.Parse

/-!
# The depth of evaluations

Evaluation is bounded by a depth of nesting.  This file shows that the bound
decides nothing but whether there is a verdict at all: whatever an evaluation
comes to within some depth, it comes to within every greater one
(`evalExpr_refines_of_le`), and so does a parse (`parseWithin_eq_of_le`).
-/

namespace PegEngine

namespace Eval

variable {α σ β γ : Type}

/-- One evaluation refines another if it does the same unless it runs out of
depth. -/
def Refines (first second : Eval α σ β) : Prop :=
  ∀ state,
    (∃ after, first state = .error .exhausted after) ∨
      first state = second state

theorem Refines.refl (body : Eval α σ β) : Refines body body :=
  fun _ => .inr rfl

theorem Refines.trans {first second third : Eval α σ β}
    (left : Refines first second) (right : Refines second third) :
    Refines first third := by
  intro state
  rcases left state with exhausted | same
  · exact .inl exhausted
  · rw [same]
    exact right state

theorem Refines.bind {first second : Eval α σ β} {next other : β → Eval α σ γ}
    (body : Refines first second)
    (continuation : ∀ result, Refines (next result) (other result)) :
    Refines (first >>= next) (second >>= other) := by
  intro state
  simp only [Bind.bind, EStateM.bind]
  rcases body state with ⟨after, exhausted⟩ | same
  · exact .inl ⟨after, by rw [exhausted]⟩
  · rw [same]
    cases second state with
    | ok result after => exact continuation result after
    | error interrupt after => exact .inr rfl

/-- Only what runs first has to be compared when the rest is the same. -/
theorem Refines.bindLeft {first second : Eval α σ β}
    (body : Refines first second)
    (next : β → Eval α σ γ) : Refines (first >>= next) (second >>= next) :=
  body.bind fun _ => .refl _

/-- Only what runs last has to be compared when the start is the same. -/
theorem Refines.bindRight (body : Eval α σ β) {next other : β → Eval α σ γ}
    (continuation : ∀ result, Refines (next result) (other result)) :
    Refines (body >>= next) (body >>= other) :=
  (Refines.refl body).bind continuation

/-- Running out of depth refines everything. -/
theorem Refines.exhausted (body : Eval α σ β) :
    Refines (throw .exhausted) body :=
  fun state => .inl ⟨state, rfl⟩

theorem inScope_refines {first second : Eval α σ β}
    (body : Refines first second) :
    Refines (inScope first) (inScope second) :=
  .bindRight _ fun _ => body.bindLeft _

theorem underNot_refines {first second : Eval α σ β}
    (body : Refines first second) :
    Refines (underNot first) (underNot second) :=
  .bindRight _ fun _ => body.bindLeft _

theorem traced_refines (session : Session α σ) (subject : Subject)
    {first second : Eval α σ β} (body : Refines first second) :
    Refines (traced session subject first) (traced session subject second) :=
  .bindRight _ fun _ => body.bindLeft _

theorem lookahead_refines (session : Session α σ)
    {first second : Eval α σ (Verdict α)} (body : Refines first second) :
    Refines (lookahead session first) (lookahead session second) :=
  .bindRight _ fun _ => (inScope_refines body).bindLeft _

theorem memoized_refines (session : Session α σ) (enabled : Bool)
    (node : NodeKey) {first second : Eval α σ (Verdict α)}
    (body : Refines first second) :
    Refines (memoized session enabled node first)
      (memoized session enabled node second) := by
  cases enabled with
  | false => exact body
  | true =>
      refine .bindRight _ fun before => .bindRight _ fun state => ?_
      cases state.memo.lookup (before.memoKey node) with
      | some entry => exact .refl _
      | none => exact body.bindLeft _

theorem counted_refines (session : Session α σ) (expr : Expr α σ)
    {first second : Eval α σ (Verdict α)} (body : Refines first second) :
    Refines (counted session expr first) (counted session expr second) := by
  refine .bindRight _ fun _ => .bindRight _ fun state => ?_
  cases state.overLimit session with
  | true => exact .refl _
  | false => exact traced_refines session _ body

theorem visit_refines (session : Session α σ) (place : ExprPlace)
    (expr : Expr α σ) {first second : Eval α σ (Verdict α)}
    (body : Refines first second) :
    Refines (visit session place expr first)
      (visit session place expr second) :=
  memoized_refines session _ _ (counted_refines session expr body)

/-- One way of evaluating members refines another. -/
def RefinesAll (first second : ExprPlace → Expr α σ → Eval α σ (Verdict α)) :
    Prop :=
  ∀ place expr, Refines (first place expr) (second place expr)

variable {first second : ExprPlace → Expr α σ → Eval α σ (Verdict α)}

theorem evalSequence_refines (session : Session α σ)
    (members : RefinesAll first second) (place : ExprPlace) (start : Cursor)
    (exprs : List (Expr α σ)) :
    ∀ (index : Nat) (values : List (Value α)),
      Refines (evalSequence session first place start index values exprs)
        (evalSequence session second place start index values exprs) := by
  induction exprs with
  | nil =>
      intro index values
      exact .refl _
  | cons expr exprs ih =>
      intro index values
      refine (members _ _).bind fun verdict => ?_
      cases verdict with
      | matched value => exact ih _ _
      | unmatched => exact .refl _
      | aborted error => exact .refl _

theorem evalChoice_refines (members : RefinesAll first second)
    (place : ExprPlace) (exprs : List (Expr α σ)) :
    ∀ index : Nat,
      Refines (evalChoice first place index exprs)
        (evalChoice second place index exprs) := by
  induction exprs with
  | nil =>
      intro index
      exact .refl _
  | cons expr exprs ih =>
      intro index
      refine (inScope_refines (members _ _)).bind fun verdict => ?_
      cases verdict with
      | matched value => exact .refl _
      | unmatched => exact ih _
      | aborted error => exact .refl _

theorem evalRounds_refines {one other : Eval α σ (Verdict α)}
    (body : Refines one other) (rounds : Nat) :
    ∀ values : List (Value α),
      Refines (evalRounds one rounds values)
        (evalRounds other rounds values) := by
  induction rounds with
  | zero =>
      intro values
      exact .refl _
  | succ rounds ih =>
      intro values
      refine .bindRight _ fun start =>
        (inScope_refines body).bind fun verdict => ?_
      cases verdict with
      | matched value =>
          refine .bindRight _ fun finish => ?_
          by_cases stuck : finish.offset = start.offset
          · simp only [stuck, if_true]
            exact .refl _
          · simp only [stuck, if_false]
            exact ih _
      | unmatched => exact .refl _
      | aborted error => exact .refl _

theorem evalRepetition_refines (session : Session α σ) (required : Nat)
    {one other : Eval α σ (Verdict α)} (body : Refines one other) :
    Refines (evalRepetition session required one)
      (evalRepetition session required other) :=
  .bindRight _ fun _ => (evalRounds_refines body _ _).bindLeft _

theorem inRule_refines (rule : Rule α σ) {one other : Eval α σ β}
    (body : Refines one other) :
    Refines (inRule rule one) (inRule rule other) :=
  .bindRight _ fun _ => body.bindLeft _

theorem runRule_refines (session : Session α σ) (rule : Rule α σ)
    {one other : Eval α σ (Verdict α)} (body : Refines one other) :
    Refines (runRule session rule one) (runRule session rule other) :=
  .bindRight _ fun _ =>
    (traced_refines session _ (inRule_refines rule body)).bindLeft _

theorem evalRule_refines (session : Session α σ)
    (members : RefinesAll first second) (rule : Rule α σ) (index : Nat) :
    Refines (evalRule session first rule index)
      (evalRule session second rule index) :=
  memoized_refines session _ _ (runRule_refines session rule (members _ _))

theorem evalReference_refines (session : Session α σ)
    (members : RefinesAll first second) (name : String) :
    Refines (evalReference session first name)
      (evalReference session second name) := by
  unfold evalReference
  split
  · exact .refl _
  · split
    · exact evalRule_refines session members _ _
    · exact .refl _

/-- What an expression does refines as its members do. -/
theorem evalNode_refines (session : Session α σ)
    (members : RefinesAll first second) (place : ExprPlace) (expr : Expr α σ) :
    Refines (evalNode session first place expr)
      (evalNode session second place expr) := by
  cases expr with
  | literal text ignoresCase => exact .refl _
  | oneOf charClass => exact .refl _
  | any => exact .refl _
  | sequence exprs =>
      exact .bindRight _ fun _ => evalSequence_refines session members _ _ _ _ _
  | choice exprs => exact evalChoice_refines members _ _ _
  | zeroOrMore body => exact evalRepetition_refines session _ (members _ _)
  | oneOrMore body => exact evalRepetition_refines session _ (members _ _)
  | optional body => exact (inScope_refines (members _ _)).bindLeft _
  | followedBy body =>
      exact (lookahead_refines session (members _ _)).bindLeft _
  | notFollowedBy body =>
      exact (lookahead_refines session
        (underNot_refines (members _ _))).bindLeft _
  | labeled label body => exact (inScope_refines (members _ _)).bindLeft _
  | reference name => exact evalReference_refines session members name
  | action body run => exact .bindRight _ fun _ => (members _ _).bindLeft _
  | require test => exact .refl _
  | forbid test => exact .refl _

/-- Evaluating one level deeper changes no verdict. -/
theorem evalExpr_refines_succ (session : Session α σ) (depth : Nat) :
    RefinesAll (evalExpr session depth) (evalExpr session (depth + 1)) := by
  induction depth with
  | zero =>
      intro place expr
      exact .exhausted _
  | succ depth ih =>
      intro place expr
      exact visit_refines session place expr
        (evalNode_refines session ih place expr)

/-- Evaluating deeper changes no verdict. -/
theorem evalExpr_refines_of_le (session : Session α σ) {depth greater : Nat}
    (atMost : depth ≤ greater) :
    RefinesAll (evalExpr session depth) (evalExpr session greater) := by
  induction atMost with
  | refl =>
      intro place expr
      exact .refl _
  | step _ ih =>
      intro place expr
      exact (ih place expr).trans (evalExpr_refines_succ session _ place expr)

end Eval

namespace Session

variable {α σ : Type}

theorem evalEntry_refines_of_le (session : Session α σ) (entry : Rule α σ)
    {depth greater : Nat} (atMost : depth ≤ greater) :
    Eval.Refines (session.evalEntry depth entry)
      (session.evalEntry greater entry) :=
  .bindRight _ fun _ =>
    (Eval.evalRule_refines session
      (Eval.evalExpr_refines_of_le session atMost) entry 0).bindLeft _

/-- A parse that has a report within some depth has the same report within
every greater one. -/
theorem parseWithin_eq_of_le (session : Session α σ) {depth greater : Nat}
    (atMost : depth ≤ greater) {report : ParseReport α}
    (reported : session.parseWithin depth = some report) :
    session.parseWithin greater = some report := by
  revert reported
  unfold parseWithin
  cases session.grammar.start? with
  | none => exact id
  | some entry =>
      cases session.grammar.error? with
      | some error => exact id
      | none =>
          intro reported
          simp only [runEntry, EStateM.run] at reported ⊢
          rcases session.evalEntry_refines_of_le entry atMost
            (ParseState.initial session) with ⟨after, exhausted⟩ | same
          · simp [exhausted] at reported
          · rw [← same]
            exact reported

end Session

end PegEngine
