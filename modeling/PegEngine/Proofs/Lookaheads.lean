import PegEngine.Proofs.Echoes

/-!
# Lookaheads within lookaheads

A lookahead runs its body from a state that it has changed, and changes the
state and the verdict once more when the body has come to one
(`Transcript.Wraps`).  What it does to the state is to enter a scope and leave
it, to give back what has been consumed, and, if it is negative, to count
attempts the other way round in between (`ParseState.Peeks`).

Both compose.  So two negations in turn do to a state what a single positive
lookahead does, and since they come to the same verdict as well, the one keeps
up with the other (`Transcript.Wraps.keepsUp`).
-/

namespace PegEngine

namespace Verdict

variable {α σ : Type}

/-- The verdict on a lookahead, given the one on its body. -/
def emptied : Verdict α → Verdict α
  | .matched _ => .matched .nil
  | verdict => verdict

/-- The verdict on a negative lookahead. -/
def negated : Verdict α → Verdict α
  | .matched _ => .unmatched
  | .unmatched => .matched .nil
  | .aborted error => .aborted error

theorem negated_negated (verdict : Verdict α) :
    verdict.negated.negated = verdict.emptied := by
  cases verdict <;> rfl

end Verdict

namespace ParseState

variable {α σ : Type}

/-- A state in which attempts count the other way round, if told so. -/
def turned (inverts : Bool) (state : ParseState α σ) : ParseState α σ :=
  if inverts then state.toggle else state

theorem toggle_toggle (state : ParseState α σ) :
    state.toggle.toggle = state := by
  simp only [toggle, Expectations.toggle_toggle]

theorem turned_turned (inverts other : Bool) (state : ParseState α σ) :
    (state.turned inverts).turned other = state.turned (inverts ^^ other) := by
  cases inverts <;> cases other <;> simp [turned, toggle_toggle]

theorem scopes_turned (inverts : Bool) (state : ParseState α σ) :
    (state.turned inverts).scopes = state.scopes := by
  cases inverts <;> rfl

theorem Similar.turned {closely : Bool} {left right : ParseState α σ}
    (similar : Similar closely left right) (inverts : Bool) :
    Similar closely (left.turned inverts) (right.turned inverts) := by
  cases inverts with
  | false => exact similar
  | true => exact similar.toggle

/-- The state in which a lookahead evaluates its body. -/
def lookIn (session : Session α σ) (kind : String) (inverts : Bool)
    (state : ParseState α σ) : ParseState α σ :=
  let entered := state.countExpression.enterNode session (.expression kind)
  entered.pushScope.turned inverts

/-- The state after a lookahead, given the states before it and after its
body. -/
def lookOut (session : Session α σ) (kind : String) (inverts : Bool)
    (before after : ParseState α σ) : ParseState α σ :=
  ((after.turned inverts).popScope.restore session before.cursor).leaveNode
    session (.expression kind)

/-- From one state an evaluation goes on in a scope of its own, and comes back
from it to where it was. -/
structure Peeks (inverts : Bool) (enter : ParseState α σ → ParseState α σ)
    (leave : ParseState α σ → ParseState α σ → ParseState α σ) : Prop where
  enters : ∀ state, Similar false (state.turned inverts) (enter state)
  opens : ∀ state, state.scopes.SpareEmpty →
    (enter state).scopes.top = Frame.empty ∧ (enter state).scopes.SpareEmpty
  leaves : ∀ state after,
    Similar false { after.turned inverts with cursor := state.cursor }
      (leave state after)
  closes : ∀ state after, after.scopes.SpareEmpty →
    after.scopes.below = (enter state).scopes.below →
      (leave state after).scopes.top = state.scopes.top ∧
        (leave state after).scopes.below = state.scopes.below ∧
        (leave state after).scopes.SpareEmpty

section Changes

variable {session : Session α σ} {state : ParseState α σ}

theorem similar_count (subject : Subject) :
    Similar false state (state.countExpression.enterNode session subject) := by
  have untraced := untraced_enterNode session state.countExpression subject
  rw [enterNode_eq] at untraced ⊢
  exact { Similar.refl state with untraced := untraced, counted := nofun }

theorem similar_leaveNode (subject : Subject) :
    Similar false state (state.leaveNode session subject) := by
  have untraced := untraced_leaveNode session state subject
  rw [leaveNode_eq] at untraced ⊢
  exact { Similar.refl state with untraced := untraced }

theorem similar_restore (cursor : Cursor) :
    Similar false { state with cursor := cursor }
      (state.restore session cursor) := by
  have untraced := untraced_restore session state cursor
  rw [restore_eq] at untraced ⊢
  exact { Similar.refl { state with cursor := cursor } with
    untraced := untraced }

theorem similar_pushScope : Similar false state state.pushScope :=
  { Similar.refl state with }

end Changes

theorem scopes_lookIn (session : Session α σ) (kind : String) (inverts : Bool)
    (state : ParseState α σ) :
    (state.lookIn session kind inverts).scopes = state.scopes.push := by
  rw [lookIn, scopes_turned]
  exact congrArg ScopeStack.push (scopes_enterNode _)

theorem scopes_lookOut (session : Session α σ) (kind : String) (inverts : Bool)
    (before after : ParseState α σ) :
    (lookOut session kind inverts before after).scopes = after.scopes.pop := by
  rw [lookOut, scopes_leaveNode, (steady_restore _ _ _).scopes]
  exact congrArg ScopeStack.pop (scopes_turned inverts after)

/-- A lookahead comes back to where it was. -/
theorem peeks_look (session : Session α σ) (kind : String) (inverts : Bool) :
    Peeks inverts (lookIn session kind inverts)
      (lookOut session kind inverts) where
  enters state :=
    ((similar_count (.expression kind)).trans similar_pushScope).turned inverts
  opens state spare := by
    rw [scopes_lookIn]
    exact ⟨ScopeStack.top_push spare, spare.push⟩
  leaves state after := by
    have popped : Similar false
        { after.turned inverts with cursor := state.cursor }
        { (after.turned inverts).popScope with cursor := state.cursor } :=
      { Similar.refl { after.turned inverts with cursor := state.cursor } with }
    exact (popped.trans (similar_restore state.cursor)).trans
      (similar_leaveNode (.expression kind))
  closes state after spare below := by
    rw [scopes_lookIn, ScopeStack.below_push] at below
    rw [scopes_lookOut]
    refine ⟨?_, ?_, spare.pop⟩ <;> rw [ScopeStack.pop_eq below]

/-- One lookahead within another one counts attempts as both of them say. -/
theorem Peeks.trans {inverts other : Bool}
    {enter enterToo : ParseState α σ → ParseState α σ}
    {leave leaveToo : ParseState α σ → ParseState α σ → ParseState α σ}
    (outer : Peeks inverts enter leave)
    (inner : Peeks other enterToo leaveToo) :
    Peeks (inverts ^^ other) (fun state => enterToo (enter state))
      (fun state after => leave state (leaveToo (enter state) after)) where
  enters state := by
    rw [← turned_turned]
    exact ((outer.enters state).turned other).trans (inner.enters (enter state))
  opens state spare := inner.opens (enter state) (outer.opens state spare).2
  leaves state after := by
    have back := (inner.leaves (enter state) after).turned inverts
    have moved : Similar false
        { after.turned (inverts ^^ other) with cursor := state.cursor }
        { (leaveToo (enter state) after).turned inverts with
          cursor := state.cursor } := by
      rw [Bool.xor_comm, ← turned_turned]
      cases inverts with
      | false => exact { back with cursor := rfl }
      | true => exact { back with cursor := rfl }
    exact moved.trans (outer.leaves state _)
  closes state after spare below := by
    obtain ⟨-, belowInner, spareInner⟩ :=
      inner.closes (enter state) after spare below
    exact outer.closes state _ spareInner belowInner

section Akin

variable {inverts : Bool} {enter enterToo : ParseState α σ → ParseState α σ}
  {leave leaveToo : ParseState α σ → ParseState α σ → ParseState α σ}
  {below belowToo : List (Frame α)} {left right after afterToo : ParseState α σ}

/-- Lookaheads that are entered from states that look alike. -/
theorem Peeks.akin_enter (peeks : Peeks inverts enter leave)
    (peeksToo : Peeks inverts enterToo leaveToo)
    (akin : Akin false below belowToo left right) :
    Akin false (enter left).scopes.below (enterToo right).scopes.below
      (enter left) (enterToo right) := by
  have entered := (peeks.enters left).symm.trans
    ((akin.toSimilar.turned inverts).trans (peeksToo.enters right))
  obtain ⟨top, spare⟩ := peeks.opens left akin.spare
  obtain ⟨topToo, spareToo⟩ := peeksToo.opens right akin.spareToo
  exact { entered with
    top := topToo.trans top.symm
    below := rfl
    belowToo := rfl
    spare := spare
    spareToo := spareToo }

/-- If their bodies lead to states that look alike, so do the lookaheads. -/
theorem Peeks.akin_leave (peeks : Peeks inverts enter leave)
    (peeksToo : Peeks inverts enterToo leaveToo)
    (akin : Akin false below belowToo left right)
    (akinAfter : Akin false (enter left).scopes.below
      (enterToo right).scopes.below after afterToo) :
    Akin false below belowToo (leave left after) (leaveToo right afterToo) := by
  have back : Similar false
      { after.turned inverts with cursor := left.cursor }
      { afterToo.turned inverts with cursor := right.cursor } :=
    { akinAfter.toSimilar.turned inverts with cursor := akin.cursor }
  have returned := (peeks.leaves left after).symm.trans
    (back.trans (peeksToo.leaves right afterToo))
  obtain ⟨top, isBelow, spare⟩ :=
    peeks.closes left after akinAfter.spare akinAfter.below
  obtain ⟨topToo, isBelowToo, spareToo⟩ :=
    peeksToo.closes right afterToo akinAfter.spareToo akinAfter.belowToo
  exact { returned with
    top := topToo.trans (akin.top.trans top.symm)
    below := isBelow.trans akin.below
    belowToo := isBelowToo.trans akin.belowToo
    spare := spare
    spareToo := spareToo }

end Akin

end ParseState

namespace Transcript

open ParseState

variable {α σ : Type} {session other : Session α σ}

/-- A program runs another one from a state that it has changed, and then
changes the state and the verdict. -/
structure Wraps {program body : Eval α σ (Verdict α)}
    (outer : Transcript session program) (inner : Transcript session body)
    (enter : ParseState α σ → ParseState α σ)
    (leave : ParseState α σ → ParseState α σ → ParseState α σ)
    (conclude : Verdict α → Verdict α) : Prop where
  run : ∀ state, program state =
    match body (enter state) with
    | .ok verdict after => .ok (conclude verdict) (leave state after)
    | .error interrupt after => .error interrupt after
  calls : ∀ state, outer.calls state = inner.calls (enter state)

variable {program middle body : Eval α σ (Verdict α)}
  {outer : Transcript session program} {between : Transcript session middle}
  {inner : Transcript session body}
  {enter enterToo : ParseState α σ → ParseState α σ}
  {leave leaveToo : ParseState α σ → ParseState α σ → ParseState α σ}
  {conclude concludeToo : Verdict α → Verdict α}

theorem Wraps.trans (first : Wraps outer between enter leave conclude)
    (second : Wraps between inner enterToo leaveToo concludeToo) :
    Wraps outer inner (fun state => enterToo (enter state))
      (fun state after => leave state (leaveToo (enter state) after))
      (fun verdict => conclude (concludeToo verdict)) where
  run state := by
    rw [first.run, second.run]
    cases body (enterToo (enter state)) <;> rfl
  calls state := (first.calls state).trans (second.calls (enter state))

/-- What wraps a program that runs out of depth runs out of depth. -/
theorem Wraps.exhausts (wraps : Wraps outer inner enter leave conclude)
    (exhausts : ∀ state, ∃ after, body state = .error .exhausted after)
    (state : ParseState α σ) :
    ∃ after, program state = .error .exhausted after := by
  obtain ⟨after, exhausted⟩ := exhausts (enter state)
  exact ⟨after, by rw [wraps.run, exhausted]⟩

theorem Wraps.refl (inner : Transcript session body) :
    Wraps inner inner id (fun _ after => after) id where
  run state := by cases run : body state <;> simp [run]
  calls _ := rfl

theorem Wraps.afterChange {update : ParseState α σ → ParseState α σ}
    (unchanged : ∀ state, (update state).store = state.store)
    (wraps : Wraps outer inner enter leave conclude) :
    Wraps ((Transcript.change unchanged).bind fun _ => outer) inner
      (fun state => enter (update state))
      (fun state after => leave (update state) after) conclude :=
  ⟨fun state => wraps.run (update state),
    fun state => wraps.calls (update state)⟩

theorem Wraps.fromCursor {program : Cursor → Eval α σ (Verdict α)}
    {outer : ∀ start, Transcript session (program start)}
    {leave : Cursor → ParseState α σ → ParseState α σ → ParseState α σ}
    (wraps : ∀ start, Wraps (outer start) inner enter (leave start) conclude) :
    Wraps (Transcript.cursor.bind outer) inner enter
      (fun state after => leave state.cursor state after) conclude :=
  ⟨fun state => (wraps state.cursor).run state,
    fun state => (wraps state.cursor).calls state⟩

/-- What follows on a program that wraps another one. -/
theorem Wraps.andThen (wraps : Wraps outer inner enter leave conclude)
    (concludeToo : Verdict α → Verdict α)
    (finish : ParseState α σ → ParseState α σ)
    {next : Verdict α → Eval α σ (Verdict α)}
    {later : ∀ verdict, Transcript session (next verdict)}
    (finishes : ∀ verdict after,
      next verdict after = .ok (concludeToo verdict) (finish after))
    (callsNothing : ∀ verdict after, (later verdict).calls after = []) :
    Wraps (outer.bind later) inner enter
      (fun state after => finish (leave state after))
      (fun verdict => concludeToo (conclude verdict)) where
  run state := by
    simp only [Bind.bind, EStateM.bind, wraps.run]
    cases body (enter state) with
    | ok verdict after => exact finishes _ _
    | error interrupt after => rfl
  calls state := by
    simp only [Transcript.bind, wraps.calls]
    cases program state with
    | ok verdict after => simp only [callsNothing, List.append_nil]
    | error interrupt after => exact List.append_nil _

theorem wraps_between {update : ParseState α σ → ParseState α σ}
    (enters : ∀ state, (enter state).store = state.store)
    (leaves : ∀ state, (update state).store = state.store)
    (inner : Transcript session body) :
    Wraps (Transcript.between enter update enters leaves inner) inner enter
      (fun _ after => update after) id :=
  ((Wraps.refl inner).andThen id update (fun _ _ => rfl)
    fun _ _ => rfl).afterChange enters

theorem wraps_lookahead (inner : Transcript session body) :
    Wraps inner.lookahead inner pushScope
      (fun state after => after.popScope.restore session state.cursor) id :=
  .fromCursor fun start => (wraps_between _ _ inner).andThen id
    (ParseState.restore session start) (fun _ _ => rfl) fun _ _ => rfl

theorem wraps_memoized {enabled : Bool} (disabled : enabled = false)
    (node : NodeKey) (inner : Transcript session body) :
    Wraps (memoized enabled node inner) inner id (fun _ after => after) id := by
  subst disabled
  exact ⟨(Wraps.refl inner).run, fun _ => rfl⟩

theorem wraps_counted (unlimited : session.options.maxExpressions = none)
    (expr : Expr α σ) (inner : Transcript session body) :
    Wraps (counted expr inner) inner
      (fun state => state.countExpression.enterNode session
        (.expression expr.kindName))
      (fun _ after => after.leaveNode session (.expression expr.kindName))
      id := by
  have within : ∀ state : ParseState α σ,
      ¬ state.overLimit session = true := by
    simp [overLimit, unlimited]
  have traces : Wraps (inner.traced (.expression expr.kindName)) inner
      (enterNode session (.expression expr.kindName))
      (fun _ after => after.leaveNode session (.expression expr.kindName))
      id :=
    wraps_between _ _ inner
  refine ⟨fun state => ?_, fun state => ?_⟩
  · rw [Eval.counted_run, if_neg (within _)]
    exact traces.run state.countExpression
  · change (if state.countExpression.overLimit session then []
      else (inner.traced (.expression expr.kindName)).calls
        state.countExpression) = _
    rw [if_neg (within _)]
    exact traces.calls state.countExpression

/-- Without a limit and without memoization, a node is counted and traced. -/
theorem wraps_visit (unkept : session.options.memoize = false)
    (unlimited : session.options.maxExpressions = none) (place : ExprPlace)
    (expr : Expr α σ) (inner : Transcript session body) :
    Wraps (visit place expr inner) inner
      (fun state => state.countExpression.enterNode session
        (.expression expr.kindName))
      (fun _ after => after.leaveNode session (.expression expr.kindName))
      id :=
  (wraps_memoized (by rw [unkept]; rfl) _ _).trans
    (wraps_counted unlimited expr inner)

theorem Wraps.congr
    {leaveToo : ParseState α σ → ParseState α σ → ParseState α σ}
    (wraps : Wraps outer inner enter leave conclude)
    (same : ∀ state after, leave state after = leaveToo state after) :
    Wraps outer inner enter leaveToo conclude :=
  ⟨fun state => by simp only [wraps.run, same], wraps.calls⟩

section Nodes

variable {evaluate : ExprPlace → Expr α σ → Eval α σ (Verdict α)}
  (members : ∀ place expr, Transcript session (evaluate place expr))
  (unkept : session.options.memoize = false)
  (unlimited : session.options.maxExpressions = none)
include unkept unlimited

theorem wraps_followedBy (place : ExprPlace) (body : Expr α σ) :
    Wraps
      (visit place (.followedBy body) (node members place (.followedBy body)))
      (members (place.member 0) body)
      (lookIn session (Expr.followedBy body).kindName false)
      (lookOut session (Expr.followedBy body).kindName false)
      Verdict.emptied := by
  have node : Wraps (node members place (.followedBy body))
      (members (place.member 0) body) pushScope
      (fun state after => after.popScope.restore session state.cursor)
      Verdict.emptied := by
    apply (wraps_lookahead _).andThen Verdict.emptied id
    · exact fun verdict after => by cases verdict <;> rfl
    · exact fun verdict after => by cases verdict <;> rfl
  apply ((wraps_visit unkept unlimited place _ _).trans node).congr
  intro state after
  rw [cursor_enterNode]
  rfl

theorem wraps_notFollowedBy (place : ExprPlace) (body : Expr α σ) :
    Wraps
      (visit place (.notFollowedBy body)
        (node members place (.notFollowedBy body)))
      (members (place.member 0) body)
      (lookIn session (Expr.notFollowedBy body).kindName true)
      (lookOut session (Expr.notFollowedBy body).kindName true)
      Verdict.negated := by
  have inverts : Wraps (members (place.member 0) body).underNot
      (members (place.member 0) body) toggle (fun _ => toggle) id :=
    wraps_between _ _ _
  have node : Wraps (node members place (.notFollowedBy body))
      (members (place.member 0) body) (fun state => state.pushScope.toggle)
      (fun state after => after.toggle.popScope.restore session state.cursor)
      Verdict.negated := by
    apply ((wraps_lookahead _).trans inverts).andThen Verdict.negated id
    · exact fun verdict after => by cases verdict <;> rfl
    · exact fun verdict after => by cases verdict <;> rfl
  apply ((wraps_visit unkept unlimited place _ _).trans node).congr
  intro state after
  rw [cursor_enterNode]
  rfl

end Nodes

/-- Programs that come back to where they were after the same verdict keep up
with each other if what they evaluate in between does. -/
theorem Wraps.keepsUp {programToo bodyToo : Eval α σ (Verdict α)}
    {outerToo : Transcript other programToo}
    {innerToo : Transcript other bodyToo}
    (wraps : Wraps outer inner enter leave conclude)
    (wrapsToo : Wraps outerToo innerToo enterToo leaveToo conclude)
    {inverts : Bool} (peeks : Peeks inverts enter leave)
    (peeksToo : Peeks inverts enterToo leaveToo)
    (keepsUp : KeepsUp false inner innerToo) :
    KeepsUp false outer outerToo := by
  intro below belowToo left right akin
  have entered := peeks.akin_enter peeksToo akin
  have firstRun := wraps.run left
  have secondRun := wrapsToo.run right
  obtain ⟨paired, calls⟩ := keepsUp _ _ _ _ entered
  refine ⟨⟨fun verdict last run => ?_, fun fault last run => ?_⟩,
    fun halts => ?_⟩
  · rw [firstRun] at run
    cases ran : body (enter left) with
    | error interrupt after =>
        rw [ran] at run
        cases run
    | ok result after =>
        obtain ⟨afterToo, ranToo, akinAfter⟩ := paired.result result after ran
        rw [ran] at run
        cases run
        rw [secondRun, ranToo]
        exact ⟨_, rfl, peeks.akin_leave peeksToo akin akinAfter⟩
  · rw [firstRun] at run
    cases ran : body (enter left) with
    | ok result after =>
        rw [ran] at run
        cases run
    | error interrupt after =>
        rw [ran] at run
        cases run
        obtain ⟨afterToo, ranToo, similar⟩ := paired.fault fault last ran
        rw [secondRun, ranToo]
        exact ⟨afterToo, rfl, similar⟩
  · rw [wraps.calls, wrapsToo.calls]
    apply calls
    intro after exhausted
    apply halts after
    rw [firstRun, exhausted]

/-- One evaluation does with another one what a positive lookahead does. -/
def Glances {program body : Eval α σ (Verdict α)}
    (outer : Transcript session program) (inner : Transcript session body) :
    Prop :=
  ∃ enter leave, Wraps outer inner enter leave Verdict.emptied ∧
    Peeks false enter leave

theorem Glances.keepsUp {programToo bodyToo : Eval α σ (Verdict α)}
    {outerToo : Transcript other programToo}
    {innerToo : Transcript other bodyToo} (glances : Glances outer inner)
    (glancesToo : Glances outerToo innerToo)
    (keepsUp : KeepsUp false inner innerToo) :
    KeepsUp false outer outerToo := by
  obtain ⟨enter, leave, wraps, peeks⟩ := glances
  obtain ⟨enterToo, leaveToo, wrapsToo, peeksToo⟩ := glancesToo
  exact wraps.keepsUp wrapsToo peeks peeksToo keepsUp

section Depths

variable (unkept : session.options.memoize = false)
  (unlimited : session.options.maxExpressions = none) (depth : Nat)
  (place : ExprPlace) (body : Expr α σ)
include unkept unlimited

theorem glances_followedBy :
    Glances (expr session (depth + 1) place (.followedBy body))
      (expr session depth (place.member 0) body) :=
  ⟨_, _, wraps_followedBy _ unkept unlimited place body, peeks_look _ _ _⟩

/-- What is negated twice is looked at as what is not. -/
theorem glances_notFollowedBy :
    Glances
      (expr session (depth + 2) place (.notFollowedBy (.notFollowedBy body)))
      (expr session depth ((place.member 0).member 0) body) := by
  have outer := wraps_notFollowedBy (expr session (depth + 1)) unkept unlimited
    place (.notFollowedBy body)
  have inner := wraps_notFollowedBy (expr session depth) unkept unlimited
    (place.member 0) body
  have wraps := outer.trans inner
  simp only [Verdict.negated_negated] at wraps
  exact ⟨_, _, wraps, (peeks_look _ _ true).trans (peeks_look _ _ true)⟩

end Depths

end Transcript

end PegEngine
