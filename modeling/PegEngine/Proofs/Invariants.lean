import PegEngine.Proofs.Matchers
import PegEngine.Evaluation.State

/-!
# Invariants of a parse

Between the steps of an evaluation the state of a parse is in good order: the
cursor stands on a boundary, frames that are set aside are empty, every result
that was kept is one that its node can have, and every diagnostic is attributed
to a rule (`ParseState.Sound`).  What an evaluation enters it leaves again
(`ParseState.Balanced`).  This file has both notions and shows how the single
changes of a state keep to them.
-/

namespace PegEngine

namespace ScopeStack

variable {α σ : Type}

/-- The frames that are set aside hold no labels. -/
def SpareEmpty (stack : ScopeStack α) : Prop :=
  ∀ frame ∈ stack.spare, frame = Frame.empty

theorem top_push {stack : ScopeStack α} (spare : stack.SpareEmpty) :
    stack.push.top = Frame.empty := by
  unfold push
  cases frames : stack.spare with
  | nil => rfl
  | cons frame others => exact spare frame (by simp [frames])

@[simp]
theorem below_push (stack : ScopeStack α) :
    stack.push.below = stack.top :: stack.below := by
  unfold push
  cases stack.spare <;> rfl

theorem SpareEmpty.push {stack : ScopeStack α} (spare : stack.SpareEmpty) :
    stack.push.SpareEmpty := by
  unfold ScopeStack.push
  cases frames : stack.spare with
  | nil => exact fun _ none => nomatch none
  | cons frame others =>
      exact fun other isOther => spare other (by simp_all)

theorem pop_eq {stack : ScopeStack α} {frame : Frame α} {below : List (Frame α)}
    (frames : stack.below = frame :: below) :
    stack.pop = ⟨frame, below, stack.top.clear :: stack.spare⟩ := by
  unfold pop
  rw [frames]

theorem SpareEmpty.pop {stack : ScopeStack α} (spare : stack.SpareEmpty) :
    stack.pop.SpareEmpty := by
  unfold ScopeStack.pop
  cases stack.below with
  | nil => exact spare
  | cons frame below =>
      intro other isOther
      rcases List.mem_cons.mp isOther with rfl | isOther
      · exact Frame.clear_eq_empty _
      · exact spare other isOther

end ScopeStack

/-- A kept result is one that the node can have: a match that the grammar
allows, or a failure that consumed nothing. -/
structure MemoEntry.Fits {α σ : Type} (session : Session α σ) (key : MemoKey)
    (entry : MemoEntry α) : Prop where
  stands : entry.finish.Stands session.input
  unmatched : entry.value = none → entry.finish.offset = key.offset
  matched : ∀ (expr : Expr α σ) (value : Value α),
    session.grammar.nodeExpr? key.node = some expr →
      entry.value = some value →
        session.grammar.Spans session.input expr key.offset value
          entry.finish.offset

/-- The part of a location that does not depend on the rule. -/
def Session.placeText {α σ : Type} (session : Session α σ)
    (position : Position) : String :=
  (if session.fileName.isEmpty then "" else session.fileName ++ ":") ++
    position.parenthesized

/-- A diagnostic names the rule from which it was reported.  Only a malformed
byte at the very start of the input is reported before there is a rule. -/
def Diagnostic.Attributed {α σ : Type} (session : Session α σ)
    (diagnostic : Diagnostic) : Prop :=
  (∃ rule : Rule α σ, diagnostic.location =
    session.placeText diagnostic.position ++ ": rule " ++
      rule.diagnosticName) ∨
  diagnostic.location = session.placeText diagnostic.position ∧
    diagnostic.error = .invalidEncoding

namespace ParseState

variable {α σ : Type}

/-- A state that evaluation can be in: the cursor stands on a boundary, the
frames that are set aside are empty, every kept result fits its node, and the
diagnostics name their rules. -/
structure Sound (session : Session α σ) (state : ParseState α σ) : Prop where
  stands : state.cursor.Stands session.input
  spare : state.scopes.SpareEmpty
  memo : ∀ (key : MemoKey) (entry : MemoEntry α),
    state.memo.lookup key = some entry → entry.Fits session key
  reports : ∀ diagnostic ∈ state.diagnostics.toList,
    diagnostic.Attributed session

/-- The innermost rule that is being evaluated is the one at an index of the
grammar. -/
def Runs (session : Session α σ) (index : Nat) (state : ParseState α σ) :
    Prop :=
  ∃ rule, session.grammar.rules[index]? = some rule ∧
    state.activeRules.head? = some rule

/-- The limit on expressions has not been passed. -/
def Within (session : Session α σ) (state : ParseState α σ) : Prop :=
  ∀ limit, session.options.maxExpressions = some limit →
    state.expressions ≤ limit

/-- The limit on expressions has been passed, by one expression. -/
def Exceeds (session : Session α σ) (state : ParseState α σ) : Prop :=
  ∃ limit, session.options.maxExpressions = some limit ∧
    state.expressions = limit + 1

/-- A state from which evaluation can go on. -/
structure Ready (session : Session α σ) (state : ParseState α σ) : Prop
    extends Sound session state where
  within : state.Within session

/-- What was entered has been left again. -/
structure Balanced (before after : ParseState α σ) : Prop where
  below : after.scopes.below = before.scopes.below
  activeRules : after.activeRules = before.activeRules
  inverted : after.expectations.inverted = before.expectations.inverted
  openNodes : after.openNodes = before.openNodes
  expressions : before.expressions ≤ after.expressions

theorem Balanced.refl (state : ParseState α σ) : Balanced state state :=
  ⟨rfl, rfl, rfl, rfl, Nat.le_refl _⟩

theorem Balanced.trans {before middle after : ParseState α σ}
    (first : Balanced before middle) (second : Balanced middle after) :
    Balanced before after where
  below := second.below.trans first.below
  activeRules := second.activeRules.trans first.activeRules
  inverted := second.inverted.trans first.inverted
  openNodes := second.openNodes.trans first.openNodes
  expressions := Nat.le_trans first.expressions second.expressions

theorem Steady.balanced {session : Session α σ} {before after : ParseState α σ}
    (steady : Steady session before after) : Balanced before after where
  below := by rw [steady.scopes]
  activeRules := steady.activeRules
  inverted := steady.inverted
  openNodes := steady.openNodes
  expressions := Nat.le_of_eq steady.expressions.symm

/-- Leaving the scope that was entered gives the frames back. -/
theorem Balanced.scopes_popScope {before after : ParseState α σ}
    (balanced : Balanced before.pushScope after) :
    after.popScope.scopes = ⟨before.scopes.top, before.scopes.below,
      after.scopes.top.clear :: after.scopes.spare⟩ :=
  ScopeStack.pop_eq
    (balanced.below.trans (ScopeStack.below_push before.scopes))

theorem Balanced.popScope {before after : ParseState α σ}
    (balanced : Balanced before.pushScope after) :
    Balanced before after.popScope where
  below := by rw [balanced.scopes_popScope]
  activeRules := balanced.activeRules
  inverted := balanced.inverted
  openNodes := balanced.openNodes
  expressions := balanced.expressions

theorem Balanced.top_popScope {before after : ParseState α σ}
    (balanced : Balanced before.pushScope after) :
    after.popScope.scopes.top = before.scopes.top := by
  rw [balanced.scopes_popScope]

theorem Balanced.toggle {before after : ParseState α σ}
    (balanced : Balanced before.toggle after) :
    Balanced before after.toggle :=
  { balanced with
    inverted := by
      have inside : after.expectations.inverted =
          !before.expectations.inverted :=
        balanced.inverted
      simp [ParseState.toggle, Expectations.toggle, inside] }

theorem overLimit_eq_true {session : Session α σ} {state : ParseState α σ} :
    state.overLimit session = true ↔
      ∃ limit, session.options.maxExpressions = some limit ∧
        limit < state.expressions := by
  unfold overLimit
  cases session.options.maxExpressions <;> simp

theorem overLimit_eq_false {session : Session α σ} {state : ParseState α σ} :
    state.overLimit session = false ↔ state.Within session := by
  unfold overLimit Within
  cases session.options.maxExpressions <;> simp

variable {session : Session α σ} {state : ParseState α σ}

theorem Sound.ready (sound : state.Sound session)
    (within : state.Within session) : state.Ready session :=
  { sound with within := within }

theorem location_of_head {rule : Rule α σ}
    (innermost : state.activeRules.head? = some rule) (position : Position) :
    state.location session position =
      session.placeText position ++ ": rule " ++ rule.diagnosticName := by
  obtain ⟨others, active⟩ := List.head?_eq_some_iff.mp innermost
  simp only [location, active, Session.placeText, String.append_assoc]

theorem location_of_noRule (noRule : state.activeRules = [])
    (position : Position) :
    state.location session position = session.placeText position := by
  simp [location, noRule, Session.placeText]

/-- What is reported from a rule names that rule. -/
theorem Runs.attributed {index : Nat} (runs : state.Runs session index)
    {diagnostic : Diagnostic}
    (here : diagnostic.location =
      state.location session diagnostic.position) :
    diagnostic.Attributed session := by
  obtain ⟨rule, _, innermost⟩ := runs
  exact .inl ⟨rule, here.trans (location_of_head innermost _)⟩

theorem Runs.of_eq {after : ParseState α σ} {index : Nat}
    (runs : state.Runs session index)
    (same : after.activeRules = state.activeRules) :
    after.Runs session index := by
  obtain ⟨rule, isRule, innermost⟩ := runs
  exact ⟨rule, isRule, by rw [same, innermost]⟩

theorem runs_enterRule {index : Nat} {rule : Rule α σ}
    (isRule : session.grammar.rules[index]? = some rule) :
    (state.enterRule rule).Runs session index :=
  ⟨rule, isRule, rfl⟩

theorem Sound.steady {after : ParseState α σ} {index : Nat}
    (sound : state.Sound session) (steady : Steady session state after)
    (runs : state.Runs session index)
    (stands : after.cursor.Stands session.input) : after.Sound session where
  stands := stands
  spare := steady.scopes ▸ sound.spare
  memo := steady.memo ▸ sound.memo
  reports diagnostic reported := by
    rcases steady.reports diagnostic reported with earlier | here
    · exact sound.reports diagnostic earlier
    · exact runs.attributed here

theorem Within.of_expressions_eq {after : ParseState α σ}
    (within : state.Within session)
    (same : after.expressions = state.expressions) : after.Within session :=
  fun limit limited => same ▸ within limit limited

theorem Within.of_unlimited
    (unlimited : session.options.maxExpressions = none) :
    state.Within session :=
  fun _ limited => nomatch unlimited.symm.trans limited

theorem Ready.steady {after : ParseState α σ} {index : Nat}
    (ready : state.Ready session) (steady : Steady session state after)
    (runs : state.Runs session index)
    (stands : after.cursor.Stands session.input) : after.Ready session :=
  (ready.toSound.steady steady runs stands).ready
    (ready.within.of_expressions_eq steady.expressions)

theorem Sound.restore (sound : state.Sound session) {cursor : Cursor}
    (stands : cursor.Stands session.input) :
    (state.restore session cursor).Sound session := by
  rw [restore_eq]
  exact { sound with stands := stands }

theorem Ready.restore (ready : state.Ready session) {cursor : Cursor}
    (stands : cursor.Stands session.input) :
    (state.restore session cursor).Ready session :=
  (ready.toSound.restore stands).ready
    (ready.within.of_expressions_eq
      (steady_restore session cursor state).expressions)

theorem Sound.remember (sound : state.Sound session) {key : MemoKey}
    {value : Option (Value α)}
    (fits : MemoEntry.Fits session key ⟨value, state.cursor⟩) :
    (state.remember key value).Sound session := by
  refine { sound with memo := fun other entry kept => ?_ }
  simp only [ParseState.remember, MemoTable.lookup_store] at kept
  split at kept
  case isTrue same =>
    cases kept
    exact same ▸ fits
  case isFalse => exact sound.memo other entry kept

theorem Ready.pushScope (ready : state.Ready session) :
    state.pushScope.Ready session :=
  { ready with spare := ready.spare.push }

theorem Sound.popScope (sound : state.Sound session) :
    state.popScope.Sound session :=
  { sound with spare := sound.spare.pop }

theorem Ready.toggle (ready : state.Ready session) :
    state.toggle.Ready session :=
  { ready with }

theorem Ready.enterRule (ready : state.Ready session) (rule : Rule α σ) :
    (state.enterRule rule).Ready session :=
  { ready with spare := ready.spare.push }

/-- The cursor and all that the discipline is about but the number of open
nodes is out of the reach of traces. -/
theorem enterNode_eq (session : Session α σ) (subject : Subject)
    (state : ParseState α σ) :
    state.enterNode session subject =
      { state with
        openNodes := state.openNodes + (if session.options.debug then 1 else 0)
        log := (state.enterNode session subject).log } := by
  unfold enterNode
  cases session.options.debug <;> rfl

theorem leaveNode_eq (session : Session α σ) (subject : Subject)
    (state : ParseState α σ) :
    state.leaveNode session subject =
      { state with
        openNodes := state.openNodes - (if session.options.debug then 1 else 0)
        log := (state.leaveNode session subject).log } := by
  unfold leaveNode
  cases session.options.debug <;> rfl

theorem Ready.enterNode (ready : state.Ready session) (subject : Subject) :
    (state.enterNode session subject).Ready session := by
  rw [enterNode_eq]
  exact { ready with }

@[simp]
theorem cursor_enterNode (subject : Subject) :
    (state.enterNode session subject).cursor = state.cursor := by
  rw [enterNode_eq]

@[simp]
theorem cursor_leaveNode (subject : Subject) :
    (state.leaveNode session subject).cursor = state.cursor := by
  rw [leaveNode_eq]

@[simp]
theorem store_enterNode (subject : Subject) :
    (state.enterNode session subject).store = state.store := by
  rw [enterNode_eq]

@[simp]
theorem store_leaveNode (subject : Subject) :
    (state.leaveNode session subject).store = state.store := by
  rw [leaveNode_eq]

@[simp]
theorem scopes_enterNode (subject : Subject) :
    (state.enterNode session subject).scopes = state.scopes := by
  rw [enterNode_eq]

@[simp]
theorem scopes_leaveNode (subject : Subject) :
    (state.leaveNode session subject).scopes = state.scopes := by
  rw [leaveNode_eq]

@[simp]
theorem expressions_enterNode (subject : Subject) :
    (state.enterNode session subject).expressions = state.expressions := by
  rw [enterNode_eq]

theorem Runs.enterNode {index : Nat} (runs : state.Runs session index)
    (subject : Subject) :
    (state.enterNode session subject).Runs session index :=
  runs.of_eq (by rw [enterNode_eq])

end ParseState

end PegEngine
