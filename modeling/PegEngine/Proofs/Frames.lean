import PegEngine.Proofs.Attribution
import PegEngine.Proofs.Replay
import PegEngine.Proofs.Visits

/-!
# What evaluation gives back

From every state that a parse reaches, the evaluation of any rule or expression
gives back what it has entered: the rules and the label scopes, the polarity of
attempts, and the nodes that are traced (`Eval.GivesBack`).  It changes no
labels but those of the innermost scope, and those only in a sequence, under a
label or for an action.  If there is no match, the cursor is back where it was;
if there is one, the cursor has not moved backwards.  All this holds of what is
replayed and of what is given up as well (`Session.Reaches.gives_back`), and
before there is a rule to which an expression would belong
(`ParseState.Callable.exists_twin`).
-/

namespace PegEngine

open ParseState

/-- Test whether a node may change the labels of the scope in which it is
evaluated. -/
def Grammar.bindsLabels {α σ : Type} (grammar : Grammar α σ) : NodeKey → Bool
  | .rule _ => false
  | .expression place => (grammar.exprAt? place).any Expr.bindsLabels

theorem Grammar.exists_rule_of_nodeExpr? {α σ : Type} {grammar : Grammar α σ}
    {node : NodeKey} {expr : Expr α σ}
    (isNode : grammar.nodeExpr? node = some expr) :
    ∃ (rule : Rule α σ) (index : Nat),
      grammar.rules[index]? = some rule := by
  cases node with
  | rule index =>
      obtain ⟨rule, isRule, -⟩ := Option.map_eq_some_iff.mp isNode
      exact ⟨rule, index, isRule⟩
  | expression place =>
      obtain ⟨rule, isRule⟩ := exprAt?_rule isNode
      exact ⟨rule, place.rule, isRule⟩

namespace Eval

variable {α σ : Type}

/-- What the evaluation of a node leaves as it was. -/
structure GivesBack (session : Session α σ) (node : NodeKey)
    (before : ParseState α σ) (verdict : Verdict α) (after : ParseState α σ) :
    Prop where
  activeRules : after.activeRules = before.activeRules
  depth : after.scopes.depth = before.scopes.depth
  below : after.scopes.below = before.scopes.below
  top : session.grammar.bindsLabels node = false →
    after.scopes.top = before.scopes.top
  inverted : after.expectations.inverted = before.expectations.inverted
  openNodes : after.openNodes = before.openNodes
  unmatched : verdict = .unmatched → after.cursor = before.cursor
  matched : ∀ value, verdict = .matched value →
    before.cursor.offset ≤ after.cursor.offset

variable {session : Session α σ}

theorem evalKeyed_oblivious (outer : List (Rule α σ)) (session : Session α σ)
    (depth : Nat) (node : NodeKey) :
    Oblivious outer (evalKeyed session depth node) := by
  have exprs := evalExpr_oblivious outer session depth
  cases node with
  | rule index =>
      simp only [evalKeyed]
      split
      · exact evalRule_oblivious exprs _ _
      · exact fun _ _ _ _ => .of_exhausted rfl
  | expression place =>
      simp only [evalKeyed]
      split
      · exact exprs _ _
      · exact fun _ _ _ _ => .of_exhausted rfl

/-- Within a rule, every node of the grammar keeps to the discipline. -/
theorem evalKeyed_settles (valid : session.grammar.error? = none)
    (depth : Nat) {node : NodeKey} {expr : Expr α σ} {state : ParseState α σ}
    {active : Nat} (isNode : session.grammar.nodeExpr? node = some expr)
    (ready : state.Ready session) (runs : state.Runs session active) :
    Settles session True (session.grammar.bindsLabels node)
      (session.grammar.Spans session.input expr state.cursor.offset)
      state.cursor (evalKeyed session depth node) state := by
  cases node with
  | rule index =>
      obtain ⟨rule, isRule, rfl⟩ := Option.map_eq_some_iff.mp isNode
      simp only [evalKeyed, isRule]
      exact evalRule_settles isRule ready fun inner _ ready runs _ =>
        evalExpr_settles valid depth (Grammar.exprAt?_body isRule) ready runs
  | expression place =>
      have found : session.grammar.exprAt? place = some expr := isNode
      simp only [evalKeyed, Grammar.bindsLabels, found, Option.any_some]
      exact evalExpr_settles valid depth found ready runs

end Eval

/-- In a state in which something may be called, a rule may be put around
everything, so that there is one that is being evaluated. -/
theorem ParseState.Callable.exists_twin {α σ : Type} {session : Session α σ}
    {state : ParseState α σ} (callable : state.Callable session)
    {rule : Rule α σ} {index : Nat}
    (isRule : session.grammar.rules[index]? = some rule) :
    ∃ before active, Twin state.activeRules [rule] state before ∧
      before.Ready session ∧ before.Runs session active := by
  have ready : ParseState.Ready session
      { state with
        activeRules := state.activeRules ++ [rule]
        diagnostics := Diagnostics.empty } :=
    { callable.ready with reports := nofun }
  rcases callable.rule with none | ⟨active, innermost, isActive, isInnermost⟩
  · exact ⟨_, index, ⟨rfl, _, rfl⟩, ready, rule, isRule, by simp [none]⟩
  · exact ⟨_, active, ⟨rfl, _, rfl⟩, ready, innermost, isActive,
      by simp [isInnermost]⟩

namespace Session

variable {α σ : Type} {session : Session α σ} {state : ParseState α σ}

/-- Only nodes of the grammar are evaluated. -/
theorem exists_nodeExpr? {depth : Nat} {node : NodeKey} {verdict : Verdict α}
    {after : ParseState α σ}
    (run : Eval.evalKeyed session depth node state = .ok verdict after) :
    ∃ expr, session.grammar.nodeExpr? node = some expr := by
  cases node with
  | rule index =>
      cases isRule : session.grammar.rules[index]? with
      | none =>
          simp only [Eval.evalKeyed, isRule] at run
          cases run
      | some rule => exact ⟨rule.body, by simp [Grammar.nodeExpr?, isRule]⟩
  | expression place =>
      cases found : session.grammar.exprAt? place with
      | none =>
          simp only [Eval.evalKeyed, found] at run
          cases run
      | some expr => exact ⟨expr, found⟩

/-- Wherever a parse comes to evaluate something, every node of the grammar
keeps to the discipline, once a rule is put around everything. -/
theorem Reaches.exists_settled (reaches : session.Reaches state) {depth : Nat}
    {node : NodeKey} {expr : Expr α σ} {verdict : Verdict α}
    {after : ParseState α σ}
    (isNode : session.grammar.nodeExpr? node = some expr)
    (run : Eval.evalKeyed session depth node state = .ok verdict after) :
    ∃ outer before finish, Twin state.activeRules outer state before ∧
      Twin state.activeRules outer after finish ∧
      Eval.Settled session (session.grammar.bindsLabels node)
        (session.grammar.Spans session.input expr state.cursor.offset)
        state.cursor before verdict finish := by
  obtain ⟨rule, index, isRule⟩ := Grammar.exists_rule_of_nodeExpr? isNode
  obtain ⟨before, active, twin, ready, runs⟩ :=
    reaches.callable.exists_twin isRule
  obtain ⟨finish, runToo, twinToo⟩ :=
    (Eval.evalKeyed_oblivious [rule] session depth node _ _ _ twin).result
      verdict after run
  have settled :=
    (Eval.evalKeyed_settles reaches.1 depth isNode ready runs).result runToo
  obtain ⟨-, diagnostics, rfl⟩ := id twin
  exact ⟨[rule], _, finish, twin, twinToo, settled⟩

/-- Whatever node is evaluated in a state that a parse reaches, the evaluation
gives back what it has entered. -/
theorem Reaches.gives_back (reaches : session.Reaches state) (depth : Nat)
    (node : NodeKey) {verdict : Verdict α} {after : ParseState α σ}
    (run : Eval.evalKeyed session depth node state = .ok verdict after) :
    Eval.GivesBack session node state verdict after := by
  obtain ⟨expr, isNode⟩ := exists_nodeExpr? run
  obtain ⟨outer, before, finish, ⟨-, earlier, rfl⟩, ⟨rules, later, rfl⟩,
    settled⟩ := reaches.exists_settled isNode run
  have balanced := settled.balanced
  have below : after.scopes.below = state.scopes.below := balanced.below
  refine
    { activeRules := rules
      depth := by simp only [ScopeStack.depth, below]
      below := below
      top := settled.labels
      inverted := balanced.inverted
      openNodes := balanced.openNodes
      unmatched := ?_
      matched := ?_ }
  · rintro rfl
    exact settled.describes.1
  · rintro value rfl
    exact settled.describes.1.le

end Session

namespace Grammar

/-- A grammar of a word that has been looked at before. -/
def guarded : Grammar Unit :=
  ⟨[⟨"Guarded", "",
      .sequence
        [.labeled "guard" (.notFollowedBy (.exactly "b")),
          .reference "Word"]⟩,
    ⟨"Word", "", .sequence [.exactly "a", .exactly "b"]⟩]⟩

def guardedSession : Session Unit :=
  .ofSettings guarded "" "ab".toUTF8 [.memoize true, .debug true]

/-- Under the lookahead, where attempts are inverted and two scopes have been
entered, the reference to the word gives back what it has entered. -/
theorem guarded_gives_back :
    ∃ state, guardedSession.Reaches state ∧
      state.expectations.inverted = true ∧ state.scopes.depth = 4 ∧
      ∃ value after,
        Eval.evalKeyed guardedSession 8 (.expression ⟨0, [1]⟩) state =
          .ok (.matched value) after ∧
        Eval.GivesBack guardedSession (.expression ⟨0, [1]⟩) state
          (.matched value) after := by
  have reaches : guardedSession.Reaches _ :=
    ⟨rfl, _, 8, rfl, _, List.mem_of_getElem? (i := 4) rfl, rfl⟩
  exact ⟨_, reaches, rfl, rfl, _, _, rfl, reaches.gives_back 8 _ rfl⟩

end Grammar

end PegEngine
