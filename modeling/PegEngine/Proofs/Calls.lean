import PegEngine.Proofs.Changes
import PegEngine.Proofs.Visits

/-!
# Following the calls of an evaluation

Two kinds of facts about the calls of an evaluation are shown here by following
it from call to call, once and for all.  A property of lists of calls that is
kept up when lists are joined and when a call is put in front of those that it
makes holds of all the calls that are made in a valid grammar
(`Eval.Hereditary`).  And a relation between the calls of an evaluation and the
states before and after it holds of every evaluation that comes to a verdict if
it is kept up by whatever opens and closes no node, and by putting a call around
what it makes (`Eval.Tracking`).
-/

namespace PegEngine

open ParseState

/-- Test whether an entry tells of a node that is entered or left. -/
def LogEntry.isBracket : LogEntry → Bool
  | .entered _ _ _ | .left _ _ _ => true
  | .matched _ _ | .restored _ _ | .ruleless _ | .rejected _ _
  | .aborted _ _ _ | .recovered _ _ => false

namespace Visit

variable {α σ : Type}

/-- What is entered and left when a call is evaluated. -/
def subject : Visit α σ → Subject
  | .rule target _ _ _ => .rule target.name
  | .expression _ expr _ _ => .expression expr.kindName

/-- Test whether a call is evaluated: its result is not replayed, and the limit
leaves room for it. -/
def isEvaluated (session : Session α σ) : Visit α σ → Bool
  | .rule _ index _ state =>
    !Eval.replays session.options.memoize (.rule index) state
  | .expression place expr _ state => Eval.enters session place expr state

/-- The state of a call that is evaluated once the node has been entered. -/
def opened (session : Session α σ) : Visit α σ → ParseState α σ
  | .rule target _ _ state => state.enterNode session (.rule target.name)
  | .expression _ expr _ state =>
    state.countExpression.enterNode session (.expression expr.kindName)

/-- What was called comes to a verdict, and leaves the parse in a state. -/
def ComesTo (session : Session α σ) (verdict : Verdict α)
    (after : ParseState α σ) : Visit α σ → Prop
  | .rule target index _ state =>
    ∃ depth, Eval.evalRule session (Eval.evalExpr session depth) target index
      state = .ok verdict after
  | .expression place expr _ state =>
    ∃ depth, Eval.evalExpr session depth place expr state = .ok verdict after

end Visit

namespace Eval

variable {α σ β γ : Type} {session : Session α σ}

/-- The calls of a reference are those of its rule. -/
theorem visitsOfNode_reference
    {evaluate : ExprPlace → Expr α σ → Eval α σ (Verdict α)}
    {visits : ExprPlace → Expr α σ → (nots : Nat) → ParseState α σ →
      List (Visit α σ)}
    {place : ExprPlace} {nots : Nat} {state : ParseState α σ} {name : String}
    {rule : Rule α σ} {index : Nat} (named : name.isEmpty = false)
    (target : session.grammar.target? name = some (rule, index)) :
    visitsOfNode session evaluate visits place nots state (.reference name) =
      visitsOfRule session visits rule index nots state := by
  simp only [visitsOfNode, target, named, Bool.false_eq_true, if_false]

/-- The calls that a rule makes, if it is evaluated, come after its own. -/
theorem visitsOfRule_eq
    (visits : ExprPlace → Expr α σ → (nots : Nat) → ParseState α σ →
      List (Visit α σ))
    (rule : Rule α σ) (index nots : Nat) (state : ParseState α σ) :
    visitsOfRule session visits rule index nots state =
      .rule rule index nots state ::
        if (Visit.rule rule index nots state).isEvaluated session then
          visits (.body index) rule.body nots
            ((state.enterNode session (.rule rule.name)).enterRule rule)
        else [] := by
  by_cases replayed : replays session.options.memoize (.rule index) state =
      true <;>
    simp [visitsOfRule, Visit.isEvaluated, replayed]

/-- A property of lists of calls that is kept up in building the lists of a
valid grammar.  Calls are of nodes of the grammar, and the first call that a
reference makes is that of its rule. -/
structure Hereditary (session : Session α σ)
    (holds : List (Visit α σ) → Prop) : Prop where
  nil : holds []
  append : ∀ {calls later : List (Visit α σ)},
    holds calls → holds later → holds (calls ++ later)
  rule : ∀ {rule : Rule α σ} {index nots : Nat} {state : ParseState α σ}
      {calls : List (Visit α σ)},
    session.grammar.rules[index]? = some rule → holds calls →
      holds (.rule rule index nots state :: calls)
  expression : ∀ {place : ExprPlace} {expr : Expr α σ} {nots : Nat}
      {state : ParseState α σ} {calls : List (Visit α σ)},
    session.grammar.exprAt? place = some expr →
      (∀ name, expr = .reference name →
        enters session place expr state = true →
          ∃ rule target later,
            session.grammar.target? name = some (rule, target) ∧
            name.isEmpty = false ∧
            calls = .rule rule target nots
              (state.countExpression.enterNode session
                (.expression expr.kindName)) :: later) →
      holds calls → holds (.expression place expr nots state :: calls)

namespace Hereditary

variable {holds : List (Visit α σ) → Prop}
  (hereditary : Hereditary session holds)
  {evaluate : ExprPlace → Expr α σ → Eval α σ (Verdict α)}
  {callsOf : ExprPlace → Expr α σ → (nots : Nat) → ParseState α σ →
    List (Visit α σ)}
  (members : ∀ place expr nots state,
    session.grammar.exprAt? place = some expr →
      holds (callsOf place expr nots state))
  {place : ExprPlace} {nots : Nat}
include hereditary members

theorem visitsInSequence {index : Nat} {exprs : List (Expr α σ)}
    (lists : session.grammar.Lists place index exprs) (state : ParseState α σ) :
    holds (visitsInSequence evaluate callsOf place nots index exprs state) := by
  induction exprs generalizing index state with
  | nil => exact hereditary.nil
  | cons expr exprs ih =>
      refine hereditary.append (members _ _ _ _ lists.head) ?_
      split
      · exact ih lists.tail _
      · exact hereditary.nil

theorem visitsInChoice {index : Nat} {exprs : List (Expr α σ)}
    (lists : session.grammar.Lists place index exprs) (state : ParseState α σ) :
    holds (visitsInChoice evaluate callsOf place nots index exprs state) := by
  induction exprs generalizing index state with
  | nil => exact hereditary.nil
  | cons expr exprs ih =>
      refine hereditary.append (members _ _ _ _ lists.head) ?_
      split
      · exact ih lists.tail _
      · exact hereditary.nil

theorem visitsInRounds {body : Expr α σ}
    (found : session.grammar.exprAt? place = some body) (rounds : Nat)
    (state : ParseState α σ) :
    holds (visitsInRounds (evaluate place body) (callsOf place body nots)
      rounds state) := by
  induction rounds generalizing state with
  | zero => exact hereditary.nil
  | succ rounds ih =>
      refine hereditary.append (members _ _ _ _ found) ?_
      split
      · split
        · exact hereditary.nil
        · exact ih _
      · exact hereditary.nil

theorem visitsOfRule {rule : Rule α σ} {index : Nat}
    (isRule : session.grammar.rules[index]? = some rule)
    (state : ParseState α σ) :
    holds (visitsOfRule session callsOf rule index nots state) := by
  refine hereditary.rule isRule ?_
  split
  · exact hereditary.nil
  · exact members _ _ _ _ (Grammar.exprAt?_body isRule)

theorem visitsOfNode (valid : session.grammar.error? = none) {expr : Expr α σ}
    (found : session.grammar.exprAt? place = some expr)
    (state : ParseState α σ) :
    holds (visitsOfNode session evaluate callsOf place nots state expr) := by
  have only : ∀ {body : Expr α σ}, expr.members = [body] →
      session.grammar.exprAt? (place.member 0) = some body :=
    Grammar.exprAt?_onlyMember found
  cases expr with
  | literal | oneOf | any | require | forbid => exact hereditary.nil
  | sequence exprs =>
      exact hereditary.visitsInSequence members (Grammar.lists_members found) _
  | choice exprs =>
      exact hereditary.visitsInChoice members (Grammar.lists_members found) _
  | zeroOrMore body | oneOrMore body =>
      exact hereditary.visitsInRounds members (only rfl) _ _
  | optional body | followedBy body | labeled label body
  | notFollowedBy body | action body run => exact members _ _ _ _ (only rfl)
  | reference name =>
      obtain ⟨named, rule, index, target⟩ :=
        Grammar.target?_of_valid valid found
      rw [visitsOfNode_reference named target]
      exact hereditary.visitsOfRule members (Grammar.rule_of_target? target) _

omit members in
/-- What is hereditary holds of the calls that are made in evaluating a place of
a valid grammar, and of its own call in front of them. -/
theorem visits (valid : session.grammar.error? = none) (depth : Nat)
    (place : ExprPlace) (expr : Expr α σ) (nots : Nat) (state : ParseState α σ)
    (found : session.grammar.exprAt? place = some expr) :
    holds (visits session depth place expr nots state) := by
  induction depth generalizing place expr nots state with
  | zero => exact hereditary.nil
  | succ depth ih =>
      refine hereditary.expression found ?_ ?_
      · rintro name rfl isEntered
        obtain ⟨named, rule, index, target⟩ :=
          Grammar.target?_of_valid valid found
        rw [if_pos isEntered, visitsOfNode_reference named target]
        exact ⟨rule, index, _, target, named, rfl⟩
      · split
        · exact hereditary.visitsOfNode ih valid found _
        · exact hereditary.nil

omit members in
/-- So it holds of all the calls of a parse. -/
theorem parse (valid : session.grammar.error? = none) {entry : Rule α σ}
    (starts : session.grammar.start? = some entry) (depth : Nat) :
    holds (session.visits depth entry) :=
  hereditary.visitsOfRule (hereditary.visits valid depth)
    (Grammar.entry_of_start? starts) session.opening

end Hereditary

/-- A change of the state that opens and closes no node that is traced. -/
structure Aside (session : Session α σ) (before after : ParseState α σ) :
    Prop where
  change : Change session before after
  openNodes : after.openNodes = before.openNodes
  log : ∃ entries, after.log.toList = before.log.toList ++ entries ∧
    ∀ entry ∈ entries, entry.isBracket = false

section Asides

variable {before after : ParseState α σ}

theorem Aside.of_eq (change : Change session before after)
    (openNodes : after.openNodes = before.openNodes)
    (log : after.log = before.log) : Aside session before after :=
  ⟨change, openNodes, [], by simp [log], nofun⟩

theorem Aside.of_push (entry : LogEntry)
    (change : Change session before after)
    (openNodes : after.openNodes = before.openNodes)
    (log : after.log = before.log.push entry)
    (notBracket : entry.isBracket = false) : Aside session before after :=
  ⟨change, openNodes, [entry], by simp [log], by simpa using notBracket⟩

variable (session) (state : ParseState α σ)

theorem aside_read : Aside session state (state.read session) :=
  .of_eq (.read state) (by rw [read_eq]) (by rw [read_eq])

theorem aside_restore (cursor : Cursor) :
    Aside session state (state.restore session cursor) := by
  by_cases moves : cursor.offset = state.cursor.offset
  · refine .of_eq (.restore cursor state) ?_ ?_ <;> simp [restore, moves]
  · by_cases traced : session.options.debug = true
    · refine .of_push (.restored state.openNodes cursor.position)
        (.restore cursor state) ?_ ?_ rfl <;>
        simp [restore, moves, trace, traced, note]
    · refine .of_eq (.restore cursor state) ?_ ?_ <;>
        simp [restore, moves, trace, traced]

theorem aside_traceMatch (start : Cursor) :
    Aside session state (state.traceMatch session start) := by
  by_cases traced : session.options.debug = true
  · refine .of_push (.matched state.openNodes (state.textFrom session start))
      (.traceMatch start state) ?_ ?_ rfl <;>
      simp [traceMatch, traced, note]
  · refine .of_eq (.traceMatch start state) ?_ ?_ <;>
      simp [traceMatch, traced]

theorem aside_bind (label : String) (value : Value α) :
    Aside session state (state.bind label value) := by
  refine .of_eq (.bind label value state) ?_ ?_ <;>
    unfold ParseState.bind <;> split <;> rfl

theorem aside_attempt (failed : Bool) (start : Cursor)
    (descriptor : String) :
    Aside session state (state.attempt failed start descriptor) :=
  .of_eq (.attempt failed start descriptor state) rfl rfl

theorem aside_complain (message : String) (position : Position) :
    Aside session state
      (state.report session (.semantic message) position) :=
  .of_eq (.complain message position state) rfl rfl

end Asides

/-- A relation between a state, the calls that are made from there on, and a
later state, which evaluation keeps up.  Opening and closing a node are not
changes on the side: they come in pairs, around what the call of the node
makes. -/
structure Tracking (session : Session α σ)
    (tracks : List (Visit α σ) → ParseState α σ → ParseState α σ → Prop) :
    Prop where
  refl : ∀ state, tracks [] state state
  trans : ∀ {calls later : List (Visit α σ)}
    {before middle after : ParseState α σ},
    tracks calls before middle → tracks later middle after →
      tracks (calls ++ later) before after
  aside : ∀ {before after : ParseState α σ},
    Aside session before after → tracks [] before after
  skipped : ∀ {visit : Visit α σ} {verdict : Verdict α}
    {after : ParseState α σ},
    visit.ComesTo session verdict after → visit.isEvaluated session = false →
      tracks [] visit.state after → tracks [visit] visit.state after
  evaluated : ∀ {visit : Visit α σ} {calls : List (Visit α σ)}
      {verdict : Verdict α} {inner after : ParseState α σ},
    visit.ComesTo session verdict after → visit.isEvaluated session = true →
      tracks calls (visit.opened session) inner →
        tracks [] (inner.leaveNode session visit.subject) after →
          after.cursor = inner.cursor →
            tracks (visit :: calls) visit.state after

/-- If a program gives a result, a relation holds of the states before and after
it and the calls that are made in it. -/
def Tracks (tracks : List (Visit α σ) → ParseState α σ → ParseState α σ → Prop)
    (calls : List (Visit α σ)) (program : Eval α σ β) (state : ParseState α σ) :
    Prop :=
  Ends program (fun _ after => tracks calls state after) (fun _ => True) True
    state

/-- What holds around a call that has come to a verdict.  If it is evaluated,
its calls are made while its node is open, which is left where the call ends,
and otherwise it makes none. -/
inductive Around (session : Session α σ)
    (tracks : List (Visit α σ) → ParseState α σ → ParseState α σ → Prop)
    (calls : List (Visit α σ)) (visit : Visit α σ) (after : ParseState α σ) :
    Prop
  | evaluated {inner : ParseState α σ}
      (isEvaluated : visit.isEvaluated session = true)
      (inside : tracks calls (visit.opened session) inner)
      (outside : tracks [] (inner.leaveNode session visit.subject) after)
      (unmoved : after.cursor = inner.cursor)
  | skipped (notEvaluated : visit.isEvaluated session = false)
      (outside : tracks [] visit.state after)

namespace Tracking

variable {tracks : List (Visit α σ) → ParseState α σ → ParseState α σ → Prop}
  (tracking : Tracking session tracks)
include tracking

section Programs

variable {calls later : List (Visit α σ)} {program : Eval α σ β}
  {state : ParseState α σ}

theorem result (value : β) : Tracks tracks [] (pure value) state :=
  tracking.refl state

theorem bind {next : β → Eval α σ γ}
    (first : Tracks tracks calls program state)
    (rest : ∀ value after, program state = .ok value after →
      Tracks tracks later (next value) after) :
    Tracks tracks (calls ++ later) (program >>= next) state := by
  refine ends_bind.mpr (first.mono_run fun value after run reached => ?_)
  exact (rest value after run).mono_result fun _ _ => tracking.trans reached

/-- A program, and one that makes no calls. -/
theorem followed {next : β → Eval α σ γ}
    (first : Tracks tracks calls program state)
    (rest : ∀ value after, Tracks tracks [] (next value) after) :
    Tracks tracks calls (program >>= next) state := by
  rw [← List.append_nil calls]
  exact tracking.bind first fun value after _ => rest value after

/-- A change of the state before a program. -/
theorem after {change : ParseState α σ → ParseState α σ}
    {next : PUnit → Eval α σ γ} (aside : Aside session state (change state))
    (rest : Tracks tracks calls (next .unit) (change state)) :
    Tracks tracks calls (modify change >>= next) state :=
  ends_bind.mpr (ends_modify.mpr (rest.mono_result fun _ _ =>
    tracking.trans (tracking.aside aside)))

/-- A change of the state, and a result. -/
theorem change {change : ParseState α σ → ParseState α σ} (value : β)
    (aside : Aside session state (change state)) :
    Tracks tracks [] (do modify change; return value) state :=
  tracking.after aside (tracking.result value)

/-- A program between two changes of the state. -/
theorem between {enter leave : ParseState α σ → ParseState α σ}
    (enters : Aside session state (enter state))
    (leaves : ∀ after, Aside session after (leave after))
    (inside : Tracks tracks calls program (enter state)) :
    Tracks tracks calls
      (do
        modify enter
        let result ← program
        modify leave
        return result)
      state :=
  tracking.after enters (tracking.followed inside fun value after =>
    tracking.change value (leaves after))

theorem inScope (inside : Tracks tracks calls program state.pushScope) :
    Tracks tracks calls (inScope program) state :=
  tracking.between (.of_eq (.pushScope _) rfl rfl)
    (fun _ => .of_eq (.popScope _) rfl rfl) inside

theorem underNot (inside : Tracks tracks calls program state.toggle) :
    Tracks tracks calls (underNot program) state :=
  tracking.between (.of_eq (.toggle _) rfl rfl)
    (fun _ => .of_eq (.toggle _) rfl rfl) inside

theorem inRule {rule : Rule α σ}
    (inside : Tracks tracks calls program (state.enterRule rule)) :
    Tracks tracks calls (inRule rule program) state :=
  tracking.between (.of_eq (.enterRule rule _) rfl rfl)
    (fun _ => .of_eq (.leaveRule _) rfl rfl) inside

/-- A program in a label scope, and one that follows it. -/
theorem inScope_bind {next : β → Eval α σ γ}
    (inside : Tracks tracks calls program state.pushScope)
    (rest : ∀ value after, program state.pushScope = .ok value after →
      Tracks tracks later (next value) after.popScope) :
    Tracks tracks (calls ++ later) (Eval.inScope program >>= next) state :=
  tracking.bind (tracking.inScope inside) fun value after run => by
    have ends : Ends (Eval.inScope program)
        (fun value after => Tracks tracks later (next value) after)
        (fun _ => True) True state :=
      ends_inScope.mpr (inside.mono_run fun value after run _ =>
        rest value after run)
    exact ends.result run

theorem runCode (code : Code α σ β) (start : Cursor) (value : Value α) :
    Tracks tracks [] (runCode session code start value) state := by
  refine (ends_runCode session code start value).mpr ?_
  rcases code (state.context session start value) with ⟨reply, store⟩
  have keeps : tracks [] state { state with store := store } :=
    tracking.aside (.of_eq (.keepStore store state) rfl rfl)
  cases reply with
  | answer | complaint => exact keeps
  | failure fault => exact trivial

end Programs

section Matchers

theorem consume (ignoresCase : Bool) (chars : List Char)
    (state : ParseState α σ) :
    tracks [] state (state.consume session ignoresCase chars).2 := by
  induction chars generalizing state with
  | nil => exact tracking.refl state
  | cons char chars ih =>
      rw [ParseState.consume]
      split
      · exact tracking.trans (tracking.aside (aside_read session state)) (ih _)
      · exact tracking.refl state

theorem matchLiteral (text : String) (ignoresCase : Bool)
    (state : ParseState α σ) :
    tracks [] state (state.matchLiteral session text ignoresCase).2 := by
  have compared := tracking.consume ignoresCase text.toList state
  unfold ParseState.matchLiteral
  rcases consumed : state.consume session ignoresCase text.toList
    with ⟨agreed, reached⟩
  rw [consumed] at compared
  have attempted : tracks [] state (reached.attempt (!agreed) state.cursor
      (Expr.literalDescriptor text ignoresCase)) :=
    tracking.trans compared (tracking.aside (aside_attempt session _ _ _ _))
  cases agreed with
  | true => exact attempted
  | false =>
      exact tracking.trans attempted
        (tracking.aside (aside_restore session _ _))

theorem matchChar (accepts : Char → Bool) (descriptor : String)
    (state : ParseState α σ) :
    tracks [] state (state.matchChar session accepts descriptor).2 := by
  unfold ParseState.matchChar
  cases state.cursor.current with
  | none => exact tracking.aside (aside_attempt session _ _ _ _)
  | some char =>
      dsimp only
      split
      · exact tracking.trans (tracking.aside (aside_read session _))
          (tracking.aside (aside_attempt session _ _ _ _))
      · exact tracking.aside (aside_attempt session _ _ _ _)

end Matchers

section Verdicts

variable {calls : List (Visit α σ)} {program : Eval α σ (Verdict α)}
  {state : ParseState α σ}

theorem lookahead (inside : Tracks tracks calls program state.pushScope) :
    Tracks tracks calls (lookahead session program) state :=
  ends_bind.mpr (tracking.followed (tracking.inScope inside)
    fun verdict after =>
      tracking.change verdict (aside_restore session after state.cursor))

/-- What an action does with a match. -/
theorem evalAction (run : Action α σ)
    (inside : Tracks tracks calls program state) :
    Tracks tracks calls (evalAction session run program) state := by
  refine ends_bind.mpr (tracking.followed inside fun verdict after => ?_)
  cases verdict with
  | matched value =>
      refine tracking.followed (tracking.runCode run _ value)
        fun reply after => tracking.after (aside_traceMatch session after _) ?_
      cases reply with
      | ok result => exact tracking.result _
      | error message => exact tracking.change _ (aside_complain session _ _ _)
  | unmatched | aborted error => exact tracking.result _

theorem evalPredicate (test : Predicate α σ) (expected : Bool) :
    Tracks tracks [] (evalPredicate session test expected) state := by
  refine ends_bind.mpr (tracking.followed
    (tracking.runCode test _ .nil) fun reply after => ?_)
  cases reply with
  | ok holds =>
      dsimp only
      split <;> exact tracking.result _
  | error message => exact tracking.change _ (aside_complain session _ _ _)

/-- What holds around a call still does after a change that opens and closes no
node, and does not move the cursor. -/
theorem around_later {visit : Visit α σ} {middle after : ParseState α σ}
    (around : Around session tracks calls visit middle)
    (aside : Aside session middle after)
    (unmoved : after.cursor = middle.cursor) :
    Around session tracks calls visit after := by
  have later := tracking.aside aside
  cases around with
  | evaluated isEvaluated inside outside unmovedBefore =>
      exact .evaluated isEvaluated inside (tracking.trans outside later)
        (unmoved.trans unmovedBefore)
  | skipped notEvaluated outside =>
      exact .skipped notEvaluated (tracking.trans outside later)

/-- A call that is replayed moves the cursor, but opens no node, and keeping the
result of another one leaves the cursor where it is. -/
theorem memoized {enabled : Bool} {node : NodeKey} (visit : Visit α σ)
    (skips : replays enabled node visit.state = true →
      visit.isEvaluated session = false)
    (inside : replays enabled node visit.state = false →
      Ends program (fun _ after => Around session tracks calls visit after)
        (fun _ => True) True visit.state) :
    Ends (memoized session enabled node program)
      (fun _ after => Around session tracks calls visit after)
      (fun _ => True) True visit.state := by
  refine (ends_memoized session enabled node).mpr ?_
  cases enabled with
  | false => exact inside rfl
  | true =>
      simp only [if_true]
      cases kept : visit.state.memo.lookup (visit.state.memoKey node) with
      | some entry =>
          exact .skipped (skips (by simp [replays, kept]))
            (tracking.aside (aside_restore session _ _))
      | none =>
          refine (inside (by simp [replays, kept])).mono_result
            fun verdict after around => ?_
          cases verdict with
          | matched | unmatched =>
              exact tracking.around_later around
                (.of_eq (.remember _ _ _) rfl rfl) rfl
          | aborted error => exact around

/-- The calls that an expression makes are made while its node is open. -/
theorem visit (place : ExprPlace) (expr : Expr α σ) (nots : Nat)
    (inside : enters session place expr state = true →
      Tracks tracks calls program
        (state.countExpression.enterNode session
          (.expression expr.kindName))) :
    Ends (visit session place expr program)
      (fun _ after => Around session tracks calls
        (.expression place expr nots state) after)
      (fun _ => True) True state := by
  refine tracking.memoized (.expression place expr nots state)
    (fun replayed => ?_) fun notReplayed => ?_
  · simp_all [Visit.isEvaluated, Visit.state, enters]
  · change replays _ _ state = false at notReplayed
    change Ends (counted session expr program) _ _ _ state
    refine (ends_counted session expr).mpr ?_
    split
    case isTrue exceeded =>
      have skipped : enters session place expr state = false := by
        simp [enters, exceeded]
      exact .skipped skipped
        (tracking.aside (.of_eq (.countExpression _) rfl rfl))
    case isFalse within =>
      have isEntered : enters session place expr state = true := by
        simp [enters, notReplayed, within]
      refine (ends_traced session _).mpr
        ((inside isEntered).mono_result fun verdict after reached => ?_)
      exact .evaluated isEntered reached (tracking.refl _) (by simp)

/-- The calls that a rule makes are made while its node is open. -/
theorem runRule {rule : Rule α σ} {index nots : Nat}
    (isEvaluated :
      (Visit.rule rule index nots state).isEvaluated session = true)
    (inside : Tracks tracks calls program
      ((state.enterNode session (.rule rule.name)).enterRule rule)) :
    Ends (runRule session rule program)
      (fun _ after => Around session tracks calls
        (.rule rule index nots state) after)
      (fun _ => True) True state := by
  refine (ends_runRule session rule).mpr ((ends_traced session _).mpr
    ((tracking.inRule inside).mono_result fun verdict after reached => ?_))
  have around : Around session tracks calls (.rule rule index nots state)
      (after.leaveNode session (.rule rule.name)) :=
    .evaluated isEvaluated reached (tracking.refl _) (by simp)
  cases verdict with
  | matched value =>
      exact tracking.around_later around (aside_traceMatch session _ _)
        (by simp)
  | unmatched | aborted error => exact around

/-- A call in front of those that it makes. -/
theorem of_around {visit : Visit α σ} {verdict : Verdict α}
    {after : ParseState α σ} (comes : visit.ComesTo session verdict after)
    (around : Around session tracks calls visit after) :
    tracks (visit :: if visit.isEvaluated session then calls else [])
      visit.state after := by
  cases around with
  | evaluated isEvaluated inside outside unmoved =>
      rw [if_pos isEvaluated]
      exact tracking.evaluated comes isEvaluated inside outside unmoved
  | skipped notEvaluated outside =>
      rw [if_neg (by simp [notEvaluated])]
      exact tracking.skipped comes notEvaluated outside

end Verdicts

section Members

variable {evaluate : ExprPlace → Expr α σ → Eval α σ (Verdict α)}
  {callsOf : ExprPlace → Expr α σ → (nots : Nat) → ParseState α σ →
    List (Visit α σ)}
  (members : ∀ place expr nots state, Tracks tracks
    (callsOf place expr nots state) (evaluate place expr) state)
  {nots : Nat} {state : ParseState α σ}
include members

theorem evalSequence (place : ExprPlace) (start : Cursor) (index : Nat)
    (values : List (Value α)) (exprs : List (Expr α σ)) :
    Tracks tracks
      (visitsInSequence evaluate callsOf place nots index exprs state)
      (evalSequence session evaluate place start index values exprs) state := by
  induction exprs generalizing index values state with
  | nil => exact tracking.result _
  | cons expr exprs ih =>
      rw [visitsInSequence]
      refine tracking.bind (members _ _ _ _) fun verdict after run => ?_
      rw [run]
      cases verdict with
      | matched value => exact ih _ _
      | unmatched => exact tracking.change _ (aside_restore session _ _)
      | aborted error => exact tracking.result _

theorem evalChoice (place : ExprPlace) (index : Nat) (exprs : List (Expr α σ)) :
    Tracks tracks
      (visitsInChoice evaluate callsOf place nots index exprs state)
      (evalChoice evaluate place index exprs) state := by
  induction exprs generalizing index state with
  | nil => exact tracking.result _
  | cons expr exprs ih =>
      rw [visitsInChoice]
      refine tracking.inScope_bind (members _ _ _ _) fun verdict after run => ?_
      rw [run]
      cases verdict with
      | unmatched => exact ih _
      | matched | aborted => exact tracking.result _

theorem evalRounds (place : ExprPlace) (body : Expr α σ) (rounds : Nat)
    (values : List (Value α)) :
    Tracks tracks
      (visitsInRounds (evaluate place body) (callsOf place body nots) rounds
        state)
      (evalRounds (evaluate place body) rounds values) state := by
  induction rounds generalizing values state with
  | zero => exact trivial
  | succ rounds ih =>
      rw [visitsInRounds]
      refine ends_bind.mpr (tracking.inScope_bind (members _ _ _ _)
        fun verdict after run => ?_)
      rw [run]
      cases verdict with
      | matched value =>
          -- Leaving the scope does not move the cursor, so both tests are one.
          change Tracks _ (if _ then _ else _)
            (if after.cursor.offset = state.cursor.offset then _ else _) _
          split
          · exact tracking.result _
          · exact ih _
      | unmatched | aborted => exact tracking.result _

theorem evalRepetition (place : ExprPlace) (body : Expr α σ) (required : Nat) :
    Tracks tracks
      (visitsInRounds (evaluate place body) (callsOf place body nots)
        (session.input.size - state.cursor.offset + 1) state)
      (evalRepetition session required (evaluate place body)) state := by
  refine ends_bind.mpr (tracking.followed
    (tracking.evalRounds members _ _ _ _) fun result after => ?_)
  cases result with
  | ok values =>
      dsimp only
      split <;> exact tracking.result _
  | error error => exact tracking.result _

/-- A rule that is called, and the calls that it makes. -/
theorem evalRule {rule : Rule α σ} {index depth : Nat}
    (isEvaluate : evaluate = evalExpr session depth) :
    Tracks tracks (visitsOfRule session callsOf rule index nots state)
      (evalRule session evaluate rule index) state := by
  let visit : Visit α σ := .rule rule index nots state
  have around : Ends (Eval.evalRule session evaluate rule index)
      (fun _ after => Around session tracks
        (callsOf (.body index) rule.body nots
          ((state.enterNode session (.rule rule.name)).enterRule rule))
        visit after)
      (fun _ => True) True state := by
    refine tracking.memoized visit (fun replayed => ?_)
      fun notReplayed => ?_
    · simp [visit, Visit.isEvaluated, show replays _ _ state = _ from replayed]
    · refine tracking.runRule ?_ (members _ _ _ _)
      simp [Visit.isEvaluated, show replays _ _ state = _ from notReplayed]
  refine around.mono_run fun verdict after run around => ?_
  have comes : visit.ComesTo session verdict after := ⟨depth, isEvaluate ▸ run⟩
  rw [visitsOfRule_eq]
  exact tracking.of_around comes around

theorem evalReference {depth : Nat}
    (isEvaluate : evaluate = evalExpr session depth) (place : ExprPlace)
    (name : String) :
    Tracks tracks
      (visitsOfNode session evaluate callsOf place nots state (.reference name))
      (evalReference session evaluate name) state := by
  unfold Eval.evalReference
  simp only [visitsOfNode]
  cases session.grammar.target? name with
  | none =>
      dsimp only
      split <;> exact tracking.result _
  | some target =>
      dsimp only
      split
      · exact tracking.result _
      · exact tracking.evalRule members isEvaluate

/-- An expression and the calls that it makes, if it holds of its members. -/
theorem evalNode {depth : Nat}
    (isEvaluate : evaluate = evalExpr session depth) (place : ExprPlace)
    (expr : Expr α σ) :
    Tracks tracks (visitsOfNode session evaluate callsOf place nots state expr)
      (evalNode session evaluate place expr) state := by
  cases expr with
  | literal text ignoresCase => exact tracking.matchLiteral text ignoresCase _
  | oneOf | any => exact tracking.matchChar _ _ _
  | sequence exprs =>
      exact ends_bind.mpr (tracking.evalSequence members _ _ _ _ _)
  | choice exprs => exact tracking.evalChoice members _ _ _
  | zeroOrMore body | oneOrMore body =>
      exact tracking.evalRepetition members _ _ _
  | optional body =>
      refine tracking.followed (tracking.inScope (members _ _ _ _))
        fun verdict after => ?_
      cases verdict <;> exact tracking.result _
  | followedBy body =>
      refine tracking.followed (tracking.lookahead (members _ _ _ _))
        fun verdict after => ?_
      cases verdict <;> exact tracking.result _
  | notFollowedBy body =>
      refine tracking.followed
        (tracking.lookahead (tracking.underNot (members _ _ _ _)))
        fun verdict after => ?_
      cases verdict <;> exact tracking.result _
  | labeled label body =>
      refine tracking.followed (tracking.inScope (members _ _ _ _))
        fun verdict after => ?_
      cases verdict with
      | matched value => exact tracking.change _ (aside_bind session _ _ _)
      | unmatched | aborted error => exact tracking.result _
  | reference name => exact tracking.evalReference members isEvaluate _ _
  | action body run => exact tracking.evalAction run (members _ _ _ _)
  | require test | forbid test => exact tracking.evalPredicate test _

end Members

/-- The relation holds of the states before and after an evaluation and the
calls that are made in it. -/
theorem evalExpr (depth : Nat) (place : ExprPlace) (expr : Expr α σ)
    (nots : Nat) (state : ParseState α σ) :
    Tracks tracks (visits session depth place expr nots state)
      (evalExpr session depth place expr) state := by
  induction depth generalizing place expr nots state with
  | zero => exact trivial
  | succ depth ih =>
      have around : Ends (Eval.evalExpr session (depth + 1) place expr)
          (fun _ after => Around session tracks
            (visitsOfNode session (Eval.evalExpr session depth)
              (Eval.visits session depth) place nots
              (state.countExpression.enterNode session
                (.expression expr.kindName))
              expr)
            (.expression place expr nots state) after)
          (fun _ => True) True state :=
        tracking.visit place expr nots fun _ =>
          tracking.evalNode ih rfl place expr
      refine around.mono_run fun verdict after run around => ?_
      have comes :
          (Visit.expression place expr nots state).ComesTo session verdict
            after := ⟨depth + 1, run⟩
      exact tracking.of_around comes around

end Tracking

end Eval

end PegEngine
