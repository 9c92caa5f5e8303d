import PegEngine.Proofs.Combinators
import PegEngine.Proofs.Semantics

/-!
# Reading off what evaluation comes to

A verdict and the state that it leaves can be read as an outcome in the sense of
the semantics (`Verdict.reading?`).  For each way of combining expressions this
file tells the reading of the whole from the readings of the parts, as long as
nothing is memoized and there is no limit.  The lemmas say what holds of the
reading if there is one, and also that there is one if neither faults nor a lack
of depth are allowed; so they serve for both directions of the equivalence of
evaluation and semantics.
-/

namespace PegEngine

open ParseState

/-- What a verdict and the state that it leaves come to. -/
def Verdict.reading? {α σ : Type} (after : ParseState α σ) :
    Verdict α → Option (Reading α σ)
  | .matched value =>
    some (.succeeds value after.cursor.offset after.scopes.top after.store)
  | .unmatched => some (.fails after.store)
  | .aborted _ => none

namespace Reading

variable {α σ : Type}

def verdict : Reading α σ → Verdict α
  | .fails _ => .unmatched
  | .succeeds value _ _ _ => .matched value

def store : Reading α σ → Store σ
  | .fails store => store
  | .succeeds _ _ _ store => store

/-- The offset at which evaluation goes on. -/
def finish (start : Nat) : Reading α σ → Nat
  | .fails _ => start
  | .succeeds _ finish _ _ => finish

/-- A reading in which the labels of the surrounding scope are back in place. -/
def relabel (labels : Frame α) : Reading α σ → Reading α σ
  | .fails store => .fails store
  | .succeeds value finish _ store => .succeeds value finish labels store

def optional (start : Nat) (labels : Frame α) : Reading α σ → Reading α σ
  | .fails store => .succeeds .nil start labels store
  | .succeeds value finish _ store => .succeeds value finish labels store

def ahead (start : Nat) (labels : Frame α) : Reading α σ → Reading α σ
  | .fails store => .fails store
  | .succeeds _ _ _ store => .succeeds .nil start labels store

def notAhead (start : Nat) (labels : Frame α) : Reading α σ → Reading α σ
  | .fails store => .succeeds .nil start labels store
  | .succeeds _ _ _ store => .fails store

/-- The reading of a repetition that has to match once, from that of one that
need not. -/
def nonempty : Reading α σ → Reading α σ
  | .succeeds (.list []) _ _ store => .fails store
  | reading => reading

def labeled (label : String) (labels : Frame α) : Reading α σ → Reading α σ
  | .fails store => .fails store
  | .succeeds value finish _ store =>
    .succeeds value finish (labels.bindNamed label value) store

end Reading

namespace Eval

variable {α σ β : Type} {session : Session α σ} {allowed : Prop}

/-- A reading of which something holds. -/
def Reads (reads : Reading α σ → Prop) (verdict : Verdict α)
    (after : ParseState α σ) : Prop :=
  ∃ reading, verdict.reading? after = some reading ∧ reads reading

/-- A program comes to a reading of which something holds, unless something else
is allowed to happen. -/
def Comes (allowed : Prop) (reads : Reading α σ → Prop)
    (program : Eval α σ (Verdict α)) (state : ParseState α σ) : Prop :=
  Ends program (Reads reads) (fun _ => allowed) allowed state

/-- A state from which an expression of a rule can be evaluated, at an offset
and with labels and a store. -/
structure Poised (session : Session α σ) (rule start : Nat) (labels : Frame α)
    (store : Store σ) (state : ParseState α σ) : Prop
    extends Ready session state where
  runs : state.Runs session rule
  offset : state.cursor.offset = start
  labels : state.scopes.top = labels
  store : state.store = store

/-- Evaluation can start at every boundary, in every rule, with any labels and
with any store. -/
theorem exists_poised (session : Session α σ) {index start : Nat}
    {rule : Rule α σ} (isRule : session.grammar.rules[index]? = some rule)
    (boundary : Decoded.Boundary session.input start) (labels : Frame α)
    (store : Store σ) :
    ∃ state, Poised session index start labels store state := by
  let state : ParseState α σ :=
    { ParseState.initial session with
      cursor := .ofOffset session.input start
      scopes := ⟨labels, [], []⟩
      activeRules := [rule]
      store := store }
  have ready : state.Ready session :=
    { stands := Cursor.stands_ofOffset boundary
      spare := by
        intro frame isSpare
        cases isSpare
      memo := by
        intro key entry kept
        cases (MemoTable.lookup_empty key).symm.trans kept
      reports := by
        intro diagnostic reported
        cases reported
      within := fun limit _ => Nat.zero_le limit }
  exact ⟨state, ready, ⟨rule, isRule, rfl⟩, Cursor.offset_ofOffset _ _, rfl,
    rfl⟩

theorem Comes.mono {reads weaker : Reading α σ → Prop}
    {program : Eval α σ (Verdict α)} {state : ParseState α σ}
    (comes : Comes allowed reads program state)
    (weaken : ∀ reading, reads reading → weaker reading) :
    Comes allowed weaker program state := by
  apply Ends.mono_result comes
  rintro verdict after ⟨reading, isReading, holds⟩
  exact ⟨reading, isReading, weaken reading holds⟩

section Members

variable {depth : Nat} {place : ExprPlace} {expr : Expr α σ}
  {start : Nat} {labels : Frame α} {store : Store σ} {state : ParseState α σ}
  {reads : Reading α σ → Prop}

/-- The reading of an expression comes with the discipline. -/
theorem Comes.settled (valid : session.grammar.error? = none)
    (found : session.grammar.exprAt? place = some expr)
    (poised : Poised session place.rule start labels store state)
    (comes : Comes allowed reads (evalExpr session depth place expr) state) :
    Ends (evalExpr session depth place expr)
      (fun verdict after => Reads reads verdict after ∧
        Settled session expr.bindsLabels
          (session.grammar.Spans session.input expr state.cursor.offset)
          state.cursor state verdict after)
      (fun _ => allowed) allowed state :=
  comes.and (evalExpr_settles valid depth found poised.toReady poised.runs)

theorem Poised.pushScope
    (poised : Poised session place.rule start labels store state) :
    Poised session place.rule start Frame.empty store state.pushScope :=
  { poised with
    toReady := poised.toReady.pushScope
    labels := ScopeStack.top_push poised.spare }

theorem Poised.toggle
    (poised : Poised session place.rule start labels store state) :
    Poised session place.rule start labels store state.toggle :=
  { poised with toReady := poised.toReady.toggle }

/-- A state that an evaluation has left, as one from which to go on. -/
theorem Settled.poised {bindsLabels : Bool} {spans : Value α → Nat → Prop}
    {after : ParseState α σ} {value : Value α} {rule : Nat} {cursor : Cursor}
    (settled : Settled session bindsLabels spans cursor state (.matched value)
      after)
    (runs : state.Runs session rule) :
    Poised session rule after.cursor.offset after.scopes.top after.store
      after :=
  ⟨settled.ready_of_matched, runs.of_eq settled.balanced.activeRules, rfl, rfl,
    rfl⟩

theorem bind_eq (label : String) (value : Value α) (state : ParseState α σ) :
    state.bind label value =
      { state with
        scopes :=
          { state.scopes with
            top := state.scopes.top.bindNamed label value } } := by
  unfold ParseState.bind Frame.bindNamed
  split <;> rfl

/-- A verdict and the state that it leaves show a reading, apart from where
evaluation goes on and with which labels. -/
structure Shows (reading : Reading α σ) (finish : Nat) (labels : Frame α)
    (verdict : Verdict α) (after : ParseState α σ) : Prop where
  verdict : verdict = reading.verdict
  store : after.store = reading.store
  offset : after.cursor.offset = finish
  labels : after.scopes.top = labels

/-- A member that is evaluated in a scope of its own begins without labels, and
leaves those of the surrounding scope. -/
theorem comes_inScope (valid : session.grammar.error? = none)
    (found : session.grammar.exprAt? place = some expr)
    (poised : Poised session place.rule start labels store state)
    (member : ∀ inner,
      Poised session place.rule start Frame.empty store inner →
        Comes allowed reads (evalExpr session depth place expr) inner) :
    Ends (inScope (evalExpr session depth place expr))
      (fun verdict after =>
        (∃ inner, reads inner ∧
          Shows inner (inner.finish start) labels verdict after) ∧
        Settled session false
          (session.grammar.Spans session.input expr state.cursor.offset)
          state.cursor state verdict after)
      (fun _ => allowed) allowed state := by
  have entered := poised.pushScope
  have inside := (member _ entered).settled valid found entered
  apply ends_inScope.mpr
  apply inside.mono_result
  rintro verdict after ⟨⟨inner, isReading, holds⟩, settled⟩
  have left := settled.popScope
  have top : after.popScope.scopes.top = labels :=
    (left.labels rfl).trans poised.labels
  refine ⟨⟨inner, holds, ?_⟩, left⟩
  cases verdict with
  | matched value =>
      obtain rfl := Option.some.inj isReading
      exact ⟨rfl, rfl, rfl, top⟩
  | unmatched =>
      obtain rfl := Option.some.inj isReading
      have back : after.cursor = state.cursor := settled.describes.1
      exact ⟨rfl, rfl, (congrArg Cursor.offset back).trans poised.offset, top⟩
  | aborted error => cases isReading

/-- A lookahead gives back what its body consumes. -/
theorem comes_lookahead {program : Eval α σ (Verdict α)}
    (poised : Poised session place.rule start labels store state)
    (ends : Ends program
      (fun verdict after => Reads reads verdict after ∧
        Settled session expr.bindsLabels
          (session.grammar.Spans session.input expr state.cursor.offset)
          state.cursor state.pushScope verdict after)
      (fun _ => allowed) allowed state.pushScope) :
    Ends (lookahead session program)
      (fun verdict after => ∃ inner, reads inner ∧
        Shows inner start labels verdict after)
      (fun _ => allowed) allowed state := by
  apply (ends_lookahead session).mpr
  apply ends.mono_result
  rintro verdict after ⟨⟨inner, isReading, holds⟩, settled⟩
  have steady := steady_restore session state.cursor after.popScope
  have left := settled.popScope
  have top : (after.popScope.restore session state.cursor).scopes.top =
      labels := by
    rw [steady.scopes]
    exact (left.labels rfl).trans poised.labels
  have offset : (after.popScope.restore session state.cursor).cursor.offset =
      start := by
    rw [cursor_restore, poised.offset]
  refine ⟨inner, holds, ?_⟩
  cases verdict with
  | matched value =>
      obtain rfl := Option.some.inj isReading
      exact ⟨rfl, steady.store, offset, top⟩
  | unmatched =>
      obtain rfl := Option.some.inj isReading
      exact ⟨rfl, steady.store, offset, top⟩
  | aborted error => cases isReading

theorem Reads.relabel {verdict : Verdict α} {after last : ParseState α σ}
    (isRead : Reads reads verdict after)
    (sameCursor : last.cursor = after.cursor)
    (sameStore : last.store = after.store) (top : last.scopes.top = labels) :
    Reads (fun reading => ∃ inner, reads inner ∧
      reading = inner.relabel labels) verdict last := by
  obtain ⟨inner, isReading, holds⟩ := isRead
  cases verdict with
  | matched value =>
      obtain rfl := Option.some.inj isReading
      exact ⟨_, rfl, _, holds, by rw [sameCursor, sameStore, top]; rfl⟩
  | unmatched =>
      obtain rfl := Option.some.inj isReading
      exact ⟨_, rfl, _, holds, by rw [sameStore]; rfl⟩
  | aborted error => cases isReading

/-- A rule begins without labels, and leaves those of the surrounding scope. -/
theorem comes_evalRule {rule : Rule α σ} {index caller : Nat}
    (valid : session.grammar.error? = none)
    (unmemoized : session.options.memoize = false)
    (isRule : session.grammar.rules[index]? = some rule)
    (poised : Poised session caller start labels store state)
    (member : ∀ inner, Poised session index start Frame.empty store inner →
      Comes allowed reads (evalExpr session depth (.body index) rule.body)
        inner) :
    Comes allowed
      (fun reading => ∃ inner, reads inner ∧ reading = inner.relabel labels)
      (evalRule session (evalExpr session depth) rule index) state := by
  have found := Grammar.exprAt?_body isRule
  have entered : Poised session index start Frame.empty store
      ((state.enterNode session (.rule rule.name)).enterRule rule) := by
    refine ⟨(poised.toReady.enterNode _).enterRule rule, runs_enterRule isRule,
      ?_, ?_, ?_⟩
    · rw [← poised.offset]
      exact congrArg Cursor.offset (cursor_enterNode _)
    · exact ScopeStack.top_push (poised.toReady.enterNode _).spare
    · rw [← poised.store]
      exact store_enterNode _
  have settles : Settles session True false _ _ _ _ :=
    evalRule_settles isRule poised.toReady fun inner _ ready runs _ =>
      evalExpr_settles valid depth found ready runs
  have shown : Ends (evalRule session (evalExpr session depth) rule index)
      (fun verdict after => ∃ inner, Reads reads verdict inner ∧
        after.cursor = inner.cursor ∧ after.store = inner.store)
      (fun _ => allowed) allowed state := by
    simp only [evalRule, unmemoized, ends_memoized, ends_runRule, ends_traced,
      ends_inRule]
    apply Ends.mono_result (member _ entered)
    intro verdict after isRead
    refine ⟨after, isRead, ?_⟩
    cases verdict with
    | matched value => simp [leaveRule, popScope]
    | unmatched => simp [leaveRule, popScope]
    | aborted error => simp [leaveRule, popScope]
  apply Ends.mono_result (shown.and settles)
  rintro verdict after ⟨⟨inner, isRead, sameCursor, sameStore⟩, settled⟩
  exact isRead.relabel sameCursor sameStore
    ((settled.labels rfl).trans poised.labels)

section Nodes

variable {body : Expr α σ} (valid : session.grammar.error? = none)
  (found : session.grammar.exprAt? (place.member 0) = some body)
  (poised : Poised session place.rule start labels store state)
  (member : ∀ inner,
    Poised session place.rule start Frame.empty store inner →
      Comes allowed reads (evalExpr session depth (place.member 0) body) inner)

include valid found poised member

theorem comes_optional :
    Comes allowed
      (fun reading => ∃ inner, reads inner ∧
        reading = inner.optional start labels)
      (evalNode session (evalExpr session depth) place (.optional body))
      state := by
  have apart := comes_inScope valid found poised member
  apply ends_bind.mpr
  apply apart.mono_result
  rintro _ after ⟨⟨inner, holds, ⟨rfl, last, finish, top⟩⟩, _⟩
  cases inner with
  | fails => exact ⟨_, rfl, _, holds, by rw [finish, top, last]; rfl⟩
  | succeeds => exact ⟨_, rfl, _, holds, by rw [finish, top, last]; rfl⟩

theorem comes_followedBy :
    Comes allowed
      (fun reading => ∃ inner, reads inner ∧
        reading = inner.ahead start labels)
      (evalNode session (evalExpr session depth) place (.followedBy body))
      state := by
  have entered := poised.pushScope
  have looked := comes_lookahead poised
    ((member _ entered).settled valid found entered)
  apply ends_bind.mpr
  apply looked.mono_result
  rintro _ after ⟨inner, holds, ⟨rfl, last, finish, top⟩⟩
  cases inner with
  | fails => exact ⟨_, rfl, _, holds, by rw [last]; rfl⟩
  | succeeds => exact ⟨_, rfl, _, holds, by rw [finish, top, last]; rfl⟩

theorem comes_notFollowedBy :
    Comes allowed
      (fun reading => ∃ inner, reads inner ∧
        reading = inner.notAhead start labels)
      (evalNode session (evalExpr session depth) place (.notFollowedBy body))
      state := by
  have entered := poised.pushScope.toggle
  have inside := (member _ entered).settled valid found entered
  have looked := comes_lookahead poised (ends_underNot.mpr (inside.mono_result
    fun verdict after inside => ⟨inside.1, inside.2.toggle⟩))
  apply ends_bind.mpr
  apply looked.mono_result
  rintro _ after ⟨inner, holds, ⟨rfl, last, finish, top⟩⟩
  cases inner with
  | fails => exact ⟨_, rfl, _, holds, by rw [finish, top, last]; rfl⟩
  | succeeds => exact ⟨_, rfl, _, holds, by rw [last]; rfl⟩

theorem comes_labeled (label : String) :
    Comes allowed
      (fun reading => ∃ inner, reads inner ∧
        reading = inner.labeled label labels)
      (evalNode session (evalExpr session depth) place (.labeled label body))
      state := by
  have apart := comes_inScope valid found poised member
  apply ends_bind.mpr
  apply apart.mono_result
  rintro _ after ⟨⟨inner, holds, ⟨rfl, last, finish, top⟩⟩, _⟩
  cases inner with
  | fails => exact ⟨_, rfl, _, holds, by rw [last]; rfl⟩
  | succeeds value =>
      have bound := bind_eq label value after
      refine ⟨_, rfl, _, holds, ?_⟩
      rw [bound, top, last]
      simp only [finish]
      rfl

end Nodes

/-- A matcher succeeds if some offset qualifies, and else it fails. -/
theorem comes_matcher {qualifies : Nat → Prop}
    {change : ParseState α σ → Verdict α × ParseState α σ}
    (poised : Poised session place.rule start labels store state)
    (matchesTo : MatchesTo session qualifies state (change state)) :
    Comes allowed
      (fun reading =>
        (∃ finish, qualifies finish ∧ reading =
          .succeeds (.text (session.input.extract start finish)) finish labels
            store) ∨
        (∀ finish, ¬ qualifies finish) ∧ reading = .fails store)
      (modifyGet change) state := by
  obtain ⟨steady, -, ⟨isMatch, qualified⟩ | ⟨isFailure, -, none⟩⟩ := matchesTo
  · refine ends_modifyGet.mpr ⟨_, by rw [isMatch]; rfl, .inl ⟨_, qualified, ?_⟩⟩
    rw [poised.offset, steady.scopes, poised.labels, steady.store, poised.store]
  · refine ends_modifyGet.mpr ⟨_, by rw [isFailure]; rfl, .inr ⟨none, ?_⟩⟩
    rw [steady.store, poised.store]

theorem comes_literal (text : String) (ignoresCase : Bool)
    (poised : Poised session place.rule start labels store state) :
    Comes allowed
      (fun reading =>
        (∃ finish, Decoded.Spelled session.input ignoresCase text.toList start
            finish ∧
          reading = .succeeds (.text (session.input.extract start finish))
            finish labels store) ∨
        (∀ finish, ¬ Decoded.Spelled session.input ignoresCase text.toList start
          finish) ∧ reading = .fails store)
      (evalNode session (evalExpr session depth) place
        (.literal text ignoresCase)) state := by
  have spec := matchLiteral_spec session text ignoresCase state poised.stands
  rw [poised.offset] at spec
  exact comes_matcher poised spec

theorem comes_matchChar (accepts : Char → Bool) (descriptor : String)
    (poised : Poised session place.rule start labels store state) :
    Comes allowed
      (fun reading =>
        (∃ char, (Decoded.ofBytesAt session.input start).codePoint =
            some char ∧ accepts char = true ∧
          reading = .succeeds
            (.text (session.input.extract start
              (start + (Decoded.ofBytesAt session.input start).width)))
            (start + (Decoded.ofBytesAt session.input start).width) labels
            store) ∨
        (∀ char, (Decoded.ofBytesAt session.input start).codePoint =
          some char → accepts char = false) ∧ reading = .fails store)
      (modifyGet (ParseState.matchChar session accepts descriptor)) state := by
  have spec := matchChar_spec session accepts descriptor state poised.stands
  rw [poised.offset] at spec
  apply (comes_matcher poised spec).mono
  rintro _ (⟨_, ⟨char, read, accepted, rfl⟩, rfl⟩ | ⟨nowhere, rfl⟩)
  · exact .inl ⟨char, read, accepted, rfl⟩
  · refine .inr ⟨fun char read => ?_, rfl⟩
    rw [← Bool.not_eq_true]
    intro accepted
    exact nowhere _ ⟨char, read, accepted, rfl⟩

/-- What code sees depends on the offsets, the labels and the store only. -/
theorem context_eq {first after : ParseState α σ} {value : Value α}
    (stands : first.cursor.Stands session.input) :
    after.context session first.cursor value =
      Grammar.contextOf session.input first.cursor.offset after.cursor.offset
        value after.scopes.top after.store := by
  simp only [ParseState.context, stands.position_eq]
  rfl

/-- Code that does not fail gives an answer or a complaint. -/
theorem ends_runCode_of_replies {code : Code α σ β} {value : Value α}
    {cursor : Cursor} {context : MatchContext α σ}
    {onResult : Except String β → ParseState α σ → Prop}
    (isContext : state.context session cursor value = context)
    (failed : ∀ fault last, code context = (.failure fault, last) → allowed)
    (answered : ∀ result last, code context = (.answer result, last) →
      onResult (.ok result) { state with store := last })
    (complained : ∀ message last, code context = (.complaint message, last) →
      onResult (.error message) { state with store := last }) :
    Ends (runCode session code cursor value) onResult (fun _ => allowed)
      allowed state := by
  rw [ends_runCode, isContext]
  rcases replied : code context with ⟨reply, last⟩
  cases reply with
  | answer result => exact answered result last replied
  | complaint message => exact complained message last replied
  | failure fault => exact failed fault last replied

/-- The reading of an action, from that of its body. -/
def ActionReads (input : ByteArray) (run : Action α σ) (start : Nat)
    (reads : Reading α σ → Prop) (reading : Reading α σ) : Prop :=
  (∃ last, reads (.fails last) ∧ reading = .fails last) ∨
  ∃ value finish bound next last,
    reads (.succeeds value finish bound next) ∧
      ((∃ result, run (Grammar.contextOf input start finish value bound next) =
          (.answer result, last) ∧
        reading = .succeeds result finish bound last) ∨
      ∃ message, run (Grammar.contextOf input start finish value bound next) =
          (.complaint message, last) ∧
        reading = .succeeds .nil finish bound last)

theorem comes_action {run : Action α σ} {program : Eval α σ (Verdict α)}
    (poised : Poised session place.rule start labels store state)
    (member : Comes allowed reads program state)
    (failed : ∀ value finish bound next fault last,
      reads (.succeeds value finish bound next) →
        run (Grammar.contextOf session.input start finish value bound next) =
          (.failure fault, last) → allowed) :
    Comes allowed (ActionReads session.input run start reads)
      (evalAction session run program) state := by
  simp only [Comes, evalAction, ends_bind, ends_cursor]
  apply Ends.mono_result member
  rintro verdict after ⟨inner, isReading, holds⟩
  cases verdict with
  | aborted error => cases isReading
  | unmatched =>
      obtain rfl := Option.some.inj isReading
      exact ⟨_, rfl, .inl ⟨_, holds, rfl⟩⟩
  | matched value =>
      obtain rfl := Option.some.inj isReading
      have isContext : after.context session state.cursor value = _ :=
        context_eq poised.stands
      rw [poised.offset] at isContext
      simp only [ends_bind, ends_modify]
      refine ends_runCode_of_replies isContext
        (fun fault last => failed _ _ _ _ fault last holds) ?_ ?_
      · intro result last replied
        refine ⟨_, rfl, .inr ⟨_, _, _, _, last, holds, .inl ⟨_, replied, ?_⟩⟩⟩
        rw [traceMatch_eq]
      · intro message last replied
        refine ⟨_, rfl, .inr ⟨_, _, _, _, last, holds, .inr ⟨_, replied, ?_⟩⟩⟩
        rw [traceMatch_eq]
        rfl

/-- The reading of a predicate that should give an answer. -/
def PredicateReads (input : ByteArray) (test : Predicate α σ) (expected : Bool)
    (start : Nat) (labels : Frame α) (store : Store σ) (reading : Reading α σ) :
    Prop :=
  ∃ last,
    (test (Grammar.contextOf input start start .nil labels store) =
        (.answer expected, last) ∧
      reading = .succeeds .nil start labels last) ∨
    (test (Grammar.contextOf input start start .nil labels store) =
        (.answer !expected, last) ∧ reading = .fails last) ∨
    ∃ message, test (Grammar.contextOf input start start .nil labels store) =
        (.complaint message, last) ∧
      reading = .succeeds .nil start labels last

theorem comes_predicate {test : Predicate α σ} {expected : Bool}
    (poised : Poised session place.rule start labels store state)
    (failed : ∀ fault last,
      test (Grammar.contextOf session.input start start .nil labels store) =
        (.failure fault, last) → allowed) :
    Comes allowed
      (PredicateReads session.input test expected start labels store)
      (evalPredicate session test expected) state := by
  have isContext : state.context session state.cursor .nil = _ :=
    context_eq poised.stands
  rw [poised.offset, poised.labels, poised.store] at isContext
  simp only [Comes, evalPredicate, ends_bind, ends_cursor]
  refine ends_runCode_of_replies isContext failed ?_ ?_
  · intro holds last replied
    dsimp only
    split
    case isTrue same =>
      refine ⟨_, rfl, last, .inl ⟨same ▸ replied, ?_⟩⟩
      rw [poised.offset, poised.labels]
    case isFalse differs =>
      have opposite : holds = !expected := by
        cases holds <;> cases expected <;> simp_all
      exact ⟨_, rfl, last, .inr (.inl ⟨opposite ▸ replied, rfl⟩)⟩
  · intro message last replied
    refine ⟨_, rfl, last, .inr (.inr ⟨message, replied, ?_⟩)⟩
    simp only [reportHere, report, poised.offset, poised.labels]

section Lists

variable {index : Nat} {exprs : List (Expr α σ)} {whole : Reading α σ → Prop}

/-- A sequence goes on behind a member that has matched. -/
theorem comes_sequence_cons {back : Cursor} {values : List (Value α)}
    (valid : session.grammar.error? = none)
    (found : session.grammar.exprAt? (place.member index) = some expr)
    (poised : Poised session place.rule start labels store state)
    (first : Comes allowed reads
      (evalExpr session depth (place.member index) expr) state)
    (fails : ∀ last, reads (.fails last) → whole (.fails last))
    (later : ∀ value middle bound next inner,
      reads (.succeeds value middle bound next) →
        Poised session place.rule middle bound next inner →
          Comes allowed whole
            (evalSequence session (evalExpr session depth) place back
              (index + 1) (value :: values) exprs) inner) :
    Comes allowed whole
      (evalSequence session (evalExpr session depth) place back index values
        (expr :: exprs)) state := by
  have settled := first.settled valid found poised
  apply ends_bind.mpr
  apply settled.mono_result
  rintro verdict after ⟨⟨inner, isReading, holds⟩, settled⟩
  cases verdict with
  | matched value =>
      obtain rfl := Option.some.inj isReading
      exact later _ _ _ _ _ holds (settled.poised poised.runs)
  | unmatched =>
      obtain rfl := Option.some.inj isReading
      refine ⟨_, rfl, ?_⟩
      rw [(steady_restore session back after).store]
      exact fails _ holds
  | aborted error => cases isReading

/-- A choice goes on with the next alternative if one fails. -/
theorem comes_choice_cons (valid : session.grammar.error? = none)
    (found : session.grammar.exprAt? (place.member index) = some expr)
    (poised : Poised session place.rule start labels store state)
    (first : ∀ inner,
      Poised session place.rule start Frame.empty store inner →
        Comes allowed reads (evalExpr session depth (place.member index) expr)
          inner)
    (holds : ∀ value finish bound last,
      reads (.succeeds value finish bound last) →
        whole (.succeeds value finish labels last))
    (later : ∀ next inner, reads (.fails next) →
      Poised session place.rule start labels next inner →
        Comes allowed whole
          (evalChoice (evalExpr session depth) place (index + 1) exprs)
          inner) :
    Comes allowed whole
      (evalChoice (evalExpr session depth) place index (expr :: exprs))
      state := by
  have apart := comes_inScope valid found poised first
  apply ends_bind.mpr
  apply apart.mono_result
  rintro _ after ⟨⟨inner, isRead, ⟨rfl, last, finish, top⟩⟩, settled⟩
  cases inner with
  | fails next =>
      exact later next after isRead
        ⟨settled.ready_of_unmatched,
          poised.runs.of_eq settled.balanced.activeRules, finish, top, last⟩
  | succeeds value =>
      refine ⟨_, rfl, ?_⟩
      rw [finish, top, last]
      exact holds _ _ _ _ isRead

/-- A repetition goes on behind a round that has matched and consumed
something. -/
theorem comes_rounds_succ {body : Expr α σ} {rounds : Nat}
    {values : List (Value α)} (valid : session.grammar.error? = none)
    (found : session.grammar.exprAt? (place.member 0) = some body)
    (poised : Poised session place.rule start labels store state)
    (member : ∀ inner,
      Poised session place.rule start Frame.empty store inner →
        Comes allowed reads (evalExpr session depth (place.member 0) body)
          inner)
    (ends : ∀ last, reads (.fails last) →
      whole (.succeeds (.list values.reverse) start labels last))
    (stays : ∀ value bound last, reads (.succeeds value start bound last) →
      whole (.succeeds (.list (value :: values).reverse) start labels last))
    (later : ∀ value middle bound next inner,
      reads (.succeeds value middle bound next) → middle ≠ start →
        Poised session place.rule middle labels next inner →
          Ends (evalRounds (evalExpr session depth (place.member 0) body)
              rounds (value :: values))
            (fun result after => Reads whole (ofRounds result) after)
            (fun _ => allowed) allowed inner) :
    Ends (evalRounds (evalExpr session depth (place.member 0) body)
        (rounds + 1) values)
      (fun result after => Reads whole (ofRounds result) after)
      (fun _ => allowed) allowed state := by
  simp only [evalRounds, ends_bind, ends_cursor]
  apply Ends.mono_result (comes_inScope valid found poised member)
  rintro _ after ⟨⟨inner, isRead, ⟨rfl, last, finish, top⟩⟩, settled⟩
  cases inner with
  | fails next =>
      refine ⟨_, rfl, ?_⟩
      rw [finish, top, last]
      exact ends _ isRead
  | succeeds value middle bound next =>
      have atMiddle : after.cursor.offset = middle := finish
      simp only [Reading.verdict, ends_bind, ends_cursor, poised.offset,
        atMiddle]
      split
      case isTrue same =>
        subst same
        refine ⟨_, rfl, ?_⟩
        rw [atMiddle, top, last]
        exact stays _ _ _ isRead
      case isFalse moves =>
        exact later value middle bound next after isRead moves
          ⟨settled.ready_of_matched,
            poised.runs.of_eq settled.balanced.activeRules, finish, top, last⟩

end Lists

section Repetition

variable {body : Expr α σ} {whole : Reading α σ → Prop}
  (poised : Poised session place.rule start labels store state)
  (rounds : Ends
    (evalRounds (evalExpr session depth (place.member 0) body)
      (session.input.size - start + 1) [])
    (fun result after => Reads whole (ofRounds result) after)
    (fun _ => allowed) allowed state)

include poised rounds

theorem comes_zeroOrMore :
    Comes allowed whole
      (evalNode session (evalExpr session depth) place (.zeroOrMore body))
      state := by
  simp only [Comes, evalNode, evalRepetition, ends_bind, ends_cursor,
    poised.offset]
  apply Ends.mono_result rounds
  intro result after isRead
  cases result with
  | ok values => exact isRead
  | error error => exact isRead

theorem comes_oneOrMore :
    Comes allowed
      (fun reading => ∃ inner, whole inner ∧ reading = inner.nonempty)
      (evalNode session (evalExpr session depth) place (.oneOrMore body))
      state := by
  simp only [Comes, evalNode, evalRepetition, ends_bind, ends_cursor,
    poised.offset]
  apply Ends.mono_result rounds
  rintro result after ⟨inner, isReading, holds⟩
  cases result with
  | error error => cases isReading
  | ok values =>
      obtain rfl := Option.some.inj isReading
      dsimp only
      split
      case isTrue few =>
        obtain rfl : values = [] := List.length_eq_zero_iff.mp (by omega)
        exact ⟨_, rfl, _, holds, rfl⟩
      case isFalse enough =>
        refine ⟨_, rfl, _, holds, ?_⟩
        cases reversed : values.reverse with
        | nil => simp_all
        | cons value later => rfl

end Repetition

/-- Visiting an expression, which counts, begins where the visit does. -/
theorem Poised.visiting {rule : Nat}
    (poised : Poised session rule start labels store state)
    (unlimited : session.options.maxExpressions = none) (subject : Subject) :
    Poised session rule start labels store
      (state.countExpression.enterNode session subject) := by
  have ready : state.countExpression.Ready session :=
    { poised.toReady with within := by simp [Within, unlimited] }
  have runs : state.countExpression.Runs session rule := poised.runs
  refine ⟨ready.enterNode _, runs.enterNode _, ?_, ?_, ?_⟩
  · rw [cursor_enterNode]
    exact poised.offset
  · rw [scopes_enterNode]
    exact poised.labels
  · rw [store_enterNode]
    exact poised.store

/-- Without memoization and without a limit, an expression is read as its node
is. -/
theorem comes_evalExpr_succ (unmemoized : session.options.memoize = false)
    (unlimited : session.options.maxExpressions = none)
    (poised : Poised session place.rule start labels store state)
    (node : ∀ inner, Poised session place.rule start labels store inner →
      Comes allowed reads
        (evalNode session (evalExpr session depth) place expr) inner) :
    Comes allowed reads (evalExpr session (depth + 1) place expr) state := by
  have goesOn : state.countExpression.overLimit session = false := by
    simp [overLimit, unlimited]
  have entered := poised.visiting unlimited (.expression expr.kindName)
  simp only [Comes, evalExpr, visit, unmemoized, Bool.false_and, ends_memoized,
    ends_counted, goesOn, ends_traced, if_false, Bool.false_eq_true]
  apply Ends.mono_result (node _ entered)
  rintro verdict after ⟨reading, isReading, holds⟩
  refine ⟨reading, ?_, holds⟩
  rw [← isReading]
  cases verdict <;> simp [Verdict.reading?]

end Members

end Eval

end PegEngine
