import PegEngine.Proofs.Changes
import PegEngine.Proofs.Pairing
import PegEngine.Proofs.Parses

/-!
# The moments of an evaluation

What holds before and after an evaluation need not hold in between.  This file
looks at what happens on the way: the states through which an evaluation
passes, and the slices of the input that it takes (`Moment`).  A program of the
evaluator is watched (`Watch`) by listing its moments, together with a proof
that they lead from where the program starts to where it ends, one change after
the other.

Programs are put together of smaller ones, and so are the watches over them.
There is one watch here for each function of the evaluator, and its type says
which: a watch is a watch over that very program.  What is to be shown of every
moment can then be shown program by program (`Watch.Holds`).
-/

namespace PegEngine

open ParseState

/-- What happens at one moment of an evaluation: the parse comes to be in a
state, or a slice of the input is taken, from one offset up to another. -/
inductive Moment (α σ : Type) where
  | passes (state : ParseState α σ)
  | slices (first last : Nat)

/-- The moments on the way from one state to another.  Every state comes from
the one before it by a single change.  Slices are taken behind the cursor, where
the next code point is decoded, and from some cursor up to the current one. -/
inductive Leads {α σ : Type} (session : Session α σ) :
    ParseState α σ → List (Moment α σ) → ParseState α σ → Prop
  | done (state : ParseState α σ) : Leads session state [] state
  | changes {before middle after : ParseState α σ} {moments : List (Moment α σ)}
      (change : Change session before middle)
      (leads : Leads session middle moments after) :
      Leads session before (.passes middle :: moments) after
  | decodes {before after : ParseState α σ} {moments : List (Moment α σ)}
      (leads : Leads session before moments after) :
      Leads session before
        (.slices before.cursor.nextOffset session.input.size :: moments) after
  | takes (start : Cursor) {before after : ParseState α σ}
      {moments : List (Moment α σ)}
      (leads : Leads session before moments after) :
      Leads session before
        (.slices start.offset before.cursor.offset :: moments) after

theorem Leads.trans {α σ : Type} {session : Session α σ}
    {before middle after : ParseState α σ} {moments later : List (Moment α σ)}
    (first : Leads session before moments middle)
    (second : Leads session middle later after) :
    Leads session before (moments ++ later) after := by
  induction first with
  | done => exact second
  | changes change _ ih => exact .changes change (ih second)
  | decodes _ ih => exact .decodes (ih second)
  | takes start _ ih => exact .takes start (ih second)

/-- The state in which a program ends, however it ends. -/
def Eval.endState {α σ β : Type} :
    EStateM.Result Interrupt (ParseState α σ) β → ParseState α σ
  | .ok _ after => after
  | .error _ after => after

/-- A watch over a program: what happens in running it, which leads from the
state in which it starts to the one in which it ends. -/
structure Watch {α σ β : Type} (session : Session α σ)
    (program : Eval α σ β) where
  moments : ParseState α σ → List (Moment α σ)
  leads : ∀ state,
    Leads session state (moments state) (Eval.endState (program state))

namespace Watch

variable {α σ β γ : Type} {session : Session α σ}

protected def pure (result : β) : Watch session (pure result : Eval α σ β) where
  moments _ := []
  leads := .done

protected def throw (interrupt : Interrupt) :
    Watch session (throw interrupt : Eval α σ β) where
  moments _ := []
  leads := .done

protected def get : Watch session (get : Eval α σ (ParseState α σ)) where
  moments _ := []
  leads := .done

protected def cursor : Watch session (Eval.cursor (α := α)) where
  moments _ := []
  leads := .done

/-- Watch one program, and then the one that goes on with its result. -/
protected def bind {program : Eval α σ β} {next : β → Eval α σ γ}
    (watch : Watch session program)
    (later : ∀ result, Watch session (next result)) :
    Watch session (program >>= next) where
  moments state :=
    watch.moments state ++
      match program state with
      | .ok result after => (later result).moments after
      | .error _ _ => []
  leads state := by
    have first := watch.leads state
    simp only [Bind.bind, EStateM.bind]
    cases run : program state with
    | ok result after =>
        rw [run] at first
        exact first.trans ((later result).leads after)
    | error interrupt after =>
        rw [run] at first
        exact (List.append_nil (watch.moments state)).symm ▸ first

/-- Watch whichever of two programs a test selects. -/
protected def ite {test : Prop} [Decidable test] {program other : Eval α σ β}
    (watch : Watch session program) (otherwise : Watch session other) :
    Watch session (if test then program else other) where
  moments state :=
    if test then watch.moments state else otherwise.moments state
  leads state := by
    split
    · exact watch.leads state
    · exact otherwise.leads state

/-- Watch a program that is put together in another way. -/
protected def ofEq (program : Eval α σ β) {other : Eval α σ β}
    (same : program = other) (watch : Watch session program) :
    Watch session other where
  moments := watch.moments
  leads := same ▸ watch.leads

def change {update : ParseState α σ → ParseState α σ}
    (changes : ∀ state, Change session state (update state)) :
    Watch session (modify update) where
  moments state := [.passes (update state)]
  leads state := .changes (changes state) (.done _)

/-- Reading decodes what stands behind the cursor. -/
def read : Watch session (modify (ParseState.read session)) where
  moments state :=
    [.slices state.cursor.nextOffset session.input.size,
      .passes (state.read session)]
  leads state := .decodes (.changes (.read state) (.done _))

/-- The input between a cursor and the current one is a slice. -/
def textFrom (start : Cursor) :
    Watch session (return (← get).textFrom session start : Eval α σ ByteArray)
    where
  moments state := [.slices start.offset state.cursor.offset]
  leads _ := .takes start (.done _)

/-- Traces show a slice of the input. -/
def traceMatch (start : Cursor) :
    Watch session (modify (ParseState.traceMatch session start)) where
  moments state :=
    (if session.options.debug then
      [.slices start.offset state.cursor.offset]
    else []) ++ [.passes (state.traceMatch session start)]
  leads state := by
    have traces : Leads session state [.passes (state.traceMatch session start)]
        (state.traceMatch session start) :=
      .changes (.traceMatch start state) (.done _)
    split
    · exact .takes start traces
    · exact traces

/-- Code sees a slice of the input, and leaves a store. -/
def runCode (code : Code α σ β) (start : Cursor) (value : Value α) :
    Watch session (Eval.runCode session code start value) where
  moments state :=
    [.slices start.offset state.cursor.offset,
      .passes { state with
        store := (code (state.context session start value)).2 }]
  leads state := by
    have ends : Eval.endState (Eval.runCode session code start value state) =
        { state with
          store := (code (state.context session start value)).2 } := by
      rw [Eval.runCode_eq]
      rcases code (state.context session start value) with ⟨reply, store⟩
      cases reply <;> rfl
    exact .takes start (.changes (.keepStore _ state) (ends ▸ .done _))

/-- Watch a program that runs between two changes of the state. -/
def between {enter leave : ParseState α σ → ParseState α σ}
    (enters : ∀ state, Change session state (enter state))
    (leaves : ∀ state, Change session state (leave state))
    {program : Eval α σ β} (watch : Watch session program) :
    Watch session (do
      modify enter
      let result ← program
      modify leave
      return result) :=
  .bind (change enters) fun _ =>
    .bind watch fun _ =>
      .bind (change leaves) fun _ => .pure _

def inScope {program : Eval α σ β} (watch : Watch session program) :
    Watch session (Eval.inScope program) :=
  between .pushScope .popScope watch

def underNot {program : Eval α σ β} (watch : Watch session program) :
    Watch session (Eval.underNot program) :=
  between .toggle .toggle watch

def traced (subject : Subject) {program : Eval α σ β}
    (watch : Watch session program) :
    Watch session (Eval.traced session subject program) :=
  between (.enterNode subject) (.leaveNode subject) watch

def inRule (rule : Rule α σ) {program : Eval α σ β}
    (watch : Watch session program) :
    Watch session (Eval.inRule rule program) :=
  between (.enterRule rule) .leaveRule watch

def lookahead {program : Eval α σ (Verdict α)}
    (watch : Watch session program) :
    Watch session (Eval.lookahead session program) :=
  .bind .cursor fun start =>
    .bind watch.inScope fun _ =>
      .bind (change (.restore start)) fun _ => .pure _

section Matchers

theorem modifyGet_apply (update : ParseState α σ → β × ParseState α σ)
    (state : ParseState α σ) :
    (modifyGet update : Eval α σ β) state =
      .ok (update state).1 (update state).2 :=
  rfl

/-- Watch the comparison of the input with characters. -/
def consume (ignoresCase : Bool) : (chars : List Char) →
    Watch session
      (modifyGet (ParseState.consume session ignoresCase chars) : Eval α σ Bool)
  | [] => .pure true
  | char :: chars =>
    .ofEq
      (do
        let start ← Eval.cursor
        if start.current.map (CharClass.fold ignoresCase) = some char then
          modify (ParseState.read session)
          modifyGet (ParseState.consume session ignoresCase chars)
        else return false)
      (by
        funext state
        change (if state.cursor.current.map (CharClass.fold ignoresCase) =
          some char then _ else _ : Eval α σ Bool) state = _
        rw [modifyGet_apply, ParseState.consume]
        split <;> rfl)
      (.bind .cursor fun _ =>
        .ite (.bind read fun _ => consume ignoresCase chars) (.pure _))

def succeed (start : Cursor) (descriptor : String) :
    Watch session
      (modifyGet (ParseState.succeed session start descriptor) :
        Eval α σ (Verdict α)) :=
  .ofEq
    (do
      let text ← (return (← get).textFrom session start)
      modify (ParseState.attempt false start descriptor)
      return Verdict.matched (.text text))
    rfl
    (.bind (textFrom start) fun _ =>
      .bind (change (.attempt false start descriptor)) fun _ => .pure _)

def fail (descriptor : String) :
    Watch session
      (modifyGet (ParseState.fail descriptor) : Eval α σ (Verdict α)) :=
  .ofEq
    (do
      let start ← Eval.cursor
      modify (ParseState.attempt true start descriptor)
      return Verdict.unmatched)
    rfl
    (.bind .cursor fun start =>
      .bind (change (.attempt true start descriptor)) fun _ => .pure _)

/-- A literal compares, and goes back to where it started if it fails. -/
def literal (text : String) (ignoresCase : Bool) :
    Watch session
      (modifyGet (ParseState.matchLiteral session text ignoresCase) :
        Eval α σ (Verdict α)) :=
  .ofEq
    (do
      let start ← Eval.cursor
      let descriptor := Expr.literalDescriptor text ignoresCase
      match ← modifyGet
        (ParseState.consume session ignoresCase text.toList) with
      | true => modifyGet (ParseState.succeed session start descriptor)
      | false =>
        modify (ParseState.attempt true start descriptor)
        modify (ParseState.restore session start)
        return Verdict.unmatched)
    (by
      funext state
      rw [modifyGet_apply, ParseState.matchLiteral]
      change (match (ParseState.consume session ignoresCase text.toList
        state).1 with | true => _ | false => _ : Eval α σ (Verdict α)) _ = _
      rcases ParseState.consume session ignoresCase text.toList state
        with ⟨_ | _, after⟩ <;> rfl)
    (.bind .cursor fun start =>
      .bind (consume ignoresCase text.toList) fun agreed =>
        match agreed with
        | true => succeed start _
        | false =>
          .bind (change (.attempt true start _)) fun _ =>
            .bind (change (.restore start)) fun _ => .pure _)

def character (accepts : Char → Bool) (descriptor : String) :
    Watch session
      (modifyGet (ParseState.matchChar session accepts descriptor) :
        Eval α σ (Verdict α)) :=
  .ofEq
    (do
      let start ← Eval.cursor
      match start.current with
      | some char =>
        if accepts char then
          modify (ParseState.read session)
          modifyGet (ParseState.succeed session start descriptor)
        else modifyGet (ParseState.fail descriptor)
      | none => modifyGet (ParseState.fail descriptor))
    (by
      funext state
      rw [modifyGet_apply, ParseState.matchChar]
      change (match state.cursor.current with
        | some char => _ | none => _ : Eval α σ (Verdict α)) _ = _
      cases state.cursor.current with
      | none => rfl
      | some char =>
          change (if accepts char = true then _ else _ :
            Eval α σ (Verdict α)) _ = _
          dsimp only
          split <;> rfl)
    (.bind .cursor fun start =>
      match start.current with
      | some _ =>
        .ite (.bind read fun _ => succeed start descriptor) (fail descriptor)
      | none => fail descriptor)

end Matchers

/-- Watch the evaluation of a node, or the replay of its result. -/
def memoized (enabled : Bool) (node : NodeKey)
    {program : Eval α σ (Verdict α)} (watch : Watch session program) :
    Watch session (Eval.memoized session enabled node program) :=
  .ite
    (.bind .get fun _ =>
      .bind .get fun state =>
        match state.memo.lookup _ with
        | some entry =>
          .bind (change (.restore entry.finish)) fun _ => .pure _
        | none =>
          .bind watch fun verdict =>
            match verdict with
            | .matched value =>
              .bind (change (.remember _ (some value))) fun _ => .pure _
            | .unmatched => .bind (change (.remember _ none)) fun _ => .pure _
            | .aborted _ => .pure _)
    watch

def counted (expr : Expr α σ) {program : Eval α σ (Verdict α)}
    (watch : Watch session program) :
    Watch session (Eval.counted session expr program) :=
  .bind (change .countExpression) fun _ =>
    .bind .get fun _ => .ite (.pure _) (watch.traced _)

def visit (place : ExprPlace) (expr : Expr α σ) {program : Eval α σ (Verdict α)}
    (watch : Watch session program) :
    Watch session (Eval.visit session place expr program) :=
  memoized _ _ (counted expr watch)

section Nodes

def rounds {body : Eval α σ (Verdict α)} (watch : Watch session body) :
    (rounds : Nat) → (values : List (Value α)) →
      Watch session (Eval.evalRounds body rounds values)
  | 0, _ => .throw _
  | rounds + 1, _ =>
    .bind .cursor fun _ =>
      .bind watch.inScope fun verdict =>
        match verdict with
        | .matched _ =>
          .bind .cursor fun _ => .ite (.pure _) (Watch.rounds watch rounds _)
        | .unmatched => .pure _
        | .aborted _ => .pure _

def repetition (required : Nat) {body : Eval α σ (Verdict α)}
    (watch : Watch session body) :
    Watch session (Eval.evalRepetition session required body) :=
  .bind .cursor fun _ =>
    .bind (rounds watch _ _) fun result =>
      match result with
      | .ok _ => .ite (.pure _) (.pure _)
      | .error _ => .pure _

def action (run : Action α σ) {body : Eval α σ (Verdict α)}
    (watch : Watch session body) :
    Watch session (Eval.evalAction session run body) :=
  .bind .cursor fun start =>
    .bind watch fun verdict =>
      match verdict with
      | .matched value =>
        .bind (runCode run start value) fun reply =>
          .bind (traceMatch start) fun _ =>
            match reply with
            | .ok _ => .pure _
            | .error message =>
              .bind (change (.complain message start.position)) fun _ =>
                .pure _
      | .unmatched => .pure _
      | .aborted _ => .pure _

def predicate (test : Predicate α σ) (expected : Bool) :
    Watch session (Eval.evalPredicate session test expected) :=
  .bind .cursor fun start =>
    .bind (runCode test start .nil) fun reply =>
      match reply with
      | .ok _ => .ite (.pure _) (.pure _)
      | .error message =>
        .bind (change fun state =>
            .complain message state.cursor.position state) fun _ =>
          .pure _

def runRule (rule : Rule α σ) {body : Eval α σ (Verdict α)}
    (watch : Watch session body) :
    Watch session (Eval.runRule session rule body) :=
  .bind .cursor fun start =>
    .bind ((watch.inRule rule).traced (.rule rule.name)) fun verdict =>
      match verdict with
      | .matched _ => .bind (traceMatch start) fun _ => .pure _
      | .unmatched => .pure _
      | .aborted _ => .pure _

variable {evaluate : ExprPlace → Expr α σ → Eval α σ (Verdict α)}
  (members : ∀ place expr, Watch session (evaluate place expr))

def sequence (place : ExprPlace) (start : Cursor) :
    (index : Nat) → (values : List (Value α)) → (exprs : List (Expr α σ)) →
      Watch session
        (Eval.evalSequence session evaluate place start index values exprs)
  | _, _, [] => .pure _
  | index, _, expr :: exprs =>
    .bind (members (place.member index) expr) fun verdict =>
      match verdict with
      | .matched _ => sequence place start (index + 1) _ exprs
      | .unmatched => .bind (change (.restore start)) fun _ => .pure _
      | .aborted _ => .pure _

def choice (place : ExprPlace) : (index : Nat) → (exprs : List (Expr α σ)) →
    Watch session (Eval.evalChoice evaluate place index exprs)
  | _, [] => .pure _
  | index, expr :: exprs =>
    .bind (members (place.member index) expr).inScope fun verdict =>
      match verdict with
      | .matched _ => .pure _
      | .unmatched => choice place (index + 1) exprs
      | .aborted _ => .pure _

def rule (rule : Rule α σ) (index : Nat) :
    Watch session (Eval.evalRule session evaluate rule index) :=
  memoized _ _ (runRule rule (members (.body index) rule.body))

def reference (name : String) :
    Watch session (Eval.evalReference session evaluate name) :=
  .ite (.pure _)
    (match session.grammar.target? name with
    | some (target, index) => rule members target index
    | none => .pure _)

/-- Watch what an expression does with its members, given the watches over
these. -/
def node (place : ExprPlace) : (expr : Expr α σ) →
    Watch session (Eval.evalNode session evaluate place expr)
  | .literal text ignoresCase => literal text ignoresCase
  | .oneOf charClass => character charClass.accepts charClass.descriptor
  | .any => character (fun _ => true) Expectations.anyDescriptor
  | .sequence exprs =>
    .bind .cursor fun start => sequence members place start 0 [] exprs
  | .choice alternatives => choice members place 0 alternatives
  | .zeroOrMore body => repetition 0 (members (place.member 0) body)
  | .oneOrMore body => repetition 1 (members (place.member 0) body)
  | .optional body =>
    .bind (members (place.member 0) body).inScope fun verdict =>
      match verdict with
      | .matched _ | .unmatched | .aborted _ => .pure _
  | .followedBy body =>
    .bind (members (place.member 0) body).lookahead fun verdict =>
      match verdict with
      | .matched _ | .unmatched | .aborted _ => .pure _
  | .notFollowedBy body =>
    .bind (members (place.member 0) body).underNot.lookahead fun verdict =>
      match verdict with
      | .matched _ | .unmatched | .aborted _ => .pure _
  | .labeled label body =>
    .bind (members (place.member 0) body).inScope fun verdict =>
      match verdict with
      | .matched value => .bind (change (.bind label value)) fun _ => .pure _
      | .unmatched | .aborted _ => .pure _
  | .reference name => reference members name
  | .action body run => action run (members (place.member 0) body)
  | .require test => predicate test true
  | .forbid test => predicate test false

end Nodes

/-- Watch the evaluation of an expression, with nodes nested no deeper than the
given depth. -/
def expr (session : Session α σ) : (depth : Nat) → (place : ExprPlace) →
    (expr : Expr α σ) → Watch session (Eval.evalExpr session depth place expr)
  | 0, _, _ => .throw _
  | depth + 1, place, expr =>
    visit place expr (node (Watch.expr session depth) place expr)

/-- Watch a parse from the first reading on to the end of the entry rule. -/
def entry (session : Session α σ) (depth : Nat) (entry : Rule α σ) :
    Watch session (do
      modify (ParseState.read session)
      Eval.evalRule session (Eval.evalExpr session depth) entry 0) :=
  .bind read fun _ => rule (Watch.expr session depth) entry 0

end Watch

namespace Watch

variable {α σ β γ : Type} {session : Session α σ}

/-- Something holds at every moment of a program that is watched, and of its
result if it comes to one. -/
def Holds {program : Eval α σ β} (watch : Watch session program)
    (always : Moment α σ → Prop) (onResult : β → ParseState α σ → Prop)
    (state : ParseState α σ) : Prop :=
  (∀ moment ∈ watch.moments state, always moment) ∧
    Eval.Ends program onResult (fun _ => True) True state

section Rules

variable {program : Eval α σ β} {watch : Watch session program}
  {always : Moment α σ → Prop} {onResult : β → ParseState α σ → Prop}
  {state : ParseState α σ}

theorem Holds.mono {weaker : β → ParseState α σ → Prop}
    (holds : watch.Holds always onResult state)
    (result : ∀ value after, onResult value after → weaker value after) :
    watch.Holds always weaker state :=
  ⟨holds.1, holds.2.mono_result result⟩

theorem holds_pure {result : β} :
    (Watch.pure result : Watch session _).Holds always onResult state ↔
      onResult result state := by
  simp [Holds, Watch.pure]

theorem holds_throw {interrupt : Interrupt} :
    (Watch.throw interrupt : Watch session _).Holds always onResult
      state := by
  cases interrupt <;> simp [Holds, Watch.throw]

theorem holds_get {onResult : ParseState α σ → ParseState α σ → Prop} :
    (Watch.get : Watch session _).Holds always onResult state ↔
      onResult state state := by
  simp [Holds, Watch.get]

theorem holds_cursor {onResult : Cursor → ParseState α σ → Prop} :
    (Watch.cursor : Watch session _).Holds always onResult state ↔
      onResult state.cursor state := by
  simp [Holds, Watch.cursor]

theorem holds_bind {next : β → Eval α σ γ}
    {later : ∀ result, Watch session (next result)}
    {onResult : γ → ParseState α σ → Prop} :
    (watch.bind later).Holds always onResult state ↔
      watch.Holds always
        (fun result after => (later result).Holds always onResult after)
        state := by
  unfold Holds Watch.bind
  simp only [Eval.ends_bind, List.forall_mem_append]
  unfold Eval.Ends
  cases program state with
  | ok result after => exact and_assoc
  | error interrupt after => cases interrupt <;> simp

theorem holds_ite {test : Prop} [Decidable test] {other : Eval α σ β}
    {otherwise : Watch session other} :
    (watch.ite otherwise :
        Watch session (if test then program else other)).Holds always onResult
          state ↔
      if test then watch.Holds always onResult state
      else otherwise.Holds always onResult state := by
  unfold Holds Watch.ite
  split <;> rfl

theorem holds_ofEq {other : Eval α σ β} {same : program = other} :
    (watch.ofEq program same).Holds always onResult state ↔
      watch.Holds always onResult state := by
  subst same
  rfl

theorem holds_change {update : ParseState α σ → ParseState α σ}
    {changes : ∀ state, Change session state (update state)}
    {onResult : PUnit → ParseState α σ → Prop} :
    (change changes).Holds always onResult state ↔
      always (.passes (update state)) ∧ onResult .unit (update state) := by
  simp [Holds, change]

theorem holds_read {onResult : PUnit → ParseState α σ → Prop} :
    (read : Watch session _).Holds always onResult state ↔
      always (.slices state.cursor.nextOffset session.input.size) ∧
        always (.passes (state.read session)) ∧
        onResult .unit (state.read session) := by
  simp [Holds, read, and_assoc]

theorem holds_textFrom {start : Cursor}
    {onResult : ByteArray → ParseState α σ → Prop} :
    (textFrom start : Watch session _).Holds always onResult state ↔
      always (.slices start.offset state.cursor.offset) ∧
        onResult (state.textFrom session start) state :=
  and_congr (by simp [textFrom]) Iff.rfl

end Rules

end Watch

end PegEngine
