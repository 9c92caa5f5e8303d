import Mathlib.Data.Finset.Lattice.Fold
import PegEngine.Proofs.Nodes
import PegEngine.Proofs.Parses
import PegEngine.Proofs.Records
import PegEngine.Proofs.Replay
import PegEngine.Proofs.Termination

/-!
# Results without memoization

A key is attained within a depth if the evaluation of its node, without keeping
results, comes to one there (`Eval.Attains`).  Whether it is does not depend on
anything else, and since there are finitely many keys, some depth suffices for
all that are ever attained (`Eval.exists_suffices`).

With such a depth to spare, a parse that does not keep results comes to whatever
one that does comes to (`Eval.evalExpr_unfolds`).  The invariant is that every
kept result is one to which the evaluation comes within that depth: a result
that is replayed is come to again, and a result that has just been come to is
attained, hence also within that depth.
-/

namespace PegEngine

open ParseState

namespace Eval

variable {α σ : Type} {session : Session α σ} {shared : Prop}
  {left right : ParseState α σ} {first second : Eval α σ (Verdict α)}

/-- The node of a key comes to a result within a depth without keeping
results. -/
def Attains (session : Session α σ) (depth : Nat) (key : MemoKey) : Prop :=
  ∃ (before : ParseState α σ) (verdict : Verdict α) (after : ParseState α σ),
    before.Meets session key ∧
      evalKeyed (session.memoizing false) depth key.node before =
        .ok verdict after

theorem run_of_le {session : Session α σ} {depth greater : Nat} {node : NodeKey}
    {state after : ParseState α σ} {verdict : Verdict α}
    (atMost : depth ≤ greater)
    (run : evalKeyed session depth node state = .ok verdict after) :
    evalKeyed session greater node state = .ok verdict after := by
  rcases evalKeyed_refines_of_le session atMost node state
    with ⟨last, exhausted⟩ | same
  · exact nomatch exhausted.symm.trans run
  · exact same.symm.trans run

theorem Attains.mono {depth greater : Nat} {key : MemoKey}
    (attains : Attains session depth key) (atMost : depth ≤ greater) :
    Attains session greater key := by
  obtain ⟨before, verdict, after, meets, run⟩ := attains
  exact ⟨before, verdict, after, meets, run_of_le atMost run⟩

/-- Only nodes of the grammar come to results, and only where a code point
starts or the input ends. -/
theorem Attains.mem_shares {depth : Nat} {key : MemoKey}
    (attains : Attains session depth key) :
    ∃ share, (key, share) ∈ session.shares := by
  obtain ⟨before, verdict, after, meets, run⟩ := attains
  have boundary : Decoded.Boundary session.input key.offset :=
    meets.offset ▸ meets.ready.stands.boundary
  obtain ⟨offset, node, inverted⟩ := key
  cases node with
  | rule index =>
      simp only [evalKeyed, Session.grammar_memoizing] at run
      cases isRule : session.grammar.rules[index]? with
      | some rule =>
          exact ⟨_, Session.mem_shares boundary
            (Grammar.mem_shares_of_rule isRule)⟩
      | none =>
          rw [isRule] at run
          cases run
  | expression place =>
      simp only [evalKeyed, Session.grammar_memoizing] at run
      cases found : session.grammar.exprAt? place with
      | some expr =>
          exact ⟨_, Session.mem_shares boundary
            (Grammar.mem_shares_of_expr found)⟩
      | none =>
          rw [found] at run
          cases run

/-- A depth within which every key is attained that is attained at all. -/
def Suffices (session : Session α σ) (depth : Nat) : Prop :=
  ∀ (greater : Nat) (key : MemoKey),
    Attains session greater key → Attains session depth key

theorem exists_suffices (session : Session α σ) :
    ∃ depth, Suffices session depth := by
  choose! depthOf attained using
    fun (key : MemoKey) (ever : ∃ depth, Attains session depth key) => ever
  let keys := (session.shares.map Prod.fst).toFinset
  refine ⟨keys.sup depthOf, fun greater key attains => ?_⟩
  obtain ⟨share, isShare⟩ := attains.mem_shares
  have isKey : key ∈ keys :=
    List.mem_toFinset.mpr (List.mem_map_of_mem isShare)
  exact (attained key ⟨greater, attains⟩).mono (Finset.le_sup isKey)

section Running

variable (valid : session.grammar.error? = none)
  (free : session.grammar.StoreFree)
  (unlimited : session.options.maxExpressions = none)
include valid free unlimited

/-- A key that is attained is attained from every state in which it belongs. -/
theorem Attains.run {depth : Nat} {key : MemoKey} {state : ParseState α σ}
    (attains : Attains session depth key) (meets : state.Meets session key) :
    ∃ verdict after, evalKeyed (session.memoizing false) depth key.node state =
      .ok verdict after := by
  obtain ⟨before, verdict, middle, meetsBefore, run⟩ := attains
  obtain ⟨after, runToo, -⟩ := (evalKeyed_retraces valid free unlimited depth
    meetsBefore meets).result _ _ run
  exact ⟨verdict, after, runToo⟩

/-- What a node comes to within any depth, it comes to within one at which its
key is attained. -/
theorem Attains.run_eq {depth greater : Nat} {key : MemoKey}
    {state after : ParseState α σ} {verdict : Verdict α}
    (attains : Attains session depth key) (meets : state.Meets session key)
    (run : evalKeyed (session.memoizing false) greater key.node state =
      .ok verdict after) :
    evalKeyed (session.memoizing false) depth key.node state =
      .ok verdict after := by
  obtain ⟨other, last, runToo⟩ := attains.run valid free unlimited meets
  have deep := run_of_le (Nat.le_max_left greater depth) run
  have deepToo := run_of_le (Nat.le_max_right greater depth) runToo
  rw [runToo, ← deepToo, deep]

end Running

end Eval

/-- Every result in a table is one to which the evaluation of its node comes
within a depth. -/
def MemoTable.Founded {α σ : Type} (session : Session α σ) (depth : Nat)
    (memo : MemoTable α) : Prop :=
  ∀ key entry, memo.lookup key = some entry →
    ∃ before after, Eval.Earlier session key entry depth before after

/-- The first of two records holds founded results only. -/
def Record.Founds {α σ : Type} (session : Session α σ) (depth : Nat)
    (first _second : Record α σ) : Prop :=
  first.memo.Founded session depth

theorem Record.stable_founds {α σ : Type} (session : Session α σ)
    (depth : Nat) : Stable (Founds session depth) := by
  intro first second event founds
  rw [Founds, memo_apply]
  exact founds

namespace Eval

variable {α σ : Type} {session : Session α σ} {shared : Prop}
  {left right : ParseState α σ} {first second : Eval α σ (Verdict α)}

/-- A result that has just been come to may be kept. -/
theorem founded_rememberVerdict {depth : Nat} {key : MemoKey}
    {verdict : Verdict α} {before last after : ParseState α σ}
    (founded : after.memo.Founded session depth)
    (meets : before.Meets session key)
    (run : evalKeyed (session.memoizing false) depth key.node before =
      .ok verdict last)
    (same : last.cursor = after.cursor) :
    (after.rememberVerdict key verdict).memo.Founded session depth := by
  have kept : ∀ value : Option (Value α), verdict = .ofResult value →
      (after.remember key value).memo.Founded session depth := by
    rintro value rfl other entry found
    simp only [remember, MemoTable.lookup_store] at found
    split at found
    case isTrue isKey =>
      cases found
      subst isKey
      exact ⟨before, last, meets, run, same⟩
    case isFalse => exact founded other entry found
  cases verdict with
  | matched value => exact kept (some value) rfl
  | unmatched => exact kept none rfl
  | aborted error => exact founded

/-- Sessions with results kept or not are in good order in the same states. -/
theorem ready_memoizing {state : ParseState α σ} (flag other : Bool)
    (ready : state.Ready (session.memoizing flag)) :
    state.Ready (session.memoizing other) where
  stands := ready.stands
  spare := ready.spare
  memo key entry kept := by
    have fits := ready.memo key entry kept
    exact ⟨fits.stands, fits.unmatched, fits.matched⟩
  reports := ready.reports
  within := ready.within

/-- A parse is at the same point as itself, whether or not results are kept. -/
theorem Abreast.of_ready {flag other : Bool}
    {related : Record α σ → Record α σ → Prop} {state : ParseState α σ}
    (records : related state.record state.record)
    (ready : state.Ready (session.memoizing other)) :
    Abreast session flag related shared state state where
  cursor := rfl
  inverted := rfl
  labels _ := rfl
  records := records
  ready := ready_memoizing other false ready
  readyToo := ready_memoizing other flag ready

/-- What an expression does with its members does not depend on whether results
are kept. -/
theorem evalNode_memoizing (session : Session α σ) (flag : Bool)
    (evaluate : ExprPlace → Expr α σ → Eval α σ (Verdict α)) (place : ExprPlace)
    {expr : Expr α σ} (combines : ∀ name, expr ≠ .reference name) :
    evalNode (session.memoizing flag) evaluate place expr =
      evalNode (session.memoizing false) evaluate place expr := by
  have sequence : ∀ (start : Cursor) (index : Nat) (values : List (Value α))
      (exprs : List (Expr α σ)),
      evalSequence (session.memoizing flag) evaluate place start index values
          exprs =
        evalSequence (session.memoizing false) evaluate place start index values
          exprs := by
    intro start index values exprs
    induction exprs generalizing index values with
    | nil => rfl
    | cons expr exprs ih =>
        simp only [evalSequence, ih]
        rfl
  have consume : ∀ (ignoresCase : Bool) (chars : List Char)
      (state : ParseState α σ),
      state.consume (session.memoizing flag) ignoresCase chars =
        state.consume (session.memoizing false) ignoresCase chars := by
    intro ignoresCase chars state
    induction chars generalizing state with
    | nil => rfl
    | cons char chars ih =>
        simp only [ParseState.consume, ih]
        rfl
  cases expr with
  | literal text ignoresCase =>
      have matched : matchLiteral (session.memoizing flag) text ignoresCase =
          matchLiteral (session.memoizing false) text ignoresCase := by
        funext state
        simp only [matchLiteral, consume]
        rfl
      simp only [evalNode, matched]
  | sequence exprs => simp only [evalNode, sequence]
  | reference name => exact absurd rfl (combines name)
  | _ => rfl

section Unfolding

variable (valid : session.grammar.error? = none)
  (free : session.grammar.StoreFree)
  (unlimited : session.options.maxExpressions = none) {ample : Nat}
  (enough : Suffices session ample)
include valid free unlimited enough

/-- Evaluating a node leads to where replaying its result leads, and a result
that is kept is one to which the evaluation comes. -/
theorem memoized_unfolds {enabled : Bool} {node : NodeKey} {depth : Nat}
    {spans : Value α → Nat → Prop} (atLeast : ample ≤ depth)
    (isNode : evalKeyed (session.memoizing false) depth node = second)
    (level : Level (Record.Founds session ample) shared left right)
    (meets : enabled = true → right.Meets session (left.memoKey node))
    (settles : enabled = true →
      Settles (session.memoizing false) True false spans right.cursor second
        right)
    (paired : Paired first second
      (fun _ => Level (Record.Founds session ample) shared)
      (Stopped (Record.Founds session ample)) left right) :
    Paired (memoized (session.memoizing true) enabled node first) second
      (fun _ => Level (Record.Founds session ample) shared)
      (Stopped (Record.Founds session ample)) left right := by
  subst isNode
  refine paired_of_memoized (fun _ => paired) ?_ ?_
  · intro entry isEnabled kept
    obtain ⟨before, after, earlier⟩ := level.records _ entry kept
    have attains : Attains session ample (left.memoKey node) :=
      ⟨before, _, after, earlier.meets, earlier.run⟩
    obtain ⟨verdict, last, run⟩ :=
      (attains.mono atLeast).run valid free unlimited (meets isEnabled)
    obtain ⟨rfl, arrived, -⟩ :=
      (rerun valid free unlimited earlier (meets isEnabled) depth).result run
    have settled := (settles isEnabled).result run
    refine ⟨last, run, ?_⟩
    rw [restore_eq]
    exact {
      cursor := arrived
      inverted := settled.balanced.inverted.trans level.inverted
      labels := fun isShared =>
        (settled.labels rfl).trans (level.labels isShared)
      records := level.records }
  · intro isEnabled _
    refine ⟨fun verdict after run => ?_, paired.fault⟩
    obtain ⟨last, runToo, reached⟩ := paired.result verdict after run
    have attains : Attains session ample (left.memoKey node) :=
      enough depth _ ⟨right, verdict, last, meets isEnabled, runToo⟩
    have sooner :=
      attains.run_eq valid free unlimited (meets isEnabled) runToo
    have founded : (after.rememberVerdict (left.memoKey node)
        verdict).memo.Founded session ample :=
      founded_rememberVerdict reached.records (meets isEnabled) sooner
        reached.cursor
    refine ⟨last, runToo, ?_⟩
    cases verdict with
    | matched value => exact { reached with records := founded }
    | unmatched => exact { reached with records := founded }
    | aborted error => exact reached

/-- So does evaluating a rule. -/
theorem evalRule_unfolds {depth index : Nat} {rule : Rule α σ}
    (members : KeepsAbreast session false (Record.Founds session ample)
      (evalExpr (session.memoizing true) depth)
      (evalExpr (session.memoizing false) (ample + depth)))
    (isRule : session.grammar.rules[index]? = some rule)
    (abreast : Abreast session false (Record.Founds session ample) shared left
      right) :
    Paired
      (evalRule (session.memoizing true)
        (evalExpr (session.memoizing true) depth) rule index)
      (evalRule (session.memoizing false)
        (evalExpr (session.memoizing false) (ample + depth)) rule index)
      (fun _ => Level (Record.Founds session ample) shared)
      (Stopped (Record.Founds session ample)) left right :=
  memoized_unfolds valid free unlimited enough (Nat.le_add_right _ _)
    (evalKeyed_rule (session.memoizing false) isRule (ample + depth))
    abreast.toLevel
    (fun _ => meets_rule abreast.readyToo abreast.cursor.symm
      abreast.inverted.symm index)
    (fun _ => evalRule_memoizing_settles valid false (ample + depth) isRule
      abreast.readyToo)
    (runRule_paired members isRule abreast)

/-- So does evaluating an expression, if its members and the rules to which it
refers do. -/
theorem evalNode_unfolds {depth : Nat} {place : ExprPlace} {expr : Expr α σ}
    (members : KeepsAbreast session false (Record.Founds session ample)
      (evalExpr (session.memoizing true) depth)
      (evalExpr (session.memoizing false) (ample + depth)))
    (found : session.grammar.exprAt? place = some expr)
    (uses : expr.usesScope = true → shared)
    (abreast : Abreast session false (Record.Founds session ample) shared left
      right)
    (runs : left.Runs session place.rule)
    (runsToo : right.Runs session place.rule) :
    Paired
      (evalNode (session.memoizing true)
        (evalExpr (session.memoizing true) depth) place expr)
      (evalNode (session.memoizing false)
        (evalExpr (session.memoizing false) (ample + depth)) place expr)
      (fun _ => Level (Record.Founds session ample) shared)
      (Stopped (Record.Founds session ample)) left right := by
  by_cases refers : ∃ name, expr = .reference name
  · obtain ⟨name, rfl⟩ := refers
    simp only [evalNode, evalReference, Session.grammar_memoizing]
    split
    · exact paired_pure abreast.toLevel
    · cases target : session.grammar.target? name with
      | some callee =>
          exact evalRule_unfolds valid free unlimited enough members
            (Grammar.rule_of_target? target) abreast
      | none => exact paired_pure abreast.toLevel
  · rw [evalNode_memoizing session true _ place
      fun name same => refers ⟨name, same⟩]
    exact evalNode_paired (Record.stable_founds session ample) free members
      (fun _ _ _ _ _ isRule abreast => runRule_paired members isRule abreast)
      found uses abreast runs runsToo

theorem counted_unfolds {depth : Nat} {place : ExprPlace} {expr : Expr α σ}
    (members : KeepsAbreast session false (Record.Founds session ample)
      (evalExpr (session.memoizing true) depth)
      (evalExpr (session.memoizing false) (ample + depth)))
    (found : session.grammar.exprAt? place = some expr)
    (uses : expr.usesScope = true → shared)
    (abreast : Abreast session false (Record.Founds session ample) shared left
      right)
    (runs : left.Runs session place.rule)
    (runsToo : right.Runs session place.rule) :
    Paired
      (counted (session.memoizing true) expr
        (evalNode (session.memoizing true)
          (evalExpr (session.memoizing true) depth) place expr))
      (counted (session.memoizing false) expr
        (evalNode (session.memoizing false)
          (evalExpr (session.memoizing false) (ample + depth)) place expr))
      (fun _ => Level (Record.Founds session ample) shared)
      (Stopped (Record.Founds session ample)) left right := by
  refine paired_counted expr unlimited unlimited (paired_traced _ ?_)
  have inside := (abreast.countExpression (Record.stable_founds session ample)
    unlimited).enterNode (.expression expr.kindName)
  apply (evalNode_unfolds valid free unlimited enough members found uses inside
    (runs.of_eq (by rw [enterNode_eq]; rfl))
    (runsToo.of_eq (by rw [enterNode_eq]; rfl))).imp
  intro verdict after afterToo level
  have behind : Level (Record.Founds session ample) shared
      (after.leaveNode (session.memoizing false) (.expression expr.kindName))
      (afterToo.leaveNode (session.memoizing false)
        (.expression expr.kindName)) :=
    level.leaveNode _
  exact behind

/-- With an ample depth to spare, a parse that does not keep results keeps
abreast of one that does. -/
theorem evalExpr_unfolds (depth : Nat) :
    KeepsAbreast session false (Record.Founds session ample)
      (evalExpr (session.memoizing true) depth)
      (evalExpr (session.memoizing false) (ample + depth)) := by
  induction depth with
  | zero =>
      intro place expr shared left right found uses abreast runs runsToo
      exact .of_exhausted rfl
  | succ depth ih =>
      intro place expr shared left right found uses abreast runs runsToo
      have settles := evalExpr_memoizing_settles valid true (depth + 1) found
        (ready_memoizing false true abreast.ready) runs
      have settlesToo := evalExpr_memoizing_settles valid false
        (ample + (depth + 1)) found abreast.readyToo runsToo
      have paired := counted_unfolds valid free unlimited enough ih found uses
        abreast runs runsToo
      -- Results are kept for expressions that do not use the labels in scope.
      have apart : (true && !expr.usesScope) = true →
          expr.usesScope = false := by
        simp
      have level := memoized_unfolds valid free unlimited enough
        (Nat.le_add_right ample (depth + 1))
        (evalKeyed_expression (session.memoizing false) found
          (ample + (depth + 1)))
        abreast.toLevel
        (fun isEnabled => meets_expression found (apart isEnabled)
          abreast.readyToo runsToo abreast.cursor.symm abreast.inverted.symm)
        (fun isEnabled => evalExpr_memoizing_settles_apart valid false
          (ample + (depth + 1)) found (apart isEnabled) abreast.readyToo
          runsToo)
        paired
      apply (level.and_ends settles settlesToo).imp
      rintro verdict after afterToo ⟨level, settled, settledToo⟩
      exact { level with
        ready := ready_memoizing true false
          (settled.sound.ready (.of_unlimited unlimited))
        readyToo := settledToo.sound.ready (.of_unlimited unlimited)
        balanced := settled.balanced
        balancedToo := settledToo.balanced }

end Unfolding

end Eval

namespace Session

variable {α σ : Type} {session : Session α σ}

/-- At the start of a parse no results have been kept. -/
theorem founded_opening (session : Session α σ) (flag : Bool) (depth : Nat) :
    (session.memoizing flag).opening.memo.Founded session depth := by
  intro key entry kept
  rw [opening, (steady_read _ _).memo] at kept
  cases (MemoTable.lookup_empty key).symm.trans kept

end Session

end PegEngine
