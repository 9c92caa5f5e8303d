import Mathlib.Data.Nat.Find
import PegEngine.Proofs.Attained

/-!
# Nodes are not evaluated in themselves

While the node of a key is evaluated, no result is kept for that key
(`Eval.fresh_of_evalUnkept`).  This is so because whatever is called in an
evaluation without kept results is attained at a lesser height than the caller
(`Eval.height`): a rule stands above its body at the same depth, and an
expression above its members and the rules to which it refers, which are
evaluated at the depth below.  A parse that keeps results adds no keys but those
of calls (`Eval.evalExpr_confined`), and the least height at which a key is
attained is not less than itself.
-/

namespace PegEngine

open ParseState

/-- The second of two records holds founded results only, and these for keys
that are allowed. -/
structure Record.Confines {α σ : Type} (session : Session α σ) (ample : Nat)
    (allowed : MemoKey → Prop) (_first second : Record α σ) : Prop where
  founded : second.memo.Founded session ample
  allowed : ∀ key entry, second.memo.lookup key = some entry → allowed key

theorem Record.stable_confines {α σ : Type} (session : Session α σ)
    (ample : Nat) (allowed : MemoKey → Prop) :
    Stable (Confines session ample allowed) := by
  intro first second event confines
  constructor
  · rw [memo_apply]
    exact confines.founded
  · rw [memo_apply]
    exact confines.allowed

namespace Eval

variable {α σ : Type} {session : Session α σ} {shared : Prop}
  {left right : ParseState α σ} {first second : Eval α σ (Verdict α)}
  {allowed : MemoKey → Prop} {ample : Nat}

/-- The height of a node that is evaluated to a depth: a rule stands above its
body. -/
def height (depth : Nat) : NodeKey → Nat
  | .expression _ => 2 * depth
  | .rule _ => 2 * depth + 1

/-- A key is attained below a height. -/
def AttainsBelow (session : Session α σ) (bound : Nat) (key : MemoKey) : Prop :=
  ∃ depth, height depth key.node < bound ∧ Attains session depth key

theorem AttainsBelow.mono {bound greater : Nat} {key : MemoKey}
    (below : AttainsBelow session bound key) (atMost : bound ≤ greater) :
    AttainsBelow session greater key := by
  obtain ⟨depth, less, attains⟩ := below
  exact ⟨depth, Nat.lt_of_lt_of_le less atMost, attains⟩

/-- A key that is attained is attained at a least height. -/
theorem Attains.exists_least {depth : Nat} {key : MemoKey}
    (attains : Attains session depth key) :
    ∃ least, Attains session least key ∧
      ¬ AttainsBelow session (height least key.node) key := by
  classical
  have ever : ∃ depth, Attains session depth key := ⟨depth, attains⟩
  refine ⟨Nat.find ever, Nat.find_spec ever, ?_⟩
  rintro ⟨sooner, below, attainsSooner⟩
  refine Nat.find_min ever ?_ attainsSooner
  cases node : key.node <;> simp only [node, height] at below <;> omega

/-- The evaluation of a node of which no result was kept. -/
def evalUnkept (session : Session α σ) : (depth : Nat) → NodeKey →
    Eval α σ (Verdict α)
  | depth, .rule index =>
    match session.grammar.rules[index]? with
    | some rule =>
      runRule session rule (evalExpr session depth (.body index) rule.body)
    | none => throw .exhausted
  | 0, .expression _ => throw .exhausted
  | depth + 1, .expression place =>
    match session.grammar.exprAt? place with
    | some expr =>
      counted session expr
        (evalNode session (evalExpr session depth) place expr)
    | none => throw .exhausted

theorem evalUnkept_rule (session : Session α σ) {rule : Rule α σ} {index : Nat}
    (isRule : session.grammar.rules[index]? = some rule) (depth : Nat) :
    evalUnkept session depth (.rule index) =
      runRule session rule
        (evalExpr session depth (.body index) rule.body) := by
  simp only [evalUnkept, isRule]

theorem evalUnkept_expression (session : Session α σ) {place : ExprPlace}
    {expr : Expr α σ} (found : session.grammar.exprAt? place = some expr)
    (depth : Nat) :
    evalUnkept session (depth + 1) (.expression place) =
      counted session expr
        (evalNode session (evalExpr session depth) place expr) := by
  simp only [evalUnkept, found]

theorem evalUnkept_refines_of_le (session : Session α σ) {depth greater : Nat}
    (atMost : depth ≤ greater) (node : NodeKey) :
    Refines (evalUnkept session depth node)
      (evalUnkept session greater node) := by
  cases node with
  | rule index =>
      simp only [evalUnkept]
      cases session.grammar.rules[index]? with
      | some rule =>
          exact runRule_refines session rule
            (evalExpr_refines_of_le session atMost _ _)
      | none => exact .refl _
  | expression place =>
      cases depth with
      | zero => exact .exhausted _
      | succ depth =>
          obtain ⟨greater, rfl⟩ : ∃ less, greater = less + 1 :=
            ⟨greater - 1, by omega⟩
          simp only [evalUnkept]
          cases session.grammar.exprAt? place with
          | some expr =>
              exact counted_refines session expr (evalNode_refines session
                (evalExpr_refines_of_le session (by omega)) place expr)
          | none => exact .refl _

/-- The evaluation of a node comes to the same within any depth at which it
ends. -/
theorem evalUnkept_unique {depth other : Nat} {node : NodeKey}
    {state after last : ParseState α σ} {verdict verdictToo : Verdict α}
    (run : evalUnkept session depth node state = .ok verdict after)
    (runToo : evalUnkept session other node state = .ok verdictToo last) :
    after = last := by
  have deeper : ∀ {depth greater : Nat} {verdict : Verdict α}
      {after : ParseState α σ}, depth ≤ greater →
      evalUnkept session depth node state = .ok verdict after →
        evalUnkept session greater node state = .ok verdict after := by
    intro depth greater verdict after atMost run
    rcases evalUnkept_refines_of_le session atMost node state
      with ⟨between, exhausted⟩ | same
    · exact nomatch exhausted.symm.trans run
    · exact same.symm.trans run
  have same := (deeper (Nat.le_max_left depth other) run).symm.trans
    (deeper (Nat.le_max_right depth other) runToo)
  cases same
  rfl

section Confining

variable (valid : session.grammar.error? = none)
  (free : session.grammar.StoreFree)
  (unlimited : session.options.maxExpressions = none)
  (enough : Suffices session ample)
include valid free unlimited enough

/-- Keeping the result of a node adds the key at which the node is attained. -/
theorem memoized_confined {enabled : Bool} {node : NodeKey} {depth : Nat}
    {spans : Value α → Nat → Prop}
    (isNode : evalKeyed (session.memoizing false) depth node = first)
    (level : Level (Record.Confines session ample allowed) shared left right)
    (meets : enabled = true → left.Meets session (right.memoKey node))
    (settles : enabled = true →
      Settles (session.memoizing false) True false spans left.cursor first left)
    (adds : Attains session depth (right.memoKey node) →
      allowed (right.memoKey node))
    (paired : Paired first second
      (fun _ => Level (Record.Confines session ample allowed) shared)
      (Stopped (Record.Confines session ample allowed)) left right) :
    Paired first (memoized (session.memoizing true) enabled node second)
      (fun _ => Level (Record.Confines session ample allowed) shared)
      (Stopped (Record.Confines session ample allowed)) left right := by
  subst isNode
  refine paired_memoized (fun _ => paired) ?_ ?_
  · intro entry isEnabled kept
    obtain ⟨before, after, earlier⟩ := level.records.founded _ entry kept
    have again := rerun valid free unlimited earlier (meets isEnabled) depth
    refine (again.and (settles isEnabled)).mono ?_ (fun _ no => no) id
    rintro verdict last ⟨⟨rfl, arrived, -⟩, settled⟩
    refine ⟨rfl, ?_⟩
    rw [restore_eq]
    exact {
      cursor := arrived.symm
      inverted := level.inverted.trans settled.balanced.inverted.symm
      labels := fun isShared =>
        (level.labels isShared).trans (settled.labels rfl).symm
      records := ⟨level.records.founded, level.records.allowed⟩ }
  · intro isEnabled _
    refine ⟨fun verdict after run => ?_, paired.fault⟩
    obtain ⟨afterToo, runToo, reached⟩ := paired.result verdict after run
    have attains : Attains session depth (right.memoKey node) :=
      ⟨left, verdict, after, meets isEnabled, run⟩
    have sooner := (enough _ _ attains).run_eq valid free unlimited
      (meets isEnabled) run
    have founded : (afterToo.rememberVerdict (right.memoKey node)
        verdict).memo.Founded session ample :=
      founded_rememberVerdict reached.records.founded (meets isEnabled) sooner
        reached.cursor.symm
    have confined : ∀ value : Option (Value α), ∀ key entry,
        (afterToo.remember (right.memoKey node) value).memo.lookup key =
          some entry → allowed key := by
      intro value key entry kept
      simp only [remember, MemoTable.lookup_store] at kept
      split at kept
      case isTrue isKey => exact isKey ▸ adds attains
      case isFalse => exact reached.records.allowed key entry kept
    refine ⟨afterToo, runToo, ?_⟩
    cases verdict with
    | matched value => exact { reached with records := ⟨founded, confined _⟩ }
    | unmatched => exact { reached with records := ⟨founded, confined _⟩ }
    | aborted error => exact reached

theorem rules_confined {depth : Nat}
    (below : ∀ key, AttainsBelow session (2 * depth + 2) key → allowed key)
    (members : KeepsAbreast session true
      (Record.Confines session ample allowed)
      (evalExpr (session.memoizing false) depth)
      (evalExpr (session.memoizing true) depth)) :
    RulesKeepAbreast session true (Record.Confines session ample allowed)
      (evalExpr (session.memoizing false) depth)
      (evalExpr (session.memoizing true) depth) := by
  intro rule index shared left right isRule abreast
  exact memoized_confined valid free unlimited enough
    (evalKeyed_rule (session.memoizing false) isRule depth) abreast.toLevel
    (fun _ => meets_rule abreast.ready abreast.cursor abreast.inverted index)
    (fun _ => evalRule_memoizing_settles valid false depth isRule abreast.ready)
    (fun attains => below _ ⟨depth, Nat.lt_succ_self _, attains⟩)
    (runRule_paired members isRule abreast)

/-- A parse that keeps results adds the keys of what is called only, each of
which is attained below the height of the caller. -/
theorem evalExpr_confined {depth : Nat}
    (below : ∀ key, AttainsBelow session (2 * depth + 1) key → allowed key) :
    KeepsAbreast session true (Record.Confines session ample allowed)
      (evalExpr (session.memoizing false) depth)
      (evalExpr (session.memoizing true) depth) := by
  induction depth with
  | zero =>
      intro place expr shared left right found uses abreast runs runsToo
      exact .of_exhausted rfl
  | succ depth ih =>
      intro place expr shared left right found uses abreast runs runsToo
      have members := ih fun key lower => below key (lower.mono (by omega))
      have rules := rules_confined valid free unlimited enough
        (fun key lower => below key (lower.mono (by omega))) members
      have paired := counted_paired
        (Record.stable_confines session ample allowed) free unlimited members
        rules found uses abreast runs runsToo
      -- Results are kept for expressions that do not use the labels in scope.
      have apart : (true && !expr.usesScope) = true →
          expr.usesScope = false := by
        simp
      exact stride_of_level valid unlimited found abreast runs runsToo
        (memoized_confined valid free unlimited enough
          (evalKeyed_expression (session.memoizing false) found (depth + 1))
          abreast.toLevel
          (fun isEnabled => meets_expression found (apart isEnabled)
            abreast.ready runs abreast.cursor abreast.inverted)
          (fun isEnabled => evalExpr_memoizing_settles_apart valid false
            (depth + 1) found (apart isEnabled) abreast.ready runs)
          (fun attains => below _ ⟨depth + 1, Nat.lt_succ_self _, attains⟩)
          paired)

/-- So does the evaluation of a node whose result is not kept yet. -/
theorem evalUnkept_confined {depth : Nat} {key : MemoKey}
    {state : ParseState α σ} (meets : state.Meets session key)
    (below : ∀ other,
      AttainsBelow session (height depth key.node) other → allowed other)
    (founded : state.memo.Founded session ample)
    (within : ∀ other entry, state.memo.lookup other = some entry →
      allowed other) :
    Paired (evalKeyed (session.memoizing false) depth key.node)
      (evalUnkept (session.memoizing true) depth key.node)
      (fun _ => Level (Record.Confines session ample allowed) True)
      (Stopped (Record.Confines session ample allowed)) state state := by
  have abreast : Abreast session true (Record.Confines session ample allowed)
      True state state := .of_ready ⟨founded, within⟩ meets.ready
  obtain ⟨offset, node, inverted⟩ := key
  cases node with
  | rule index =>
      cases isRule : session.grammar.rules[index]? with
      | none =>
          simp only [evalKeyed, Session.grammar_memoizing, isRule]
          exact .of_exhausted rfl
      | some rule =>
          simp only [evalKeyed, evalUnkept, Session.grammar_memoizing, isRule]
          exact runRule_paired
            (evalExpr_confined valid free unlimited enough below) isRule abreast
  | expression place =>
      cases found : session.grammar.exprAt? place with
      | none =>
          simp only [evalKeyed, Session.grammar_memoizing, found]
          exact .of_exhausted rfl
      | some expr =>
          cases depth with
          | zero =>
              simp only [evalKeyed, Session.grammar_memoizing, found]
              exact .of_exhausted rfl
          | succ depth =>
              simp only [evalKeyed, evalUnkept, Session.grammar_memoizing,
                found]
              have members := evalExpr_confined valid free unlimited enough
                fun other lower => below other (lower.mono (Nat.le_succ _))
              have rules := rules_confined valid free unlimited enough below
                members
              exact counted_paired
                (Record.stable_confines session ample allowed) free unlimited
                members rules found (fun _ => trivial) abreast
                (meets.runs place rfl) (meets.runs place rfl)

/-- A node that comes to a result when results are kept is attained. -/
theorem attains_of_evalUnkept {depth : Nat} {key : MemoKey}
    {state after : ParseState α σ} {verdict : Verdict α}
    (meets : state.Meets session key)
    (founded : state.memo.Founded session ample)
    (run : evalUnkept (session.memoizing true) depth key.node state =
      .ok verdict after) :
    Attains session (ample + depth) key := by
  have abreast : Abreast session false (Record.Founds session ample) True state
      state := .of_ready founded meets.ready
  have paired : Paired (evalUnkept (session.memoizing true) depth key.node)
      (evalKeyed (session.memoizing false) (ample + depth) key.node)
      (fun _ => Level (Record.Founds session ample) True)
      (Stopped (Record.Founds session ample)) state state := by
    obtain ⟨offset, node, inverted⟩ := key
    cases node with
    | rule index =>
        cases isRule : session.grammar.rules[index]? with
        | none =>
            simp only [evalUnkept, Session.grammar_memoizing, isRule]
            exact .of_exhausted rfl
        | some rule =>
            simp only [evalKeyed, evalUnkept, Session.grammar_memoizing, isRule]
            exact runRule_paired
              (evalExpr_unfolds valid free unlimited enough depth) isRule
              abreast
    | expression place =>
        cases depth with
        | zero => exact .of_exhausted rfl
        | succ depth =>
            cases found : session.grammar.exprAt? place with
            | none =>
                simp only [evalUnkept, Session.grammar_memoizing, found]
                exact .of_exhausted rfl
            | some expr =>
                simp only [evalKeyed, evalUnkept, Session.grammar_memoizing,
                  found]
                exact counted_unfolds valid free unlimited enough
                  (evalExpr_unfolds valid free unlimited enough depth) found
                  (fun _ => trivial) abreast (meets.runs place rfl)
                  (meets.runs place rfl)
  obtain ⟨other, runToo, -⟩ := paired.result verdict after run
  exact ⟨state, verdict, other, meets, runToo⟩

/-- While a node is evaluated of which no result is kept, none is kept. -/
theorem fresh_of_evalUnkept {depth : Nat} {key : MemoKey}
    {state after : ParseState α σ} {verdict : Verdict α}
    (meets : state.Meets session key)
    (founded : state.memo.Founded session ample)
    (isNew : state.memo.lookup key = none)
    (run : evalUnkept (session.memoizing true) depth key.node state =
      .ok verdict after) :
    after.memo.lookup key = none := by
  obtain ⟨least, attains, notBelow⟩ := (attains_of_evalUnkept valid free
    unlimited enough meets founded run).exists_least
  obtain ⟨_, _, plain⟩ := attains.run valid free unlimited meets
  obtain ⟨last, runToo, level⟩ := (evalUnkept_confined valid free unlimited
    enough meets (fun _ lower => .inr lower) founded
    (fun other entry kept => Or.inl
      (show (state.memo.lookup other).isSome = true by simp [kept]))).result
    _ _ plain
  obtain rfl := evalUnkept_unique run runToo
  cases kept : after.memo.lookup key with
  | none => rfl
  | some entry =>
      rcases level.records.allowed key entry kept with earlier | lower
      · simp [isNew] at earlier
      · exact absurd lower notBelow

end Confining

end Eval

end PegEngine
