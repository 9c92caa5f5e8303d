import PegEngine.Grammars.Arithmetic
import PegEngine.Proofs.LeftRecursion
import PegEngine.Proofs.Parses
import Mathlib.Data.Finset.Lattice.Fold
import Mathlib.Data.Finset.Prod

/-!
# Termination

A parse ends if the calls of its evaluation are well founded.  Each call can
lead to finitely many places and offsets only, so there is a depth that suffices
for all of them (`Eval.exists_haltsAt`).  Grammars without left recursion are
the main case (`Session.exists_entering_settles`): their parses end on every
input, with and without memoization, whatever the code of the grammar does.
Where there is no recursion at all, the depth that suffices can be computed
(`Grammar.nestsWithin`).
-/

namespace PegEngine

open ParseState

namespace Eval

variable {α σ : Type} {session : Session α σ}

/-- A depth that suffices for the expression at a place, from an offset on. -/
def HaltsAt (session : Session α σ) (depth : Nat) (config : ExprPlace × Nat) :
    Prop :=
  ∀ (expr : Expr α σ) (state : ParseState α σ),
    session.grammar.exprAt? config.1 = some expr →
      state.cursor.offset = config.2 → state.Ready session →
      state.Runs session config.1.rule →
        Settles session False expr.bindsLabels
          (session.grammar.Spans session.input expr state.cursor.offset)
          state.cursor (evalExpr session depth config.1 expr) state

theorem HaltsAt.mono {depth greater : Nat} {config : ExprPlace × Nat}
    (halts : HaltsAt session depth config) (atMost : depth ≤ greater) :
    HaltsAt session greater config :=
  fun expr state found atOffset ready runs =>
    Ends.of_refines (halts expr state found atOffset ready runs)
      (evalExpr_refines_of_le session atMost config.1 expr)

/-- The evaluations that the evaluation at a place can call. -/
def callees (session : Session α σ) (place : ExprPlace) (expr : Expr α σ) :
    Finset (ExprPlace × Nat) :=
  ((Finset.range expr.members.length).image place.member ∪
    (Finset.range session.grammar.rules.length).image .body) ×ˢ
      Finset.range (session.input.size + 1)

theorem mem_callees {place callee : ExprPlace} {expr called : Expr α σ}
    {start middle : Nat}
    (calls : session.grammar.Calls session.input place start expr callee called
      middle)
    (inside : middle ≤ session.input.size) :
    (callee, middle) ∈ callees session place expr := by
  have isPlace : (∃ index < expr.members.length,
      place.member index = callee) ∨
        ∃ index < session.grammar.rules.length, .body index = callee := by
    cases calls with
    | sequence split spans =>
        exact .inl ⟨_, by simp [Expr.members, split], rfl⟩
    | choice isAlternative =>
        exact .inl ⟨_, (List.getElem?_eq_some_iff.mp isAlternative).1, rfl⟩
    | reference target =>
        have isRule := Grammar.rule_of_target? target
        exact .inr ⟨_, (List.getElem?_eq_some_iff.mp isRule).1, rfl⟩
    | zeroOrMore | oneOrMore | optional | followedBy | notFollowedBy | labeled
    | action => exact .inl ⟨0, by simp [Expr.members], rfl⟩
  simp only [callees, Finset.mem_product, Finset.mem_union, Finset.mem_image,
    Finset.mem_range]
  exact ⟨isPlace, by omega⟩

/-- If calls cannot go on forever, some depth suffices. -/
theorem exists_haltsAt (valid : session.grammar.error? = none)
    {config : ExprPlace × Nat}
    (acc : Acc (session.grammar.Called session.input) config) :
    ∃ depth, HaltsAt session depth config := by
  induction acc with
  | intro config _ ih =>
      obtain ⟨place, start⟩ := config
      cases found : session.grammar.exprAt? place with
      | none =>
          refine ⟨0, fun expr state isExpr => ?_⟩
          cases found.symm.trans isExpr
      | some expr =>
          choose! depthOf enough using ih
          let bound := (callees session place expr).sup depthOf
          refine ⟨bound + 1, ?_⟩
          intro other state isExpr atStart ready runs
          obtain rfl := Option.some.inj (found.symm.trans isExpr)
          apply evalExpr_succ_settles valid found ready runs
          intro callee called inner calls innerReady innerRuns _
          have inside := innerReady.stands.boundary.le_size
          have isCalled : session.grammar.Called session.input
              (callee, inner.cursor.offset) (place, start) :=
            ⟨inside, expr, called, found, atStart ▸ calls⟩
          have atMost : depthOf (callee, inner.cursor.offset) ≤ bound :=
            Finset.le_sup (mem_callees calls inside)
          exact ((enough _ isCalled).mono atMost) called inner
            (calls.placed found) rfl innerReady innerRuns

end Eval

namespace Grammar

variable {α σ : Type} {grammar : Grammar α σ}

/-- What the evaluation of an expression can call: its members, or the body of
the rule to which it refers. -/
def parts (grammar : Grammar α σ) (expr : Expr α σ) : List (Expr α σ) :=
  match expr with
  | .reference name =>
    ((grammar.target? name).map fun target => target.1.body).toList
  | expr => expr.members

theorem mem_parts_of_calls {input : ByteArray} {place callee : ExprPlace}
    {expr called : Expr α σ} {start middle : Nat}
    (calls : grammar.Calls input place start expr callee called middle) :
    called ∈ grammar.parts expr := by
  cases calls with
  | reference target => simp [parts, target]
  | sequence split spans => simp [parts, Expr.members, split]
  | choice isAlternative => exact List.mem_of_getElem? isAlternative
  | zeroOrMore | oneOrMore | optional | followedBy | notFollowedBy | labeled
  | action => exact List.mem_cons_self

/-- Test whether evaluations of an expression nest no deeper than some depth, as
they do if no rule leads back to itself. -/
def nestsWithin (grammar : Grammar α σ) : Nat → Expr α σ → Bool
  | 0, _ => false
  | depth + 1, expr => (grammar.parts expr).all (grammar.nestsWithin depth)

theorem nestsWithin_of_calls {input : ByteArray} {place callee : ExprPlace}
    {expr called : Expr α σ} {depth start middle : Nat}
    (nests : grammar.nestsWithin (depth + 1) expr = true)
    (calls : grammar.Calls input place start expr callee called middle) :
    grammar.nestsWithin depth called = true :=
  List.all_eq_true.mp nests called (mem_parts_of_calls calls)

end Grammar

namespace Eval

variable {α σ : Type} {session : Session α σ}

/-- The depth within which evaluations nest suffices for them. -/
theorem settles_of_nestsWithin {depth : Nat} {place : ExprPlace}
    {expr : Expr α σ} {state : ParseState α σ}
    (valid : session.grammar.error? = none)
    (nests : session.grammar.nestsWithin depth expr = true)
    (found : session.grammar.exprAt? place = some expr)
    (ready : state.Ready session) (runs : state.Runs session place.rule) :
    Settles session False expr.bindsLabels
      (session.grammar.Spans session.input expr state.cursor.offset)
      state.cursor (evalExpr session depth place expr) state := by
  induction depth generalizing place expr state with
  | zero => cases nests
  | succ depth ih =>
      exact evalExpr_succ_settles valid found ready runs
        fun _ _ _ calls ready runs _ =>
          ih (Grammar.nestsWithin_of_calls nests calls) (calls.placed found)
            ready runs

end Eval

namespace Session

variable {α σ : Type} {session : Session α σ}

/-- A parse has a report within some depth if the evaluation of its entry rule
ends within it. -/
theorem exists_report_of_ends {entry : Rule α σ} {depth : Nat}
    {onResult : Verdict α → ParseState α σ → Prop}
    {onFault : ParseState α σ → Prop}
    (starts : session.grammar.start? = some entry)
    (valid : session.grammar.error? = none)
    (ends : Eval.Ends
      (Eval.evalRule session (Eval.evalExpr session depth) entry 0)
      onResult onFault False session.opening) :
    ∃ report, session.parseWithin depth = some report := by
  rw [parseWithin_eq starts valid]
  have reported : (session.reportOn (session.entering depth entry)).isSome := by
    rcases run : session.entering depth entry with
      ⟨verdict, after⟩ | ⟨interrupt, after⟩
    · cases verdict <;> rfl
    · cases interrupt with
      | fault fault =>
          simp only [reportOn]
          split <;> rfl
      | exhausted =>
          simp only [entering] at run
          simp [Eval.Ends, run] at ends
  exact Option.isSome_iff_exists.mp reported

/-- A parse ends if the evaluation of its entry rule does. -/
theorem gives_of_ends {entry : Rule α σ} {depth : Nat}
    {onResult : Verdict α → ParseState α σ → Prop}
    {onFault : ParseState α σ → Prop}
    (starts : session.grammar.start? = some entry)
    (valid : session.grammar.error? = none)
    (ends : Eval.Ends
      (Eval.evalRule session (Eval.evalExpr session depth) entry 0)
      onResult onFault False session.opening) :
    ∃ report, session.Gives report := by
  obtain ⟨report, isReport⟩ := exists_report_of_ends starts valid ends
  exact ⟨report, depth, isReport⟩

/-- The depth within which evaluations of the entry rule nest suffices for a
report. -/
theorem exists_report_of_nestsWithin {entry : Rule α σ} {depth : Nat}
    (starts : session.grammar.start? = some entry)
    (valid : session.grammar.error? = none)
    (nests : session.grammar.nestsWithin depth entry.body = true) :
    ∃ report, session.parseWithin depth = some report := by
  have isRule := Grammar.entry_of_start? starts
  exact exists_report_of_ends starts valid (Eval.evalRule_settles isRule
    session.opening_ready fun inner _ ready runs _ =>
      Eval.settles_of_nestsWithin valid nests (Grammar.exprAt?_body isRule)
        ready runs)

/-- Without left recursion, some depth suffices for the entry rule. -/
theorem exists_entering_settles {entry : Rule α σ}
    (starts : session.grammar.start? = some entry)
    (valid : session.grammar.error? = none)
    (notLeftRecursive : ¬ session.grammar.LeftRecursive) :
    ∃ depth, Eval.Settles session False false
      (session.grammar.Spans session.input entry.body
        session.opening.cursor.offset)
      session.opening.cursor
      (Eval.evalRule session (Eval.evalExpr session depth) entry 0)
      session.opening := by
  have isRule := Grammar.entry_of_start? starts
  have found := Grammar.exprAt?_body isRule
  obtain ⟨depth, halts⟩ := Eval.exists_haltsAt valid
    (Grammar.acc_called notLeftRecursive found (Nat.zero_le _))
  refine ⟨depth, Eval.evalRule_settles isRule session.opening_ready ?_⟩
  intro inner atStart ready runs _
  have atOffset : inner.cursor.offset = 0 := by
    rw [atStart, offset_opening]
  exact halts entry.body inner found atOffset ready runs

/-- Every parse of a valid grammar without left recursion ends. -/
theorem gives_of_not_leftRecursive (valid : session.grammar.error? = none)
    (notLeftRecursive : ¬ session.grammar.LeftRecursive) :
    ∃ report, session.Gives report := by
  obtain ⟨entry, starts⟩ := Grammar.start?_of_valid valid
  obtain ⟨depth, settles⟩ :=
    exists_entering_settles starts valid notLeftRecursive
  exact gives_of_ends starts valid settles

end Session

namespace Arithmetic

variable {name : String}

theorem leftRefers_joined {operand operators : String}
    (refers : grammar.LeftRefers (joined operand operators) name) :
    name = operand := by
  cases refers with
  | action refers =>
      cases refers with
      | sequenceFirst refers =>
          cases refers with
          | labeled refers =>
              cases refers with
              | reference => rfl
      | sequenceLater nullable refers =>
          cases refers with
          | sequenceLater nullable refers => cases refers
          | sequenceFirst refers =>
              cases refers with
              | labeled refers =>
                  cases refers with
                  | zeroOrMore refers =>
                      cases refers with
                      | sequenceFirst refers => cases refers
                      | sequenceLater nullable refers => cases nullable

theorem not_leftRefers_bracketed
    (refers : grammar.LeftRefers
      (.sequence
        [.exactly "(", .labeled "sum" (.reference "Sum"), .exactly ")"])
      name) : False := by
  cases refers with
  | sequenceFirst refers => cases refers
  | sequenceLater nullable refers =>
      cases nullable with
      | literal isEmpty => exact absurd isEmpty (by decide)

theorem lt_of_leftCalls {caller callee : Fin grammar.rules.length}
    (calls : grammar.LeftCalls caller callee) : caller < callee := by
  obtain ⟨name, rule, refers, target⟩ := calls
  have leads : ∀ index, (grammar.target? name).map Prod.snd = some index →
      callee.val = index := by
    intro index isIndex
    rw [target] at isIndex
    exact Option.some.inj isIndex
  obtain ⟨caller, bound⟩ := caller
  change caller < callee.val
  match caller, bound with
  | 0, _ =>
      cases refers with
      | action refers =>
          cases refers with
          | sequenceFirst refers =>
              cases refers with
              | labeled refers =>
                  cases refers with
                  | reference =>
                      have isSum := leads 1 rfl
                      omega
          | sequenceLater nullable refers =>
              cases refers with
              | sequenceLater nullable refers => cases refers
              | sequenceFirst refers =>
                  cases refers with
                  | notFollowedBy refers => cases refers
  | 1, _ =>
      obtain rfl := leftRefers_joined refers
      have isProduct := leads 2 rfl
      omega
  | 2, _ =>
      obtain rfl := leftRefers_joined refers
      have isTerm := leads 3 rfl
      omega
  | 3, _ =>
      cases refers with
      | choice isAlternative refers =>
          rcases List.mem_cons.mp isAlternative with rfl | isAlternative
          · cases refers with
            | action refers => exact (not_leftRefers_bracketed refers).elim
          · obtain rfl := List.mem_singleton.mp isAlternative
            cases refers with
            | reference =>
                have isNumber := leads 4 rfl
                omega
  | 4, _ =>
      cases refers with
      | action refers =>
          cases refers with
          | oneOrMore refers => cases refers

theorem not_leftRecursive : ¬ grammar.LeftRecursive :=
  Grammar.not_leftRecursive_of_lt fun _ _ => lt_of_leftCalls

/-- An arithmetic expression that is parsed to the end. -/
theorem gives_sum :
    grammar.error? = none ∧ ¬ grammar.LeftRecursive ∧
      ∃ report, Session.Gives
        ⟨grammar, "", "1+2*(3)".toUTF8, Options.default⟩ report :=
  ⟨error?_grammar, not_leftRecursive,
    Session.gives_of_not_leftRecursive error?_grammar not_leftRecursive⟩

end Arithmetic

end PegEngine
