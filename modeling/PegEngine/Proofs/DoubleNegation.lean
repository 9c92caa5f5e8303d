import PegEngine.Proofs.Agreement
import PegEngine.Proofs.Lookaheads

/-!
# Double negation

A positive lookahead is the negation of a negation: some of the positive
lookaheads of a grammar can be replaced in this way (`Grammar.doubled`), with
others left as they are, and the parse comes to the same value, diagnostics or
fault, and calls the same code with the same to see in the same order, as long
as results are not kept and expressions are not limited
(`Session.doubling_reproduces`).

Two ways of choosing the lookaheads are compared rather than one with none of
them, so that a single induction, over the depth, serves for both directions
(`Transcript.keepsUp_doubled`).  A replaced lookahead is one node deeper than it
was, so twice the depth always suffices.
-/

namespace PegEngine

variable {α σ : Type}

namespace Expr

mutual

/-- An expression in which the chosen ones of its positive lookaheads are
negated twice.  They are chosen by their places; that of the whole is given. -/
def doubled (chosen : ExprPlace → Bool) (place : ExprPlace) :
    Expr α σ → Expr α σ
  | .literal text ignoresCase => .literal text ignoresCase
  | .oneOf charClass => .oneOf charClass
  | .any => .any
  | .sequence members => .sequence (doubledFrom chosen place 0 members)
  | .choice alternatives => .choice (doubledFrom chosen place 0 alternatives)
  | .zeroOrMore body => .zeroOrMore (body.doubled chosen (place.member 0))
  | .oneOrMore body => .oneOrMore (body.doubled chosen (place.member 0))
  | .optional body => .optional (body.doubled chosen (place.member 0))
  | .followedBy body =>
    if chosen place then
      .notFollowedBy (.notFollowedBy (body.doubled chosen (place.member 0)))
    else .followedBy (body.doubled chosen (place.member 0))
  | .notFollowedBy body => .notFollowedBy (body.doubled chosen (place.member 0))
  | .labeled label body =>
    .labeled label (body.doubled chosen (place.member 0))
  | .reference name => .reference name
  | .action body run => .action (body.doubled chosen (place.member 0)) run
  | .require test => .require test
  | .forbid test => .forbid test

/-- The same for members of an expression, from an index on. -/
def doubledFrom (chosen : ExprPlace → Bool) (place : ExprPlace) (index : Nat) :
    List (Expr α σ) → List (Expr α σ)
  | [] => []
  | expr :: exprs =>
    expr.doubled chosen (place.member index) ::
      doubledFrom chosen place (index + 1) exprs

end

mutual

@[simp]
theorem references_doubled (chosen : ExprPlace → Bool) (place : ExprPlace)
    (expr : Expr α σ) :
    (expr.doubled chosen place).references = expr.references := by
  cases expr with
  | sequence members | choice members =>
      simp only [doubled, references, references_doubledFrom chosen place 0]
  | followedBy body =>
      unfold doubled
      split <;> simp only [references, references_doubled chosen _ body]
  | zeroOrMore body | oneOrMore body | optional body | notFollowedBy body
  | labeled label body | action body run =>
      simp only [doubled, references, references_doubled chosen _ body]
  | literal | oneOf | any | reference | require | forbid =>
      simp only [doubled, references]

theorem references_doubledFrom (chosen : ExprPlace → Bool) (place : ExprPlace)
    (index : Nat) (exprs : List (Expr α σ)) :
    referencesOfAll (doubledFrom chosen place index exprs) =
      referencesOfAll exprs := by
  cases exprs with
  | nil => rfl
  | cons expr exprs =>
      simp only [doubledFrom, referencesOfAll, references_doubled chosen _ expr,
        references_doubledFrom chosen place (index + 1) exprs]

end

mutual

/-- Nothing changes if no lookahead is chosen. -/
@[simp]
theorem doubled_none (place : ExprPlace) (expr : Expr α σ) :
    expr.doubled (fun _ => false) place = expr := by
  cases expr with
  | sequence members | choice members =>
      simp only [doubled, doubledFrom_none place 0 members]
  | zeroOrMore body | oneOrMore body | optional body | followedBy body
  | notFollowedBy body | labeled label body | action body run =>
      simp [doubled, doubled_none _ body]
  | literal | oneOf | any | reference | require | forbid => rfl

theorem doubledFrom_none (place : ExprPlace) (index : Nat)
    (exprs : List (Expr α σ)) :
    doubledFrom (fun _ => false) place index exprs = exprs := by
  cases exprs with
  | nil => rfl
  | cons expr exprs =>
      simp only [doubledFrom, doubled_none _ expr,
        doubledFrom_none place (index + 1) exprs]

end

theorem doubled_of_chosen {chosen : ExprPlace → Bool} {place : ExprPlace}
    (isChosen : chosen place = true) (body : Expr α σ) :
    (Expr.followedBy body).doubled chosen place =
      .notFollowedBy
        (.notFollowedBy (body.doubled chosen (place.member 0))) := by
  rw [doubled, if_pos isChosen]

theorem doubled_of_not_chosen {chosen : ExprPlace → Bool} {place : ExprPlace}
    (notChosen : ¬ chosen place = true) (body : Expr α σ) :
    (Expr.followedBy body).doubled chosen place =
      .followedBy (body.doubled chosen (place.member 0)) := by
  rw [doubled, if_neg notChosen]

/-- All expressions but the positive lookaheads stay what they are. -/
theorem doubled_sameKind (chosen other : ExprPlace → Bool) (place : ExprPlace)
    {expr : Expr α σ} (unaffected : ∀ body, expr ≠ .followedBy body) :
    (expr.doubled chosen place).SameKind (expr.doubled other place) := by
  cases expr with
  | followedBy body => exact absurd rfl (unaffected body)
  | _ =>
      unfold doubled
      constructor

theorem members_doubled (chosen : ExprPlace → Bool) (place : ExprPlace)
    {expr : Expr α σ} (unaffected : ∀ body, expr ≠ .followedBy body) :
    (expr.doubled chosen place).members =
      doubledFrom chosen place 0 expr.members := by
  cases expr with
  | followedBy body => exact absurd rfl (unaffected body)
  | _ => simp only [doubled, members, doubledFrom]

end Expr

namespace Rule

/-- A rule in whose body the chosen lookaheads are negated twice, given the
index of the rule. -/
def doubled (chosen : ExprPlace → Bool) (index : Nat) (rule : Rule α σ) :
    Rule α σ :=
  { rule with body := rule.body.doubled chosen (.body index) }

end Rule

namespace Grammar

/-- A grammar in which the chosen lookaheads are negated twice. -/
def doubled (chosen : ExprPlace → Bool) (grammar : Grammar α σ) : Grammar α σ :=
  ⟨grammar.rules.mapIdx (Rule.doubled chosen)⟩

variable (chosen : ExprPlace → Bool) (grammar : Grammar α σ)

theorem start?_doubled :
    (grammar.doubled chosen).start? =
      grammar.start?.map (Rule.doubled chosen 0) := by
  obtain ⟨rules⟩ := grammar
  cases rules <;> simp [start?, doubled]

@[simp]
theorem doubled_none : grammar.doubled (fun _ => false) = grammar := by
  have same : ∀ index (rule : Rule α σ), rule.doubled (fun _ => false) index =
      rule := by
    simp [Rule.doubled]
  obtain ⟨rules⟩ := grammar
  simp only [doubled, mk.injEq]
  apply List.ext_getElem?
  intro index
  rw [List.getElem?_mapIdx]
  cases rules[index]? <;> simp [same]

theorem zipIdx_doubled :
    (grammar.doubled chosen).rules.zipIdx =
      grammar.rules.zipIdx.map fun entry =>
        (entry.1.doubled chosen entry.2, entry.2) := by
  apply List.ext_getElem?
  intro index
  simp only [doubled, List.getElem?_zipIdx, List.getElem?_mapIdx,
    List.getElem?_map, Option.map_map]
  cases grammar.rules[index]? <;> simp

theorem target?_doubled (name : String) :
    (grammar.doubled chosen).target? name =
      (grammar.target? name).map fun entry =>
        (entry.1.doubled chosen entry.2, entry.2) := by
  simp only [target?, zipIdx_doubled, ← List.map_reverse, List.find?_map]
  rfl

theorem declares_doubled (name : String) :
    (grammar.doubled chosen).declares name = grammar.declares name := by
  obtain ⟨rules⟩ := grammar
  have names : (rules.mapIdx (Rule.doubled chosen)).map Rule.name =
      rules.map Rule.name := by
    apply List.ext_getElem?
    intro index
    simp only [List.getElem?_map, List.getElem?_mapIdx, Option.map_map]
    rfl
  have named : ∀ rules : List (Rule α σ),
      (rules.any fun rule => rule.name == name) =
        (rules.map Rule.name).any (· == name) := by
    simp [List.any_map, Function.comp_def]
  simp only [declares, doubled, named, names]

theorem references_doubled :
    (grammar.doubled chosen).references = grammar.references := by
  obtain ⟨rules⟩ := grammar
  have bodies : (rules.mapIdx (Rule.doubled chosen)).map
      (fun rule => rule.body.references) =
        rules.map fun rule => rule.body.references := by
    apply List.ext_getElem?
    intro index
    simp only [List.getElem?_map, List.getElem?_mapIdx, Option.map_map]
    simp [Function.comp_def, Rule.doubled]
  simp only [references, doubled, List.flatMap_def, bodies]

/-- Validation does not tell one way of looking ahead from the other. -/
theorem error?_doubled : (grammar.doubled chosen).error? = grammar.error? := by
  have sameErrors :
      (grammar.doubled chosen).referenceError? = grammar.referenceError? := by
    funext name
    simp only [referenceError?, declares_doubled]
  have sameRules :
      (grammar.doubled chosen).rules.isEmpty = grammar.rules.isEmpty := by
    obtain ⟨rules⟩ := grammar
    cases rules <;> simp [doubled]
  simp only [error?, references_doubled, sameErrors, sameRules]

end Grammar

namespace Session

/-- The session in which the chosen lookaheads of the grammar are negated
twice. -/
def doubling (session : Session α σ) (chosen : ExprPlace → Bool) :
    Session α σ :=
  { session with grammar := session.grammar.doubled chosen }

theorem akin_doubling (session : Session α σ)
    (chosen other : ExprPlace → Bool) :
    (session.doubling chosen).Akin (session.doubling other) :=
  ⟨rfl, rfl, rfl, rfl⟩

theorem memoize_doubling {session : Session α σ} (chosen : ExprPlace → Bool)
    (unkept : session.options.memoize = false) :
    (session.doubling chosen).options.memoize = false :=
  unkept

theorem maxExpressions_doubling {session : Session α σ}
    (chosen : ExprPlace → Bool)
    (unlimited : session.options.maxExpressions = none) :
    (session.doubling chosen).options.maxExpressions = none :=
  unlimited

theorem doubling_none (session : Session α σ) :
    session.doubling (fun _ => false) = session := by
  simp only [doubling, Grammar.doubled_none]

end Session

namespace Transcript

open ParseState

variable {session : Session α σ} {chosen other : ExprPlace → Bool}

section Members

variable {evaluate evaluateToo : ExprPlace → Expr α σ → Eval α σ (Verdict α)}
  {members : ∀ place expr,
    Transcript (session.doubling chosen) (evaluate place expr)}
  {membersToo : ∀ place expr,
    Transcript (session.doubling other) (evaluateToo place expr)}
  (keepUp : ∀ (expr : Expr α σ) (origin place placeToo : ExprPlace),
    KeepsUp false (members place (expr.doubled chosen origin))
      (membersToo placeToo (expr.doubled other origin)))
include keepUp

theorem membersKeepUp_doubled (origin place placeToo : ExprPlace) (index : Nat)
    (exprs : List (Expr α σ)) :
    MembersKeepUp members membersToo false place placeToo index
      (Expr.doubledFrom chosen origin index exprs)
      (Expr.doubledFrom other origin index exprs) := by
  induction exprs generalizing index with
  | nil =>
      simp only [Expr.doubledFrom]
      trivial
  | cons expr exprs ih =>
      simp only [Expr.doubledFrom]
      exact ⟨keepUp _ _ _ _, ih (index + 1)⟩

variable (unkept : session.options.memoize = false)
include unkept

theorem keepsUp_rule_doubled (entry : Rule α σ) (index : Nat) :
    KeepsUp false (rule members (entry.doubled chosen index) index)
      (rule membersToo (entry.doubled other index) index) := by
  have body : KeepsUp false
      (members (.body index) (entry.doubled chosen index).body)
      (membersToo (.body index) (entry.doubled other index).body) :=
    keepUp entry.body (.body index) (.body index) (.body index)
  have sameName : (entry.doubled other index).diagnosticName =
      (entry.doubled chosen index).diagnosticName := rfl
  exact (body.runRule sameName).unmemoized
    (Session.memoize_doubling chosen unkept)
    (Session.memoize_doubling other unkept) _ _

theorem keepsUp_reference_doubled (name : String) :
    KeepsUp false (reference members name) (reference membersToo name) := by
  apply keepsUp_reference
  have targets : ∀ picked : ExprPlace → Bool,
      (session.doubling picked).grammar.target? name =
        (session.grammar.target? name).map fun entry =>
          (entry.1.doubled picked entry.2, entry.2) :=
    fun picked => session.grammar.target?_doubled picked name
  rw [targets, targets]
  cases session.grammar.target? name with
  | none => exact .none
  | some entry => exact .some (keepsUp_rule_doubled keepUp unkept _ _)

end Members

variable (chosen other)
  (unkept : session.options.memoize = false)
  (unlimited : session.options.maxExpressions = none)
include unkept unlimited

/-- However a positive lookahead is written, it glances at its body, which is
evaluated one or two nodes deeper. -/
theorem exists_glances (depth : Nat) (place origin : ExprPlace)
    (body : Expr α σ) :
    ∃ lower placeToo, depth ≤ lower ∧ lower ≤ depth + 1 ∧
      Glances
        (expr (session.doubling chosen) (depth + 2) place
          ((Expr.followedBy body).doubled chosen origin))
        (expr (session.doubling chosen) lower placeToo
          (body.doubled chosen (origin.member 0))) := by
  have unkeptToo := Session.memoize_doubling chosen unkept
  have unlimitedToo := Session.maxExpressions_doubling chosen unlimited
  by_cases isChosen : chosen origin = true
  · rw [Expr.doubled_of_chosen isChosen]
    exact ⟨depth, _, Nat.le_refl _, Nat.le_succ _,
      glances_notFollowedBy unkeptToo unlimitedToo _ _ _⟩
  · rw [Expr.doubled_of_not_chosen isChosen]
    exact ⟨depth + 1, _, Nat.le_succ _, Nat.le_refl _,
      glances_followedBy unkeptToo unlimitedToo _ _ _⟩

/-- A lookahead is not evaluated where its body cannot be. -/
theorem exhausts_doubled (place origin : ExprPlace) (body : Expr α σ)
    (state : ParseState α σ) :
    ∃ after, Eval.evalExpr (session.doubling chosen) 1 place
      ((Expr.followedBy body).doubled chosen origin) state =
        .error .exhausted after := by
  have unkeptToo := Session.memoize_doubling chosen unkept
  have unlimitedToo := Session.maxExpressions_doubling chosen unlimited
  by_cases isChosen : chosen origin = true
  · rw [Expr.doubled_of_chosen isChosen]
    exact (wraps_notFollowedBy (expr (session.doubling chosen) 0) unkeptToo
      unlimitedToo place _).exhausts (fun state => ⟨state, rfl⟩) state
  · rw [Expr.doubled_of_not_chosen isChosen]
    exact (wraps_followedBy (expr (session.doubling chosen) 0) unkeptToo
      unlimitedToo place _).exhausts (fun state => ⟨state, rfl⟩) state

/-- An expression comes to the same whichever of its lookaheads are negated
twice, within twice the depth. -/
theorem keepsUp_doubled (depth : Nat) :
    ∀ depthToo, 2 * depth ≤ depthToo →
      ∀ (expr : Expr α σ) (origin place placeToo : ExprPlace),
        KeepsUp false
          (Transcript.expr (session.doubling chosen) depth place
            (expr.doubled chosen origin))
          (Transcript.expr (session.doubling other) depthToo placeToo
            (expr.doubled other origin)) := by
  induction depth using Nat.strongRecOn with
  | _ depth ih =>
  intro depthToo enough expr origin place placeToo
  cases depth with
  | zero => exact keepsUp_of_exhausted fun state => ⟨state, rfl⟩
  | succ depth =>
      by_cases isLookahead : ∃ body, expr = .followedBy body
      · obtain ⟨body, rfl⟩ := isLookahead
        cases depth with
        | zero =>
            exact keepsUp_of_exhausted
              (exhausts_doubled chosen unkept unlimited place origin body)
        | succ depth =>
            obtain ⟨remaining, rfl⟩ : ∃ remaining, depthToo = remaining + 2 :=
              ⟨depthToo - 2, by omega⟩
            obtain ⟨lower, inner, -, atMost, glances⟩ :=
              exists_glances chosen unkept unlimited depth place origin body
            obtain ⟨lowerToo, innerToo, atLeast, -, glancesToo⟩ :=
              exists_glances other unkept unlimited remaining placeToo origin
                body
            exact glances.keepsUp glancesToo
              (ih lower (by omega) lowerToo (by omega) body _ _ _)
      · have unaffected : ∀ body, expr ≠ .followedBy body :=
          fun body same => isLookahead ⟨body, same⟩
        obtain ⟨remaining, rfl⟩ : ∃ remaining, depthToo = remaining + 1 :=
          ⟨depthToo - 1, by omega⟩
        have keepUp := ih depth (Nat.lt_succ_self _) remaining (by omega)
        have members : MembersKeepUp
            (Transcript.expr (session.doubling chosen) depth)
            (Transcript.expr (session.doubling other) remaining) false place
            placeToo 0 (expr.doubled chosen origin).members
            (expr.doubled other origin).members := by
          rw [Expr.members_doubled chosen origin unaffected,
            Expr.members_doubled other origin unaffected]
          exact membersKeepUp_doubled keepUp origin place placeToo 0
            expr.members
        have evaluated := keepsUp_node (session.akin_doubling chosen other)
          (Expr.doubled_sameKind chosen other origin unaffected) members
          (keepsUp_reference_doubled keepUp unkept)
        have sameLimit : ∀ left right : ParseState α σ,
            Similar false left right →
            right.overLimit (session.doubling other) =
              left.overLimit (session.doubling chosen) := by
          intro left right similar
          simp [overLimit, Session.doubling, unlimited]
        exact (evaluated.counted sameLimit _ _).unmemoized
          (by rw [Session.memoize_doubling chosen unkept]; rfl)
          (by rw [Session.memoize_doubling other unkept]; rfl) _ _

end Transcript

namespace Session

variable {session : Session α σ}

/-- What comes of a parse does not depend on which lookaheads are negated
twice. -/
theorem Observed.doubling (unkept : session.options.memoize = false)
    (unlimited : session.options.maxExpressions = none)
    {chosen : ExprPlace → Bool} (other : ExprPlace → Bool)
    {found : Except Fault (Option (Value α) × Diagnostics)}
    {calls : List (NodeCode α σ × MatchContext α σ)}
    (observed : (session.doubling chosen).Observed found calls) :
    (session.doubling other).Observed found calls := by
  obtain ⟨depth, report, reported, rfl, rfl⟩ := observed
  have keepUp := Transcript.keepsUp_doubled chosen other unkept unlimited depth
    (2 * depth) (Nat.le_refl _)
  have sameError : (session.doubling other).grammar.error? =
      (session.doubling chosen).grammar.error? :=
    (session.grammar.error?_doubled other).trans
      (session.grammar.error?_doubled chosen).symm
  have starts : ∀ picked : ExprPlace → Bool,
      (session.doubling picked).grammar.start? =
        session.grammar.start?.map (Rule.doubled picked 0) :=
    fun picked => session.grammar.start?_doubled picked
  have entries : Option.Rel
      (fun entry entryToo => Transcript.KeepsUp false
        (Transcript.rule (Transcript.expr (session.doubling chosen) depth)
          entry 0)
        (Transcript.rule (Transcript.expr (session.doubling other) (2 * depth))
          entryToo 0))
      (session.doubling chosen).grammar.start?
      (session.doubling other).grammar.start? := by
    rw [starts, starts]
    cases session.grammar.start? with
    | none => exact .none
    | some entry =>
        exact .some (Transcript.keepsUp_rule_doubled keepUp unkept entry 0)
  obtain ⟨reportToo, reportedToo, agrees, sameCalls⟩ :=
    parseWithin_agrees (session.akin_doubling chosen other) sameError entries
      reported
  exact ⟨2 * depth, reportToo, reportedToo, agrees.found, sameCalls⟩

/-- A positive lookahead is a double negation: whichever lookaheads of a grammar
are negated twice instead, the parse comes to the same value and the same
diagnostics, or to the same fault, and calls the same code with the same to see
in the same order, provided that results are not kept and expressions are not
limited. -/
theorem doubling_reproduces (session : Session α σ)
    (unkept : session.options.memoize = false)
    (unlimited : session.options.maxExpressions = none)
    (chosen : ExprPlace → Bool)
    (found : Except Fault (Option (Value α) × Diagnostics))
    (calls : List (NodeCode α σ × MatchContext α σ)) :
    (session.doubling chosen).Observed found calls ↔
      session.Observed found calls := by
  have none := session.doubling_none
  constructor
  · intro observed
    have original := observed.doubling unkept unlimited fun _ => false
    rwa [none] at original
  · intro observed
    rw [← none] at observed
    exact observed.doubling unkept unlimited chosen

end Session

namespace Grammar

/-- Code is called under a positive lookahead within a negative one, and again
under a positive one. -/
def fenced : Grammar Unit :=
  ⟨[⟨"main", "",
    .sequence
      [.notFollowedBy (.followedBy
          (.sequence [.require (Code.pure fun _ => .answer true),
            .exactly "a"])),
        .followedBy (.action (.exactly "b") fun context =>
          (.answer (.text context.text), context.store)),
        .exactly "bc"]⟩]⟩

def fencedSession : Session Unit := .ofSettings fenced "" "bd".toUTF8 []

/-- The code is called twice, and the parse fails, whichever way the lookaheads
are written. -/
theorem fenced_doubled :
    fencedSession.options.memoize = false ∧
      fencedSession.options.maxExpressions = none ∧
      ∃ diagnostics calls, calls.length = 2 ∧
        fencedSession.Observed (.ok (none, diagnostics)) calls ∧
        (fencedSession.doubling fun _ => true).Observed
          (.ok (none, diagnostics)) calls := by
  have observed : fencedSession.Observed (.ok (none, _)) _ :=
    ⟨10, _, rfl, rfl, rfl⟩
  exact ⟨rfl, rfl, _, _, rfl, observed,
    (fencedSession.doubling_reproduces rfl rfl (fun _ => true) _ _).mpr
      observed⟩

end Grammar

end PegEngine
