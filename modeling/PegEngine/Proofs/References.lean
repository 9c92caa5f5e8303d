import PegEngine.Proofs.Calls

/-!
# The rules that references run

A reference runs the last rule of its name (`Session.references_run_last`).
Looking the name up in the grammar gives the first rule of that name, so the two
agree exactly if no other rule has the name.  Validity does not ask for this: it
is enough that some rule has the name, and a valid grammar in which two rules
have the same name runs one of them where the other one is looked up
(`Grammar.repeated_runs_other`).
-/

namespace PegEngine

namespace Grammar

variable {α σ : Type} {grammar : Grammar α σ} {name : String} {rule : Rule α σ}
  {index : Nat}

/-- A rule is the first one of a name, at an index. -/
structure IsFirst (grammar : Grammar α σ) (name : String) (rule : Rule α σ)
    (index : Nat) : Prop where
  isRule : grammar.rules[index]? = some rule
  named : rule.name = name
  least : ∀ (earlier : Nat) (other : Rule α σ),
    grammar.rules[earlier]? = some other → other.name = name →
      index ≤ earlier

/-- A rule is the last one of a name, at an index. -/
structure IsLast (grammar : Grammar α σ) (name : String) (rule : Rule α σ)
    (index : Nat) : Prop where
  isRule : grammar.rules[index]? = some rule
  named : rule.name = name
  greatest : ∀ (later : Nat) (other : Rule α σ),
    grammar.rules[later]? = some other → other.name = name → later ≤ index

/-- No two rules have a name. -/
def GivesOnce (grammar : Grammar α σ) (name : String) : Prop :=
  ∀ (index other : Nat) (rule ruleToo : Rule α σ),
    grammar.rules[index]? = some rule → rule.name = name →
      grammar.rules[other]? = some ruleToo → ruleToo.name = name →
        index = other

/-- Looking a name up gives the first rule of that name. -/
theorem exists_isFirst (found : grammar.rule? name = some rule) :
    ∃ index, grammar.IsFirst name rule index := by
  obtain ⟨named, index, isIndex, isRule, before⟩ :=
    List.find?_eq_some_iff_getElem.mp found
  refine ⟨index, ?_, by simpa using named, fun earlier other isOther same => ?_⟩
  · rw [List.getElem?_eq_getElem isIndex, isRule]
  · refine Nat.le_of_not_lt fun isBefore => ?_
    obtain ⟨within, isHere⟩ := List.getElem?_eq_some_iff.mp isOther
    have differs := before earlier (by omega)
    rw [isHere] at differs
    simp [same] at differs

/-- References to a name run the last rule of that name. -/
theorem isLast_of_target? (target : grammar.target? name = some (rule, index)) :
    grammar.IsLast name rule index := by
  obtain ⟨named, later, earlier, listed, differ⟩ :=
    List.find?_eq_some_iff_append.mp target
  have forwards : grammar.rules.zipIdx =
      earlier.reverse ++ ((rule, index) :: later.reverse) := by
    rw [← List.reverse_reverse grammar.rules.zipIdx, listed]
    simp
  obtain ⟨rulesBefore, rest, rules, -, tail⟩ :=
    List.zipIdx_eq_append_iff.mp forwards
  cases rest with
  | nil => cases tail
  | cons first rulesAfter =>
      rw [List.zipIdx_cons, Nat.zero_add, List.cons.injEq, Prod.mk.injEq]
        at tail
      obtain ⟨⟨rfl, atIndex⟩, behind⟩ := tail
      refine ⟨rule_of_target? target, by simpa using named,
        fun other ruleToo isRule same => ?_⟩
      refine Nat.le_of_not_lt fun isAfter => ?_
      have isLater : rulesAfter[other - (index + 1)]? = some ruleToo := by
        rw [rules, List.getElem?_append_right (by omega)] at isRule
        rw [← isRule, show other - rulesBefore.length =
          other - (index + 1) + 1 by omega]
        rfl
      have listedLater : (ruleToo, other) ∈ later := by
        rw [← List.mem_reverse, behind]
        refine List.mem_of_getElem? (i := other - (index + 1)) ?_
        rw [List.getElem?_zipIdx, isLater, Option.map_some]
        congr 2
        omega
      have differs := differ _ listedLater
      simp [same] at differs

/-- The first rule of a name is the last one exactly if there is no other. -/
theorem IsFirst.eq_iff_givesOnce {first : Rule α σ} {firstIndex : Nat}
    (isFirst : grammar.IsFirst name first firstIndex)
    (isLast : grammar.IsLast name rule index) :
    firstIndex = index ↔ grammar.GivesOnce name := by
  constructor
  · rintro rfl one other oneRule otherRule isOne named isOther namedToo
    have least := isFirst.least one oneRule isOne named
    have leastToo := isFirst.least other otherRule isOther namedToo
    have greatest := isLast.greatest one oneRule isOne named
    have greatestToo := isLast.greatest other otherRule isOther namedToo
    omega
  · intro once
    exact once _ _ _ _ isFirst.isRule isFirst.named isLast.isRule isLast.named

end Grammar

namespace Eval

variable {α σ : Type} {session : Session α σ}

/-- Whenever one of some calls is that of a reference, and the reference is
evaluated, the next call is that of the rule which the grammar has for it, in
the state that evaluation has come to by then. -/
def RunTargets (session : Session α σ) (calls : List (Visit α σ)) : Prop :=
  ∀ (index : Nat) (place : ExprPlace) (name : String) (nots : Nat)
    (state : ParseState α σ),
    calls[index]? = some (.expression place (.reference name) nots state) →
      enters session place (.reference name) state = true →
        ∃ rule target, session.grammar.target? name = some (rule, target) ∧
          name.isEmpty = false ∧
          calls[index + 1]? = some (.rule rule target nots
            (state.countExpression.enterNode session
              (.expression (Expr.reference name : Expr α σ).kindName)))

theorem RunTargets.append {calls later : List (Visit α σ)}
    (first : RunTargets session calls) (second : RunTargets session later) :
    RunTargets session (calls ++ later) := by
  intro index place name nots state isCall isEntered
  by_cases within : index < calls.length
  · rw [List.getElem?_append_left within] at isCall
    obtain ⟨rule, target, isTarget, named, next⟩ :=
      first index place name nots state isCall isEntered
    obtain ⟨inside, -⟩ := List.getElem?_eq_some_iff.mp next
    exact ⟨rule, target, isTarget, named,
      (List.getElem?_append_left inside).trans next⟩
  · rw [List.getElem?_append_right (by omega)] at isCall
    obtain ⟨rule, target, isTarget, named, next⟩ :=
      second _ place name nots state isCall isEntered
    refine ⟨rule, target, isTarget, named, ?_⟩
    rw [List.getElem?_append_right (by omega), ← next]
    congr 1
    omega

/-- The lists of calls of a valid grammar run its rules. -/
theorem hereditary_runTargets (session : Session α σ) :
    Hereditary session (RunTargets session) where
  nil := fun _ _ _ _ _ isCall => nomatch isCall
  append := RunTargets.append
  rule := by
    intro rule target nots state calls isRule targets index
    cases index with
    | zero => exact fun _ _ _ _ isCall => nomatch isCall
    | succ index => exact targets index
  expression := by
    intro place expr nots state calls found leads targets index
    cases index with
    | zero =>
        intro otherPlace name otherNots otherState isCall isEntered
        cases isCall
        obtain ⟨rule, target, later, isTarget, named, rfl⟩ :=
          leads name rfl isEntered
        exact ⟨rule, target, isTarget, named, rfl⟩
    | succ index => exact targets index

/-- Evaluating a reference is evaluating its rule. -/
theorem evalNode_reference {name : String} {rule : Rule α σ} {index : Nat}
    (named : name.isEmpty = false)
    (target : session.grammar.target? name = some (rule, index))
    (evaluate : ExprPlace → Expr α σ → Eval α σ (Verdict α))
    (place : ExprPlace) :
    evalNode session evaluate place (.reference name) =
      evalRule session evaluate rule index := by
  simp only [evalNode, evalReference, named, target, Bool.false_eq_true,
    if_false]

end Eval

namespace Session

variable {α σ : Type}

/-- Whenever a parse of a valid grammar comes to evaluate a reference, it calls
the last rule of that name next, and this is all that the reference does.
Looking the name up gives the first rule of that name.  It is at the same place
of the grammar exactly if no two rules have the name. -/
theorem references_run_last (session : Session α σ)
    (valid : session.grammar.error? = none) {entry : Rule α σ}
    (starts : session.grammar.start? = some entry) (depth : Nat)
    {position : Nat} {place : ExprPlace} {name : String} {nots : Nat}
    {state : ParseState α σ}
    (isCall : (session.visits depth entry)[position]? =
      some (.expression place (.reference name) nots state))
    (isEntered : Eval.enters session place (.reference name) state = true) :
    ∃ rule index first firstIndex,
      (session.visits depth entry)[position + 1]? =
        some (.rule rule index nots
          (state.countExpression.enterNode session
            (.expression (Expr.reference name : Expr α σ).kindName))) ∧
      (∀ evaluate,
        Eval.evalNode session evaluate place (.reference name) =
          Eval.evalRule session evaluate rule index) ∧
      session.grammar.IsLast name rule index ∧
      session.grammar.rule? name = some first ∧
      session.grammar.IsFirst name first firstIndex ∧
      (firstIndex = index ↔ session.grammar.GivesOnce name) ∧
      (session.grammar.GivesOnce name →
        session.grammar.rule? name = some rule) := by
  have targets : Eval.RunTargets session (session.visits depth entry) :=
    (Eval.hereditary_runTargets session).parse valid starts depth
  obtain ⟨rule, index, target, named, next⟩ :=
    targets position place name nots state isCall isEntered
  have isLast := Grammar.isLast_of_target? target
  obtain ⟨first, found⟩ : ∃ first, session.grammar.rule? name = some first :=
    Option.isSome_iff_exists.mp (List.find?_isSome.mpr
      ⟨rule, List.mem_of_getElem? isLast.isRule, by simp [isLast.named]⟩)
  obtain ⟨firstIndex, isFirst⟩ := Grammar.exists_isFirst found
  have sameIff := isFirst.eq_iff_givesOnce isLast
  refine ⟨rule, index, first, firstIndex, next,
    fun evaluate => Eval.evalNode_reference named target evaluate place,
    isLast, found, isFirst, sameIff, fun once => ?_⟩
  have same : some first = some rule := by
    rw [← isFirst.isRule, ← isLast.isRule, sameIff.mpr once]
  rw [found, same]

end Session

namespace Grammar

/-- A reference to the only rule of its name. -/
def plain : Session Unit :=
  .ofSettings ⟨[⟨"main", "", .reference "x"⟩, ⟨"x", "", .exactly "a"⟩]⟩ ""
    "a".toUTF8 []

/-- A reference to a name that two rules have. -/
def repeated : Session Unit :=
  .ofSettings
    ⟨[⟨"main", "", .reference "x"⟩, ⟨"x", "", .exactly "a"⟩,
      ⟨"x", "", .exactly "b"⟩]⟩ "" "a".toUTF8 []

theorem plain_runs_last :
    plain.grammar.error? = none ∧ plain.grammar.GivesOnce "x" ∧
      ∃ entry position place nots state rule index inside,
        (plain.visits 8 entry)[position]? =
          some (.expression place (.reference "x") nots state) ∧
        (plain.visits 8 entry)[position + 1]? =
          some (.rule rule index nots inside) ∧
        plain.grammar.rule? "x" = some rule := by
  have once : plain.grammar.GivesOnce "x" := by
    rintro (_ | _ | _) (_ | _ | _) _ _ ⟨⟩ named ⟨⟩ namedToo <;> first
      | rfl
      | exact absurd named (by decide)
      | exact absurd namedToo (by decide)
  have isCall : (plain.visits 8 ⟨"main", "", .reference "x"⟩)[1]? =
      some (.expression ⟨0, []⟩ (.reference "x") 0 _) := rfl
  obtain ⟨rule, index, first, firstIndex, next, -, -, -, -, -, agree⟩ :=
    plain.references_run_last rfl rfl 8 isCall rfl
  exact ⟨rfl, once, _, _, _, _, _, rule, index, _, isCall, next, agree once⟩

/-- The grammar is valid, but the reference runs another rule than looking its
name up gives, and so the parse fails where that rule would match. -/
theorem repeated_runs_other :
    repeated.grammar.error? = none ∧
      (∃ entry place state rule index inside,
        repeated.grammar.start? = some entry ∧
        (repeated.visits 8 entry)[1]? =
          some (.expression place (.reference "x") 0 state) ∧
        Eval.enters repeated place (.reference "x") state = true ∧
        (repeated.visits 8 entry)[2]? = some (.rule rule index 0 inside) ∧
        rule.body = .exactly "b" ∧
        (repeated.grammar.rule? "x").map Rule.body = some (.exactly "a") ∧
        repeated.grammar.rule? "x" ≠ some rule) ∧
      ∃ parsed log, repeated.Gives ⟨.parsed parsed, log⟩ ∧
        parsed.value = none := by
  refine ⟨rfl, ⟨_, _, _, _, _, _, rfl, rfl, rfl, rfl, rfl, rfl, fun same => ?_⟩,
    _, _, ⟨8, rfl⟩, rfl⟩
  injection same with same
  injection same with _ _ sameBody
  injection sameBody with sameText
  exact absurd sameText (by decide)

end Grammar

end PegEngine
