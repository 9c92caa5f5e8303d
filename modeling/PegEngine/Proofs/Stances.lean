import PegEngine.Evaluation.Parse
import PegEngine.Proofs.Matchers

/-!
# What to make of complaints

A complaint of a grammar's code is reported, and the match goes on.  A stance
takes something else for a complaint: the answer with which the match goes on
anyhow, or a failure of the code.  This file carries a stance from code over to
expressions, grammars and sessions, and to the states of a parse, and shows that
nothing but the code of a grammar is changed by it.
-/

namespace PegEngine

/-- What to make of complaints: answers that nobody hears of, or failures. -/
inductive Stance where
  | forgiving
  | exacting
deriving DecidableEq, Repr

variable {α σ β : Type}

namespace Reply

/-- A reply in which a complaint counts as an answer, or as a failure. -/
def taken (stance : Stance) (answer : β) : Reply β → Reply β
  | .complaint message =>
    match stance with
    | .forgiving => .answer answer
    | .exacting => .failure (.message message)
  | reply => reply

end Reply

namespace Code

/-- Code that replies what another one does, but for complaints.  The store that
it leaves is the same. -/
def taken (stance : Stance) (answer : β) (code : Code α σ β) : Code α σ β :=
  fun context =>
    let (reply, store) := code context
    (reply.taken stance answer, store)

end Code

namespace Expr

mutual

/-- An expression in which a stance is taken on all complaints.  The answer in
place of one is what makes the match go on: no value for an action, and the
expected answer for a predicate. -/
def taken (stance : Stance) : Expr α σ → Expr α σ
  | .literal text ignoresCase => .literal text ignoresCase
  | .oneOf charClass => .oneOf charClass
  | .any => .any
  | .sequence members => .sequence (allTaken stance members)
  | .choice alternatives => .choice (allTaken stance alternatives)
  | .zeroOrMore body => .zeroOrMore (body.taken stance)
  | .oneOrMore body => .oneOrMore (body.taken stance)
  | .optional body => .optional (body.taken stance)
  | .followedBy body => .followedBy (body.taken stance)
  | .notFollowedBy body => .notFollowedBy (body.taken stance)
  | .labeled label body => .labeled label (body.taken stance)
  | .reference name => .reference name
  | .action body run => .action (body.taken stance) (Code.taken stance .nil run)
  | .require test => .require (Code.taken stance true test)
  | .forbid test => .forbid (Code.taken stance false test)

def allTaken (stance : Stance) : List (Expr α σ) → List (Expr α σ)
  | [] => []
  | expr :: exprs => expr.taken stance :: allTaken stance exprs

end

variable (stance : Stance)

@[simp]
theorem kindName_taken (expr : Expr α σ) :
    (expr.taken stance).kindName = expr.kindName := by
  cases expr <;> simp only [taken, kindName]

mutual

@[simp]
theorem references_taken (expr : Expr α σ) :
    (expr.taken stance).references = expr.references := by
  cases expr with
  | sequence members | choice members =>
      simp only [taken, references, references_allTaken members]
  | zeroOrMore body | oneOrMore body | optional body | followedBy body
  | notFollowedBy body | labeled label body | action body run =>
      simp only [taken, references, references_taken body]
  | literal | oneOf | any | reference | require | forbid =>
      simp only [taken, references]

theorem references_allTaken (exprs : List (Expr α σ)) :
    referencesOfAll (allTaken stance exprs) = referencesOfAll exprs := by
  cases exprs with
  | nil => rfl
  | cons expr exprs =>
      simp only [allTaken, referencesOfAll, references_taken expr,
        references_allTaken exprs]

end

mutual

@[simp]
theorem usesScope_taken (expr : Expr α σ) :
    (expr.taken stance).usesScope = expr.usesScope := by
  cases expr with
  | sequence members =>
      simp only [taken, usesScope, anyUsesScope_allTaken members]
  | _ => simp only [taken, usesScope]

theorem anyUsesScope_allTaken (exprs : List (Expr α σ)) :
    anyUsesScope (allTaken stance exprs) = anyUsesScope exprs := by
  cases exprs with
  | nil => rfl
  | cons expr exprs =>
      simp only [allTaken, anyUsesScope, usesScope_taken expr,
        anyUsesScope_allTaken exprs]

end

theorem allTaken_eq_map (exprs : List (Expr α σ)) :
    allTaken stance exprs = exprs.map (taken stance) := by
  induction exprs with
  | nil => rfl
  | cons expr exprs ih => simp only [allTaken, ih, List.map_cons]

theorem members_taken (expr : Expr α σ) :
    (expr.taken stance).members = expr.members.map (taken stance) := by
  cases expr <;>
    simp only [taken, members, allTaken_eq_map, List.map_cons, List.map_nil]

end Expr

namespace Rule

def taken (stance : Stance) (rule : Rule α σ) : Rule α σ :=
  { rule with body := rule.body.taken stance }

end Rule

namespace Grammar

def taken (stance : Stance) (grammar : Grammar α σ) : Grammar α σ :=
  ⟨grammar.rules.map (Rule.taken stance)⟩

variable (stance : Stance) (grammar : Grammar α σ)

theorem start?_taken :
    (grammar.taken stance).start? =
      grammar.start?.map (Rule.taken stance) := by
  simp [start?, taken]

theorem target?_taken (name : String) :
    (grammar.taken stance).target? name =
      (grammar.target? name).map (Prod.map (Rule.taken stance) id) := by
  simp only [target?, taken, List.zipIdx_map, ← List.map_reverse,
    List.find?_map]
  rfl

theorem declares_taken (name : String) :
    (grammar.taken stance).declares name = grammar.declares name := by
  simp only [declares, taken, List.any_map]
  rfl

theorem exprAt?_taken (place : ExprPlace) :
    (grammar.taken stance).exprAt? place =
      (grammar.exprAt? place).map (Expr.taken stance) := by
  obtain ⟨rule, path⟩ := place
  simp only [exprAt?]
  induction path with
  | nil =>
      simp only [exprAlong?, taken, List.getElem?_map, Option.map_map]
      rfl
  | cons index path ih =>
      simp only [exprAlong?, ih]
      cases grammar.exprAlong? rule path with
      | none => rfl
      | some expr => simp [Expr.members_taken]

/-- Validation does not look into the code of a grammar. -/
theorem error?_taken : (grammar.taken stance).error? = grammar.error? := by
  have sameReferences :
      (grammar.taken stance).references = grammar.references := by
    simp [references, taken, Rule.taken, List.flatMap_map]
  have sameErrors :
      (grammar.taken stance).referenceError? = grammar.referenceError? := by
    funext name
    simp only [referenceError?, declares_taken]
  have sameRules :
      (grammar.taken stance).rules.isEmpty = grammar.rules.isEmpty := by
    simp only [taken, List.isEmpty_map]
  simp only [error?, sameReferences, sameErrors, sameRules]

end Grammar

namespace Session

/-- The session in which a stance is taken on all complaints. -/
def taking (session : Session α σ) (stance : Stance) : Session α σ :=
  { session with grammar := session.grammar.taken stance }

end Session

namespace Diagnostics

/-- The diagnostics that are not of a kind. -/
def without (diagnostics : Diagnostics) (kind : ErrorKind) : Diagnostics :=
  ⟨diagnostics.toList.filter fun diagnostic => diagnostic.kind ≠ kind⟩

end Diagnostics

namespace ParseState

/-- A state in which a stance has been taken on the code of the rules that are
being evaluated, with diagnostics of its own. -/
def taken (stance : Stance) (diagnostics : Diagnostics)
    (state : ParseState α σ) : ParseState α σ :=
  { state with
    activeRules := state.activeRules.map (Rule.taken stance)
    diagnostics := diagnostics }

end ParseState

end PegEngine
