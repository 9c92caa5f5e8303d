import PegEngine.Grammar.Rules
import PegEngine.Memo

/-!
# The expressions of a grammar

Every expression of a grammar has a place in it: the rule, and the way through
the members from the rule's body.  This file follows such ways
(`Grammar.exprAt?`) and shows that in a valid grammar every reference, wherever
it stands, leads to a rule (`Grammar.target?_of_valid`).
-/

namespace PegEngine

namespace Expr

variable {α σ : Type}

/-- The expressions of which an expression is made. -/
def members : Expr α σ → List (Expr α σ)
  | .literal _ _ | .oneOf _ | .any | .reference _ | .require _ | .forbid _ => []
  | .sequence members => members
  | .choice alternatives => alternatives
  | .zeroOrMore body | .oneOrMore body | .optional body | .followedBy body
  | .notFollowedBy body | .labeled _ body | .action body _ => [body]

/-- Test whether an expression may change the labels of the scope in which it is
evaluated. -/
def bindsLabels : Expr α σ → Bool
  | .sequence members => anyUsesScope members
  | .labeled _ _ | .action _ _ => true
  | _ => false

theorem sizeOf_lt_of_member {expr member : Expr α σ}
    (isMember : member ∈ expr.members) : sizeOf member < sizeOf expr := by
  cases expr with
  | sequence exprs =>
      have smaller := List.sizeOf_lt_of_mem isMember
      simp only [members, sequence.sizeOf_spec] at smaller ⊢
      omega
  | choice exprs =>
      have smaller := List.sizeOf_lt_of_mem isMember
      simp only [members, choice.sizeOf_spec] at smaller ⊢
      omega
  | zeroOrMore body | oneOrMore body | optional body | followedBy body
  | notFollowedBy body | labeled label body | action body run =>
      obtain rfl := List.mem_singleton.mp isMember
      decreasing_tactic
  | literal text ignoresCase | oneOf charClass | any | reference name
  | require test | forbid test =>
      cases isMember

/-- What holds of an expression whenever it holds of its members holds of every
expression. -/
theorem induction_members {property : Expr α σ → Prop}
    (step : ∀ expr : Expr α σ, (∀ member ∈ expr.members, property member) →
      property expr) (expr : Expr α σ) : property expr :=
  step expr fun member _ => induction_members step member
termination_by sizeOf expr
decreasing_by exact sizeOf_lt_of_member ‹_›

theorem mem_referencesOfAll {name : String} {exprs : List (Expr α σ)} :
    name ∈ referencesOfAll exprs ↔ ∃ expr ∈ exprs, name ∈ expr.references := by
  induction exprs with
  | nil => simp [referencesOfAll]
  | cons expr exprs ih => simp [referencesOfAll, ih]

theorem mem_references_of_member {name : String} {expr member : Expr α σ}
    (isMember : member ∈ expr.members) (refers : name ∈ member.references) :
    name ∈ expr.references := by
  cases expr with
  | sequence exprs => exact mem_referencesOfAll.mpr ⟨member, isMember, refers⟩
  | choice exprs => exact mem_referencesOfAll.mpr ⟨member, isMember, refers⟩
  | zeroOrMore body | oneOrMore body | optional body | followedBy body
  | notFollowedBy body | labeled label body | action body run =>
      obtain rfl := List.mem_singleton.mp isMember
      exact refers
  | literal text ignoresCase | oneOf charClass | any | reference name
  | require test | forbid test =>
      cases isMember

theorem anyUsesScope_eq_false {exprs : List (Expr α σ)} :
    anyUsesScope exprs = false ↔ ∀ expr ∈ exprs, expr.usesScope = false := by
  induction exprs with
  | nil => simp [anyUsesScope]
  | cons expr exprs ih => simp [anyUsesScope, ih]

/-- Only expressions that use the scope change its labels. -/
theorem bindsLabels_of_not_usesScope {expr : Expr α σ}
    (apart : expr.usesScope = false) : expr.bindsLabels = false := by
  cases expr <;> simp_all [usesScope, bindsLabels]

end Expr

namespace Grammar

variable {α σ : Type} {grammar : Grammar α σ}

/-- The expression at the end of a way into the body of a rule, the last step of
which is listed first. -/
def exprAlong? (grammar : Grammar α σ) (rule : Nat) :
    List Nat → Option (Expr α σ)
  | [] => grammar.rules[rule]?.map Rule.body
  | index :: path =>
    (grammar.exprAlong? rule path).bind fun expr => expr.members[index]?

/-- The expression at a place. -/
def exprAt? (grammar : Grammar α σ) (place : ExprPlace) : Option (Expr α σ) :=
  grammar.exprAlong? place.rule place.path

/-- The expression that a node evaluates; for a rule it is the body. -/
def nodeExpr? (grammar : Grammar α σ) : NodeKey → Option (Expr α σ)
  | .rule index => grammar.rules[index]?.map Rule.body
  | .expression place => grammar.exprAt? place

theorem exprAt?_body {rule : Rule α σ} {index : Nat}
    (found : grammar.rules[index]? = some rule) :
    grammar.exprAt? (.body index) = some rule.body := by
  simp [exprAt?, exprAlong?, ExprPlace.body, found]

theorem exprAt?_member {place : ExprPlace} {expr member : Expr α σ}
    {index : Nat} (found : grammar.exprAt? place = some expr)
    (isMember : expr.members[index]? = some member) :
    grammar.exprAt? (place.member index) = some member := by
  have along : grammar.exprAlong? place.rule place.path = some expr := found
  simp [exprAt?, exprAlong?, ExprPlace.member, along, isMember]

/-- Some expressions stand side by side as members of the expression at a place,
the first of them with a given index. -/
def Lists (grammar : Grammar α σ) (place : ExprPlace) (index : Nat)
    (exprs : List (Expr α σ)) : Prop :=
  ∀ (skipped : Nat) (expr : Expr α σ), exprs[skipped]? = some expr →
    grammar.exprAt? (place.member (index + skipped)) = some expr

theorem Lists.head {place : ExprPlace} {index : Nat} {expr : Expr α σ}
    {exprs : List (Expr α σ)}
    (lists : grammar.Lists place index (expr :: exprs)) :
    grammar.exprAt? (place.member index) = some expr :=
  lists 0 expr rfl

theorem Lists.tail {place : ExprPlace} {index : Nat} {expr : Expr α σ}
    {exprs : List (Expr α σ)}
    (lists : grammar.Lists place index (expr :: exprs)) :
    grammar.Lists place (index + 1) exprs := by
  intro skipped other isOther
  rw [Nat.add_right_comm]
  exact lists (skipped + 1) other isOther

theorem lists_members {place : ExprPlace} {expr : Expr α σ}
    (found : grammar.exprAt? place = some expr) :
    grammar.Lists place 0 expr.members := by
  intro skipped member isMember
  rw [Nat.zero_add]
  exact exprAt?_member found isMember

/-- The only member of an expression has index zero. -/
theorem exprAt?_onlyMember {place : ExprPlace} {expr body : Expr α σ}
    (found : grammar.exprAt? place = some expr)
    (isBody : expr.members = [body]) :
    grammar.exprAt? (place.member 0) = some body :=
  exprAt?_member found (by simp [isBody])

/-- What holds of the bodies of the rules, and of the members of whatever it
holds of, holds of every expression of a grammar. -/
theorem of_exprAt? {property : Expr α σ → Prop} {place : ExprPlace}
    {expr : Expr α σ} (bodies : ∀ rule ∈ grammar.rules, property rule.body)
    (members : ∀ {whole member : Expr α σ}, property whole →
      member ∈ whole.members → property member)
    (found : grammar.exprAt? place = some expr) : property expr := by
  obtain ⟨rule, path⟩ := place
  induction path generalizing expr with
  | nil =>
      obtain ⟨entry, present, rfl⟩ := Option.map_eq_some_iff.mp found
      exact bodies entry (List.mem_of_getElem? present)
  | cons index path ih =>
      obtain ⟨whole, present, isMember⟩ := Option.bind_eq_some_iff.mp found
      exact members (ih present) (List.mem_of_getElem? isMember)

/-- Every place belongs to a rule. -/
theorem exprAt?_rule {place : ExprPlace} {expr : Expr α σ}
    (found : grammar.exprAt? place = some expr) :
    ∃ rule, grammar.rules[place.rule]? = some rule := by
  obtain ⟨rule, path⟩ := place
  induction path generalizing expr with
  | nil =>
      obtain ⟨entry, present, _⟩ := Option.map_eq_some_iff.mp found
      exact ⟨entry, present⟩
  | cons index path ih =>
      obtain ⟨whole, present, _⟩ := Option.bind_eq_some_iff.mp found
      exact ih present

/-- Whatever an expression of a grammar refers to, the grammar refers to. -/
theorem mem_references_of_exprAt? {place : ExprPlace} {expr : Expr α σ}
    {name : String} (found : grammar.exprAt? place = some expr)
    (refers : name ∈ expr.references) : name ∈ grammar.references := by
  obtain ⟨rule, path⟩ := place
  induction path generalizing expr with
  | nil =>
      obtain ⟨entry, present, rfl⟩ := Option.map_eq_some_iff.mp found
      exact List.mem_flatMap.mpr
        ⟨entry, List.mem_of_getElem? present, refers⟩
  | cons index path ih =>
      obtain ⟨whole, present, isMember⟩ := Option.bind_eq_some_iff.mp found
      exact ih
        (Expr.mem_references_of_member (List.mem_of_getElem? isMember) refers)
        present

theorem rule_of_target? {name : String} {rule : Rule α σ} {index : Nat}
    (target : grammar.target? name = some (rule, index)) :
    grammar.rules[index]? = some rule := by
  have isEntry := List.mem_of_find?_eq_some target
  rw [List.mem_reverse] at isEntry
  simpa using List.mem_zipIdx_iff_getElem?.mp isEntry

theorem target?_isSome_of_declares {name : String}
    (declared : grammar.declares name = true) :
    (grammar.target? name).isSome := by
  obtain ⟨rule, isRule, named⟩ := List.any_eq_true.mp declared
  obtain ⟨index, present⟩ := List.mem_iff_getElem?.mp isRule
  refine List.find?_isSome.mpr ⟨(rule, index), ?_, named⟩
  rw [List.mem_reverse]
  exact List.mem_zipIdx_iff_getElem?.mpr present

/-- In a valid grammar every reference has a name, and there is a rule that it
runs. -/
theorem target?_of_valid (valid : grammar.error? = none) {place : ExprPlace}
    {name : String} (found : grammar.exprAt? place = some (.reference name)) :
    name.isEmpty = false ∧
      ∃ rule index, grammar.target? name = some (rule, index) := by
  have isReference : name ∈ grammar.references :=
    mem_references_of_exprAt? found (by simp [Expr.references])
  have accepted : grammar.referenceError? name = none := by
    unfold error? at valid
    split at valid
    · cases valid
    · exact List.findSome?_eq_none_iff.mp valid name isReference
  unfold referenceError? at accepted
  split at accepted
  · cases accepted
  · rename_i named
    split at accepted
    · rename_i declared
      obtain ⟨⟨rule, index⟩, target⟩ :=
        Option.isSome_iff_exists.mp (target?_isSome_of_declares declared)
      exact ⟨by simpa using named, rule, index, target⟩
    · cases accepted

end Grammar

end PegEngine
