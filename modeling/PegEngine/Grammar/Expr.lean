import PegEngine.CharClass
import PegEngine.Code

/-!
# Grammar expressions

An expression is a matcher for characters, or it combines expressions: in
sequence, by ordered choice, by repetition, as a lookahead, under a label, or
with code.  Expressions refer to each other through the names of rules.
-/

namespace PegEngine

/-- An expression of a grammar whose nodes have one given type, and whose code
stores values of another one. -/
inductive Expr (α : Type) (σ : Type := StoreValue) where
  | literal (text : String) (ignoresCase : Bool)
  | oneOf (charClass : CharClass)
  | any
  | sequence (members : List (Expr α σ))
  | choice (alternatives : List (Expr α σ))
  | zeroOrMore (body : Expr α σ)
  | oneOrMore (body : Expr α σ)
  | optional (body : Expr α σ)
  | followedBy (body : Expr α σ)
  | notFollowedBy (body : Expr α σ)
  | labeled (label : String) (body : Expr α σ)
  | reference (name : String)
  | action (body : Expr α σ) (run : Action α σ)
  | require (test : Predicate α σ)
  | forbid (test : Predicate α σ)

namespace Expr

variable {α σ : Type}

instance : Inhabited (Expr α σ) := ⟨.any⟩

/-- A literal that is matched character by character. -/
def exactly (text : String) : Expr α σ := .literal text false

/-- A literal that is matched without regard to case; it is kept in
lowercase. -/
def ignoringCase (text : String) : Expr α σ :=
  .literal (String.ofList (text.toList.map Unicode.toLower)) true

/-- The expression that matches at the end of the input only. -/
def ending : Expr α σ := .notFollowedBy .any

/-- The kind of an expression, as traces name it. -/
def kindName : Expr α σ → String
  | .literal _ _ => "LitMatcher"
  | .oneOf _ => "CharClassMatcher"
  | .any => "AnyMatcher"
  | .sequence _ => "SeqExpr"
  | .choice _ => "ChoiceExpr"
  | .zeroOrMore _ => "ZeroOrMoreExpr"
  | .oneOrMore _ => "OneOrMoreExpr"
  | .optional _ => "ZeroOrOneExpr"
  | .followedBy _ => "AndExpr"
  | .notFollowedBy _ => "NotExpr"
  | .labeled _ _ => "LabeledExpr"
  | .reference _ => "RuleRefExpr"
  | .action _ _ => "ActionExpr"
  | .require _ => "AndCodeExpr"
  | .forbid _ => "NotCodeExpr"

/-- The description of a literal: its text between quotes, marked if case is
ignored. -/
def literalDescriptor (text : String) (ignoresCase : Bool) : String :=
  Quoted.text text ++ (if ignoresCase then "i" else "")

mutual

/-- The names of the rules to which an expression refers, from left to right
and with repetitions. -/
def references : Expr α σ → List String
  | .literal _ _ | .oneOf _ | .any | .require _ | .forbid _ => []
  | .sequence members => referencesOfAll members
  | .choice alternatives => referencesOfAll alternatives
  | .zeroOrMore body | .oneOrMore body | .optional body | .followedBy body
  | .notFollowedBy body | .labeled _ body | .action body _ => body.references
  | .reference name => [name]

def referencesOfAll : List (Expr α σ) → List String
  | [] => []
  | expr :: exprs => expr.references ++ referencesOfAll exprs

end

mutual

/-- Test whether an expression reads or binds labels of the scope in which it
is evaluated.  Code reads them and labels bind them; the members of a sequence
share the scope of the sequence, and all other expressions evaluate their
members in scopes of their own. -/
def usesScope : Expr α σ → Bool
  | .labeled _ _ | .action _ _ | .require _ | .forbid _ => true
  | .sequence members => anyUsesScope members
  | _ => false

def anyUsesScope : List (Expr α σ) → Bool
  | [] => false
  | expr :: exprs => expr.usesScope || anyUsesScope exprs

end

end Expr

end PegEngine
