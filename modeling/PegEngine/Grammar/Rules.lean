import PegEngine.Diagnostic
import PegEngine.Grammar.Expr

/-!
# Rules and grammars

A grammar is a list of named rules, the first of which is its entry.  A parse
reads a name as the last rule that bears it, whereas looking a name up in the
grammar gives the first such rule; both agree when no name is given twice.
Before a grammar runs it has to be valid: there is a rule, and every reference
has a name which some rule bears.
-/

namespace PegEngine

/-- A named expression, with the name under which diagnostics mention it (empty
for the rule's own name). -/
structure Rule (α : Type) (σ : Type := StoreValue) where
  name : String
  displayName : String
  body : Expr α σ

namespace Rule

def diagnosticName {α σ : Type} (rule : Rule α σ) : String :=
  if rule.displayName.isEmpty then rule.name else rule.displayName

end Rule

/-- An ordered list of rules. -/
structure Grammar (α : Type) (σ : Type := StoreValue) where
  rules : List (Rule α σ)

namespace Grammar

variable {α σ : Type}

/-- The rule at which parses start. -/
def start? (grammar : Grammar α σ) : Option (Rule α σ) :=
  grammar.rules.head?

def rule? (grammar : Grammar α σ) (name : String) : Option (Rule α σ) :=
  grammar.rules.find? fun rule => rule.name == name

/-- The rule that references to a name run, which is the last one of that name,
with its place in the grammar. -/
def target? (grammar : Grammar α σ) (name : String) : Option (Rule α σ × Nat) :=
  grammar.rules.zipIdx.reverse.find? fun entry => entry.1.name == name

def declares (grammar : Grammar α σ) (name : String) : Bool :=
  grammar.rules.any fun rule => rule.name == name

/-- The names to which the rules of a grammar refer, in the order of the rules
and from left to right in each. -/
def references (grammar : Grammar α σ) : List String :=
  grammar.rules.flatMap fun rule => rule.body.references

/-- What is wrong with a reference to a name. -/
def referenceError? (grammar : Grammar α σ) (name : String) :
    Option ParseError :=
  if name.isEmpty then some .missingRuleName
  else if grammar.declares name then none
  else some (.undefinedRule name)

/-- The first thing that is wrong with a grammar. -/
def error? (grammar : Grammar α σ) : Option ParseError :=
  if grammar.rules.isEmpty then some .noRule
  else grammar.references.findSome? grammar.referenceError?

end Grammar

end PegEngine
