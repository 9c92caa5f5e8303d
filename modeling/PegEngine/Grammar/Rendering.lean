import PegEngine.Grammar.Rules

/-!
# Grammars in writing

A grammar is written with one rule to a line, in the usual way of writing
parsing expressions.  Expressions are grouped by parentheses where their parts
would otherwise be read differently, and code is not shown.
-/

namespace PegEngine

namespace Expr

variable {α σ : Type}

/-- The place of code, which is not shown. -/
def hiddenCode : String := "\x7b … \x7d"

def parenthesized (text : String) : String := "(" ++ text ++ ")"

/-- The writing of an expression as one term, given its plain writing. -/
def asTerm (expr : Expr α σ) (written : String) : String :=
  match expr with
  | .sequence _ | .choice _ | .labeled _ _ | .action _ _ =>
    parenthesized written
  | _ => written

/-- The writing of an expression as a member of a sequence, given its plain
writing. -/
def asMember (expr : Expr α σ) (written : String) : String :=
  match expr with
  | .choice _ | .action _ _ => parenthesized written
  | _ => written

mutual

/-- An expression in writing. -/
def render : Expr α σ → String
  | .literal text ignoresCase => literalDescriptor text ignoresCase
  | .oneOf charClass => charClass.descriptor
  | .any => "."
  | .sequence members => " ".intercalate (renderMembers members)
  | .choice alternatives => " / ".intercalate (renderAlternatives alternatives)
  | .zeroOrMore body => body.asTerm body.render ++ "*"
  | .oneOrMore body => body.asTerm body.render ++ "+"
  | .optional body => body.asTerm body.render ++ "?"
  | .followedBy body => "&" ++ body.asTerm body.render
  | .notFollowedBy body => "!" ++ body.asTerm body.render
  | .labeled label body => label ++ ":" ++ body.asTerm body.render
  | .reference name => name
  | .action body _ => body.render ++ " " ++ hiddenCode
  | .require _ => "&" ++ hiddenCode
  | .forbid _ => "!" ++ hiddenCode

def renderMembers : List (Expr α σ) → List String
  | [] => []
  | expr :: exprs => expr.asMember expr.render :: renderMembers exprs

def renderAlternatives : List (Expr α σ) → List String
  | [] => []
  | expr :: exprs => expr.render :: renderAlternatives exprs

end

end Expr

namespace Rule

/-- A rule in writing: its names, and its body. -/
def render {α σ : Type} (rule : Rule α σ) : String :=
  if rule.displayName.isEmpty then rule.name ++ " = " ++ rule.body.render
  else rule.name ++ " " ++ rule.displayName ++ " = " ++ rule.body.render

end Rule

namespace Grammar

def render {α σ : Type} (grammar : Grammar α σ) : String :=
  "\n".intercalate (grammar.rules.map Rule.render)

end Grammar

end PegEngine
