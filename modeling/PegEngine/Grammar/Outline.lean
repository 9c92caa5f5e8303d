import PegEngine.Grammar.Rules

/-!
# Grammars as records

For debugging, a rule is written out as nested records that show every part of
it except code.
-/

namespace PegEngine

namespace CharClass

def asRecord (charClass : CharClass) : String :=
  Record.named "CharClass"
    [("chars", Record.list (charClass.chars.map Quoted.char)),
      ("ranges", Record.list
        (charClass.ranges.map fun range =>
          Record.unnamed "" [Quoted.char range.1, Quoted.char range.2])),
      ("classes", Record.list (charClass.categories.map UnicodeClass.name)),
      ("ignore_case", Record.bool charClass.ignoresCase),
      ("inverted", Record.bool charClass.isInverted),
      ("display", Quoted.text charClass.descriptor),
      ("custom_display", Record.bool charClass.description.isSome)]

end CharClass

namespace Expr

variable {α σ : Type}

mutual

def asRecord : Expr α σ → String
  | .literal text ignoresCase =>
    Record.named "Literal"
      [("text", Quoted.text text), ("ignore_case", Record.bool ignoresCase)]
  | .oneOf charClass => Record.unnamed "CharClass" [charClass.asRecord]
  | .any => "Any"
  | .sequence members =>
    Record.unnamed "Sequence" [Record.list (recordsOfAll members)]
  | .choice alternatives =>
    Record.unnamed "Choice" [Record.list (recordsOfAll alternatives)]
  | .zeroOrMore body => Record.unnamed "ZeroOrMore" [body.asRecord]
  | .oneOrMore body => Record.unnamed "OneOrMore" [body.asRecord]
  | .optional body => Record.unnamed "ZeroOrOne" [body.asRecord]
  | .followedBy body => Record.unnamed "And" [body.asRecord]
  | .notFollowedBy body => Record.unnamed "Not" [body.asRecord]
  | .labeled label body =>
    Record.named "Labeled"
      [("label", Quoted.text label), ("expr", body.asRecord)]
  | .reference name => Record.unnamed "RuleRef" [Quoted.text name]
  | .action body _ =>
    Record.named "Action" [("expr", body.asRecord), ("run", "Action(..)")]
  | .require _ => Record.unnamed "AndCode" ["Predicate(..)"]
  | .forbid _ => Record.unnamed "NotCode" ["Predicate(..)"]

def recordsOfAll : List (Expr α σ) → List String
  | [] => []
  | expr :: exprs => expr.asRecord :: recordsOfAll exprs

end

end Expr

namespace Rule

def asRecord {α σ : Type} (rule : Rule α σ) : String :=
  Record.named "Rule"
    [("name", Quoted.text rule.name),
      ("display_name", Quoted.text rule.displayName),
      ("expr", rule.body.asRecord)]

end Rule

end PegEngine
