import PegEngine.Grammar.Rules
import PegEngine.Text.Numeral

/-!
# Arithmetic expressions

A grammar for sums and products of whole numbers, which evaluates what it
parses.  Operations are carried out from left to right, and division drops the
remainder.  Dividing by zero and numerals out of range are complaints; a result
that does not fit into a word is a failure of the code, as it is in a default
build, which checks integer arithmetic for overflow.
-/

namespace PegEngine

namespace Arithmetic

/-- The failure of an operation whose result is out of range. -/
def overflow (operation : String) : Fault :=
  .message ("attempt to " ++ operation ++ " with overflow")

/-- A result, provided that it is in range.  This is integer arithmetic with
overflow checks, which is what the default build does; a build without them
would wrap sums, differences and products around instead. -/
def checked (operation : String) (result : Int) : Reply Int :=
  if fitsWord result then .answer result
  else .failure (overflow operation)

/-- Carry out one operation. -/
def operate (left : Int) (operator : Option String) (right : Int) : Reply Int :=
  match operator with
  | some "+" => checked "add" (left + right)
  | some "-" => checked "subtract" (left - right)
  | some "*" => checked "multiply" (left * right)
  | some "/" =>
    if right = 0 then .complaint "division by zero"
    else checked "divide" (left.tdiv right)
  | _ => .complaint "unknown operator"

/-- The number that a value stands for; other values count as zero. -/
def number (value : Value Int) : Int := value.node?.getD 0

/-- Carry out operations from left to right, each given as its operator and its
right operand. -/
def operateAll (left : Int) : List (Value Int) → Reply (Value Int)
  | [] => .answer (.node left)
  | .list [operator, right] :: later =>
    match operate left operator.string? (number right) with
    | .answer result => operateAll result later
    | .complaint message => .complaint message
    | .failure fault => .failure fault
  | _ :: _ => .complaint "malformed operation"

/-- Evaluate a first operand and the operations on it. -/
def evaluate : Action Int := Code.pure fun context =>
  operateAll (number ((context.label? "head").getD .nil))
    (((context.label? "tail").bind Value.list?).getD [])

def readNumber : Action Int := Code.pure fun context =>
  match Numeral.read (context.string?.getD "").toList with
  | .ok number => .answer (.node number)
  | .error error => .complaint error.message

/-- The value of a sum that stands inside something else. -/
def innerSum : Action Int := Code.pure fun context =>
  .answer ((context.label? "sum").getD .nil)

/-- Operands that are joined by one of the given operators. -/
def joined (operand operators : String) : Expr Int :=
  .action
    (.sequence
      [.labeled "head" (.reference operand),
        .labeled "tail"
          (.zeroOrMore
            (.sequence
              [.oneOf (.ofSteps [.chars operators]), .reference operand]))])
    evaluate

def grammar : Grammar Int :=
  ⟨[⟨"Expr", "",
      .action
        (.sequence [.labeled "sum" (.reference "Sum"), .ending])
        innerSum⟩,
    ⟨"Sum", "", joined "Product" "+-"⟩,
    ⟨"Product", "", joined "Term" "*/"⟩,
    ⟨"Term", "",
      .choice
        [.action
          (.sequence
            [.exactly "(", .labeled "sum" (.reference "Sum"), .exactly ")"])
          innerSum,
          .reference "Number"]⟩,
    ⟨"Number", "\"number\"",
      .action (.oneOrMore (.oneOf (.ofSteps [.range '0' '9']))) readNumber⟩]⟩

/-- The grammar is valid. -/
theorem error?_grammar : grammar.error? = none := by
  decide

end Arithmetic

end PegEngine
