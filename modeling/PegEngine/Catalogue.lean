import PegEngine.Code
import PegEngine.Text.Numeral

/-!
# A catalogue of code

Grammars that are put together from a description take their actions and
predicates from this catalogue.  Its nodes are numbers, texts, and tagged
values; its code looks at the match, at the labels, and at the store, complains
or fails.
-/

namespace PegEngine

/-- A node of a grammar that takes its code from the catalogue. -/
inductive Payload where
  | int (number : Int)
  | text (string : String)
  | tagged (tag : String) (value : Value Payload)

namespace Payload

mutual

def same : Payload → Payload → Bool
  | .int first, .int second => first == second
  | .text first, .text second => first == second
  | .tagged firstTag first, .tagged secondTag second =>
    firstTag == secondTag && sameValue first second
  | _, _ => false

def sameValue : Value Payload → Value Payload → Bool
  | .nil, .nil => true
  | .text first, .text second => first == second
  | .list first, .list second => sameValues first second
  | .node first, .node second => same first second
  | _, _ => false

def sameValues : List (Value Payload) → List (Value Payload) → Bool
  | [], [] => true
  | first :: firsts, second :: seconds =>
    sameValue first second && sameValues firsts seconds
  | _, _ => false

end

end Payload

namespace Catalogue

/-- What code sees of a match. -/
abbrev Seen := MatchContext Payload

/-- The answer that is a text of the grammar's own type. -/
def answerText (string : String) : Reply (Value Payload) :=
  .answer (.node (.text string))

/-- The matched text, with a question mark in place of malformed text. -/
def shownText (seen : Seen) : String := seen.string?.getD "?"

def value : Action Payload := Code.pure fun seen => .answer seen.value

def text : Action Payload := Code.pure fun seen => .answer (.text seen.text)

def absent : Action Payload := Code.pure fun _ => .answer .nil

/-- The matched text as a node. -/
def string : Action Payload := Code.pure fun seen =>
  match seen.string? with
  | some string => answerText string
  | none => .complaint "invalid text"

def int : Action Payload := Code.pure fun seen =>
  match Numeral.read (seen.string?.getD "").toList with
  | .ok number => .answer (.node (.int number))
  | .error error => .complaint error.message

def label (name : String) : Action Payload := Code.pure fun seen =>
  .answer ((seen.label? name).getD .nil)

def labels : Action Payload := Code.pure fun seen =>
  answerText (",".intercalate seen.labelNames)

def position : Action Payload := Code.pure fun seen =>
  answerText seen.position.bracketed

def items : Action Payload := Code.pure fun seen =>
  match seen.value.list? with
  | some members => .answer (.node (.int members.length))
  | none => .complaint "not a list"

def tag (name : String) : Action Payload := Code.pure fun seen =>
  .answer (.node (.tagged name seen.value))

def complain {β : Type} (message : String) : Code Payload StoreValue β :=
  Code.pure fun _ => .complaint message

/-- Complain about the matched text. -/
def complainOfText (message : String) : Action Payload :=
  Code.pure fun seen => .complaint (message ++ shownText seen)

def fail {β : Type} (fault : Fault) : Code Payload StoreValue β :=
  Code.pure fun _ => .failure fault

/-- Add one to the number that is stored under a key (zero, if there is none),
and go on with the sum.  The code fails if the sum is out of range. -/
def increment {β : Type} (key : String) (next : Int → Seen → Reply β) :
    Code Payload StoreValue β := fun seen =>
  let sum := (seen.store.int? key).getD 0 + 1
  if fitsWord sum then
    (next sum seen, seen.store.set key (some (.int sum)))
  else (.failure (.message "attempt to add with overflow"), seen.store)

def count (key : String) : Action Payload :=
  increment key fun _ seen => .answer seen.value

/-- Append the matched text and its offset to the text under a key. -/
def append (key : String) : Action Payload := fun seen =>
  let extended := (seen.store.text? key).getD "" ++ shownText seen ++ "@" ++
    toString seen.position.offset ++ ";"
  (.answer seen.value, seen.store.set key (some (.text extended)))

/-- The answer that shows a stored value. -/
def answerStored : Option StoreValue → Reply (Value Payload)
  | some stored => answerText stored.written
  | none => .answer .nil

/-- Store a value under a key, or take it away, and show the value before. -/
def put (key : String) (stored : Option StoreValue) : Action Payload :=
  fun seen => (answerStored (seen.store.get? key), seen.store.set key stored)

/-- Show the value that is stored under a key. -/
def get (key : String) : Action Payload := Code.pure fun seen =>
  answerStored (seen.store.get? key)

def complainOfStored (key : String) : Action Payload := Code.pure fun seen =>
  match seen.store.get? key with
  | some stored => .complaint stored.written
  | none => .complaint "none"

def always (holds : Bool) : Predicate Payload :=
  Code.pure fun _ => .answer holds

def has (key : String) : Predicate Payload := Code.pure fun seen =>
  .answer (seen.store.contains key)

def flag (key : String) : Predicate Payload := Code.pure fun seen =>
  .answer ((seen.store.bool? key).getD false)

def hasLabel (name : String) : Predicate Payload := Code.pure fun seen =>
  .answer (seen.label? name).isSome

def labelIs (name expected : String) : Predicate Payload :=
  Code.pure fun seen =>
    .answer (((seen.label? name).bind Value.string?) == some expected)

/-- Count under a key, and test whether a limit has not been passed. -/
def countUpTo (key : String) (limit : Int) : Predicate Payload :=
  increment key fun sum _ => .answer (sum ≤ limit)

def column (expected : Int) : Predicate Payload := Code.pure fun seen =>
  .answer ((seen.position.column : Int) == expected)

def line (expected : Int) : Predicate Payload := Code.pure fun seen =>
  .answer ((seen.position.line : Int) == expected)

/-- Test whether there is nothing to see of a match. -/
def blank : Predicate Payload := Code.pure fun seen =>
  .answer (seen.text.isEmpty && seen.value.isNil)

end Catalogue

end PegEngine
