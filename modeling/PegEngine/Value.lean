/-!
# Values of matches

A matcher yields the bytes that it consumed, a composite expression the list of
its members' values, and an action may put any value of the grammar's own type
in their place.  Lookaheads, predicates and optional parts that are missing
yield nothing.
-/

namespace PegEngine

/-- The value of a match, with nodes of the grammar's own type. -/
inductive Value (α : Type) where
  | nil
  | text (bytes : ByteArray)
  | list (members : List (Value α))
  | node (payload : α)

instance {α : Type} : Inhabited (Value α) := ⟨.nil⟩

namespace Value

variable {α : Type}

def isNil : Value α → Bool
  | .nil => true
  | _ => false

def bytes? : Value α → Option ByteArray
  | .text bytes => some bytes
  | _ => none

/-- The text of a well-formed text. -/
def string? (value : Value α) : Option String :=
  value.bytes?.bind String.fromUTF8?

def list? : Value α → Option (List (Value α))
  | .list members => some members
  | _ => none

def node? : Value α → Option α
  | .node payload => some payload
  | _ => none

end Value

end PegEngine
