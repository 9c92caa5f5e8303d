import PegEngine.Position
import PegEngine.Scopes
import PegEngine.Store

/-!
# The code of a grammar

Actions and predicates are functions from what they see of a match to a reply,
and to the store that the next of them will find.  A reply is an answer, a
complaint, or the failure of the code itself; a complaint is reported but does
not keep anything from matching.
-/

namespace PegEngine

/-- What failing code leaves behind: a message, or something that tells
nothing. -/
inductive Fault where
  | message (text : String)
  | other
deriving DecidableEq, Repr

namespace Fault

def report : Fault → String
  | .message text => text
  | .other => "panic in grammar code"

end Fault

/-- What code replies. -/
inductive Reply (β : Type) where
  | answer (result : β)
  | complaint (message : String)
  | failure (fault : Fault)

/-- What code sees: where the match starts, the bytes and the value of it, the
labels that are bound in its scope, and the store.  For a predicate, which
matches nothing, the bytes are empty and there is no value.  The labels are a
map, so code cannot tell in which order they have been bound. -/
structure MatchContext (α : Type) (σ : Type := StoreValue) where
  position : Position
  text : ByteArray
  value : Value α
  labels : LabelMap α
  store : Store σ

namespace MatchContext

variable {α σ : Type}

def label? (context : MatchContext α σ) (name : String) : Option (Value α) :=
  context.labels[name]?

/-- The names of the labels that are bound, in ascending order. -/
def labelNames (context : MatchContext α σ) : List String :=
  context.labels.keys

/-- The matched text, if it is well formed. -/
def string? (context : MatchContext α σ) : Option String :=
  String.fromUTF8? context.text

end MatchContext

/-- Code that gives results of a type. -/
abbrev Code (α σ β : Type) := MatchContext α σ → Reply β × Store σ

/-- Code that gives the value of a match. -/
abbrev Action (α : Type) (σ : Type := StoreValue) := Code α σ (Value α)

/-- Code that decides whether a match goes on. -/
abbrev Predicate (α : Type) (σ : Type := StoreValue) := Code α σ Bool

namespace Code

/-- Code that leaves the store as it is. -/
def pure {α σ β : Type} (reply : MatchContext α σ → Reply β) : Code α σ β :=
  fun context => (reply context, context.store)

end Code

end PegEngine
