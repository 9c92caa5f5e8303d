import PegEngine.Position
import PegEngine.Value
import Std.Data.TreeMap

/-!
# Memoized results

The result of evaluating a node of the grammar at an offset can be kept and
replayed.  A node inside a negative lookahead reports its failures differently
from the same node outside of one, so results are kept apart by that too.  The
table has a shelf for each offset, with the results of the nodes that were
evaluated there.
-/

namespace PegEngine

/-- The place of an expression in a grammar: the rule to which it belongs, and
the way to it from the rule's body.  The way lists which member is taken at
each step, the last step first. -/
structure ExprPlace where
  rule : Nat
  path : List Nat
deriving DecidableEq, Repr

namespace ExprPlace

def body (rule : Nat) : ExprPlace := ⟨rule, []⟩

/-- The member of an expression with the given index. -/
def member (place : ExprPlace) (index : Nat) : ExprPlace :=
  ⟨place.rule, index :: place.path⟩

end ExprPlace

/-- A node of a grammar, which is a whole rule or an expression in one. -/
inductive NodeKey where
  | rule (index : Nat)
  | expression (place : ExprPlace)
deriving DecidableEq, Repr

/-- Where a result belongs: the offset, the node, and whether the node was
evaluated under an odd number of negative lookaheads. -/
structure MemoKey where
  offset : Nat
  node : NodeKey
  inverted : Bool
deriving DecidableEq, Repr

/-- A result: the value of the match, if there was one, and the cursor behind
it, or the cursor at which the node failed. -/
structure MemoEntry (α : Type) where
  value : Option (Value α)
  finish : Cursor

namespace MemoEntry

def matched {α : Type} (entry : MemoEntry α) : Bool := entry.value.isSome

end MemoEntry

/-- The results that were kept at one offset. -/
abbrev MemoShelf (α : Type) := List (MemoKey × MemoEntry α)

namespace MemoShelf

variable {α : Type}

/-- Put a result on a shelf, in place of an earlier one of the same key. -/
def store (key : MemoKey) (entry : MemoEntry α) : MemoShelf α → MemoShelf α
  | [] => [(key, entry)]
  | (other, kept) :: shelf =>
    if other = key then (key, entry) :: shelf
    else (other, kept) :: store key entry shelf

theorem lookup_store (shelf : MemoShelf α) (key other : MemoKey)
    (entry : MemoEntry α) :
    (store key entry shelf).lookup other =
      if other = key then some entry else shelf.lookup other := by
  induction shelf with
  | nil =>
      by_cases same : other = key
      · simp [store, same]
      · have differs : (other == key) = false := beq_eq_false_iff_ne.mpr same
        simp [store, List.lookup_cons, same, differs]
  | cons first shelf ih =>
      obtain ⟨firstKey, kept⟩ := first
      by_cases sameFirst : firstKey = key
      · subst firstKey
        by_cases same : other = key
        · simp [store, same]
        · have differs : (other == key) = false := beq_eq_false_iff_ne.mpr same
          simp [store, List.lookup_cons, same, differs]
      · by_cases same : other = firstKey
        · subst other
          simp [store, sameFirst]
        · have differs : (other == firstKey) = false :=
            beq_eq_false_iff_ne.mpr same
          simp [store, List.lookup_cons, sameFirst, differs, ih]

end MemoShelf

/-- The results that have been kept, by offset. -/
structure MemoTable (α : Type) where
  shelves : Std.TreeMap Nat (MemoShelf α)

namespace MemoTable

variable {α : Type}

def empty : MemoTable α := ⟨∅⟩

def shelf (table : MemoTable α) (offset : Nat) : MemoShelf α :=
  table.shelves.getD offset []

/-- The result of a node, if it was kept. -/
def lookup (table : MemoTable α) (key : MemoKey) : Option (MemoEntry α) :=
  (table.shelf key.offset).lookup key

def store (table : MemoTable α) (key : MemoKey) (entry : MemoEntry α) :
    MemoTable α :=
  ⟨table.shelves.insert key.offset
    (MemoShelf.store key entry (table.shelf key.offset))⟩

theorem lookup_empty (key : MemoKey) :
    (empty : MemoTable α).lookup key = none := by
  simp [empty, lookup, shelf]

/-- Keeping a result changes what is found under its key only. -/
theorem lookup_store (table : MemoTable α) (key other : MemoKey)
    (entry : MemoEntry α) :
    (table.store key entry).lookup other =
      if other = key then some entry else table.lookup other := by
  by_cases sameOffset : key.offset = other.offset
  · simp [store, lookup, shelf, sameOffset, MemoShelf.lookup_store]
  · have differs : other ≠ key := fun same => sameOffset (by rw [same])
    simp [store, lookup, shelf, Std.TreeMap.getD_insert, sameOffset, differs]

def size (table : MemoTable α) : Nat :=
  table.shelves.foldl (fun count _ shelf => count + shelf.length) 0

end MemoTable

end PegEngine
