/-!
# Maps on ranges of code points

A property of code points is constant on long stretches of them, so it is
stored as a balanced search tree of disjoint closed ranges, each with a value.
Looking up a code point follows one path of the tree.
-/

namespace PegEngine

/-- A closed range of code points that share a value. -/
structure CodeRange (β : Type) where
  first : Nat
  last : Nat
  value : β

/-- A search tree of disjoint ranges of code points, in ascending order. -/
inductive RangeMap (β : Type) where
  | empty
  | node (below : RangeMap β) (range : CodeRange β) (above : RangeMap β)

namespace RangeMap

/-- The range that holds a code point, if there is one. -/
def find? {β : Type} : RangeMap β → Nat → Option (CodeRange β)
  | .empty, _ => none
  | .node below range above, codePoint =>
    if codePoint < range.first then below.find? codePoint
    else if codePoint ≤ range.last then some range
    else above.find? codePoint

/-- Balance the first `count` of the given ranges into a tree, and hand back
the ranges after them.  The depth bounds the recursion; any depth of at least
`count` is enough. -/
def balance {β : Type} : (depth count : Nat) → List (CodeRange β) →
    RangeMap β × List (CodeRange β)
  | 0, _, ranges => (.empty, ranges)
  | _ + 1, 0, ranges => (.empty, ranges)
  | depth + 1, count + 1, ranges =>
    match balance depth (count / 2) ranges with
    | (below, []) => (below, [])
    | (below, range :: later) =>
      match balance depth (count - count / 2) later with
      | (above, rest) => (.node below range above, rest)

/-- The map of a list of disjoint ranges in ascending order. -/
def ofAscending {β : Type} (ranges : List (CodeRange β)) : RangeMap β :=
  (balance ranges.length ranges.length ranges).1

end RangeMap

/-- A set of code points, as a map whose ranges carry no further value. -/
abbrev CodeSet := RangeMap Unit

namespace CodeSet

/-- The set of the given disjoint ranges, which are in ascending order. -/
def ofAscending (ranges : List (Nat × Nat)) : CodeSet :=
  RangeMap.ofAscending
    (ranges.map fun (first, last) => ⟨first, last, ()⟩)

/-- Test whether a character belongs to the set. -/
def contains (codeSet : CodeSet) (char : Char) : Bool :=
  (codeSet.find? char.toNat).isSome

end CodeSet

end PegEngine
