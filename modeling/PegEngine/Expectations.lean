import PegEngine.Position

/-!
# Farthest failures

Why an input was rejected is best told by what the grammar tried at the
farthest offset that it reached.  Each attempt of a matcher is recorded here,
and only the attempts at the farthest offset are kept.  Outside of negative
lookaheads it is the failures that matter; inside of one it is the successes,
and what was matched there is wanted negated.
-/

namespace PegEngine

/-- What the grammar wanted at the farthest offset, and whether an odd number of
negative lookaheads surrounds the current attempt. -/
structure Expectations where
  farthest : Position
  wanted : List String
  inverted : Bool
deriving DecidableEq, Repr

namespace Expectations

/-- The description of the matcher that takes any character. -/
def anyDescriptor : String := "."

/-- What is wanted when the input should have ended: no character at all. -/
def endDescriptor : String := "!."

/-- The name under which the end of the input is reported. -/
def endName : String := "EOF"

def empty : Expectations := ⟨⟨1, 1, 0⟩, [], false⟩

def toggle (expectations : Expectations) : Expectations :=
  { expectations with inverted := !expectations.inverted }

theorem toggle_toggle (expectations : Expectations) :
    expectations.toggle.toggle = expectations := by
  simp [toggle]

/-- What an attempt asks for, by the way in which attempts count at present. -/
def wish (expectations : Expectations) (descriptor : String) : String :=
  if expectations.inverted then "!" ++ descriptor else descriptor

/-- Record an attempt of a matcher. -/
def record (expectations : Expectations) (failed : Bool) (position : Position)
    (descriptor : String) : Expectations :=
  if failed = expectations.inverted then expectations
  else if position.offset < expectations.farthest.offset then expectations
  else if expectations.farthest.offset < position.offset then
    { expectations with
      farthest := position
      wanted := [expectations.wish descriptor] }
  else
    { expectations with
      wanted := expectations.wish descriptor :: expectations.wanted }

/-- Insert an item into a list in ascending order, unless it is there. -/
def insertSorted (item : String) : List String → List String
  | [] => [item]
  | first :: later =>
    if item < first then item :: first :: later
    else if item = first then first :: later
    else first :: insertSorted item later

/-- What was wanted at the farthest offset, in ascending order and without
repetitions; the end of the input comes last and under its name. -/
def expected (expectations : Expectations) : List String :=
  let sorted := expectations.wanted.foldr insertSorted []
  if endDescriptor ∈ sorted then
    sorted.filter (· ≠ endDescriptor) ++ [endName]
  else sorted

end Expectations

end PegEngine
