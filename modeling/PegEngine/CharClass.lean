import PegEngine.Unicode.CaseShift
import PegEngine.Unicode.Category

/-!
# Character classes

A class matches one character out of a set, given by single characters, closed
ranges and named categories.  A class may ignore case, in which case its
characters and ranges are kept in lowercase and the character under test is
lowered too, and it may be inverted.  Unless it has a description of its own, a
class is described in brackets by its members in the order in which they were
added.
-/

namespace PegEngine

/-- A set of characters, as its members, its flags and the description that
replaces the generated one. -/
structure CharClass where
  chars : List Char
  ranges : List (Char × Char)
  categories : List UnicodeClass
  ignoresCase : Bool
  isInverted : Bool
  description : Option String
deriving DecidableEq

namespace CharClass

def empty : CharClass := ⟨[], [], [], false, false, none⟩

/-- A character as a class with the given flag keeps it. -/
def fold (ignoresCase : Bool) (char : Char) : Char :=
  if ignoresCase then Unicode.toLower char else char

/-- The two ends of a range as a class with the given flag keeps them. -/
def foldRange (ignoresCase : Bool) (range : Char × Char) : Char × Char :=
  (fold ignoresCase range.1, fold ignoresCase range.2)

/-- One step in building a class. -/
inductive Step where
  | chars (text : String)
  | range (first last : Char)
  | category (category : UnicodeClass)
  | inverted
  | ignoreCase
  | describedAs (description : String)

/-- Perform one building step.  Ignoring case also lowers the characters and
ranges that are already there. -/
def extend (charClass : CharClass) : Step → CharClass
  | .chars text =>
    { charClass with
      chars := charClass.chars ++
        text.toList.map (fold charClass.ignoresCase) }
  | .range first last =>
    { charClass with
      ranges := charClass.ranges ++
        [foldRange charClass.ignoresCase (first, last)] }
  | .category category =>
    { charClass with categories := charClass.categories ++ [category] }
  | .inverted => { charClass with isInverted := true }
  | .ignoreCase =>
    { charClass with
      ignoresCase := true
      chars := charClass.chars.map (fold true)
      ranges := charClass.ranges.map (foldRange true) }
  | .describedAs description =>
    { charClass with description := some description }

def ofSteps (steps : List Step) : CharClass :=
  steps.foldl extend empty

/-- Test whether a character is a member; inversion plays no part in it. -/
def contains (charClass : CharClass) (char : Char) : Bool :=
  let folded := fold charClass.ignoresCase char
  charClass.chars.contains folded ||
    charClass.ranges.any (fun range => range.1 ≤ folded && folded ≤ range.2) ||
    charClass.categories.any (fun category => category.contains folded)

/-- Test whether a class matches a character. -/
def accepts (charClass : CharClass) (char : Char) : Bool :=
  charClass.contains char != charClass.isInverted

/-- A member in brackets, with a backslash before what would be read as a part
of the notation. -/
def escaped (char : Char) : List Char :=
  if char = '\t' then ['\\', 't']
  else if char = '\r' then ['\\', 'r']
  else if char = '\n' then ['\\', 'n']
  else if char = '\\' ∨ char = ']' ∨ char = '-' ∨ char = '^' then ['\\', char]
  else [char]

def escapedRange (range : Char × Char) : List Char :=
  escaped range.1 ++ '-' :: escaped range.2

def generatedDescription (charClass : CharClass) : String :=
  String.ofList
    ('[' :: (if charClass.isInverted then ['^'] else []) ++
      charClass.chars.flatMap escaped ++
      charClass.ranges.flatMap escapedRange ++
      charClass.categories.flatMap
        (fun category => category.descriptor.toList) ++
      ']' :: (if charClass.ignoresCase then ['i'] else []))

/-- The description of a class. -/
def descriptor (charClass : CharClass) : String :=
  charClass.description.getD charClass.generatedDescription

end CharClass

end PegEngine
