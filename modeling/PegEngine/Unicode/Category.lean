import PegEngine.Unicode.Alphabetic
import PegEngine.Unicode.LowercaseLetters
import PegEngine.Unicode.Numeric
import PegEngine.Unicode.UppercaseLetters
import PegEngine.Unicode.Whitespace

/-!
# Named categories of characters

A character class may refer to a category of characters by name.  There are
properties of the whole code space, two general categories, and the familiar
categories of ASCII.
-/

namespace PegEngine

/-- The categories that a character class can refer to. -/
inductive UnicodeClass where
  | alphabetic
  | alphanumeric
  | control
  | lowercase
  | numeric
  | uppercase
  | whitespace
  | decimalDigit
  | spaceSeparator
  | ascii
  | asciiAlphabetic
  | asciiAlphanumeric
  | asciiControl
  | asciiDigit
  | asciiGraphic
  | asciiHexDigit
  | asciiLowercase
  | asciiPunctuation
  | asciiUppercase
  | asciiWhitespace
deriving DecidableEq, Repr

namespace UnicodeClass

def all : List UnicodeClass :=
  [.alphabetic, .alphanumeric, .control, .lowercase, .numeric, .uppercase,
    .whitespace, .decimalDigit, .spaceSeparator, .ascii, .asciiAlphabetic,
    .asciiAlphanumeric, .asciiControl, .asciiDigit, .asciiGraphic,
    .asciiHexDigit, .asciiLowercase, .asciiPunctuation, .asciiUppercase,
    .asciiWhitespace]

def name : UnicodeClass → String
  | .alphabetic => "Alphabetic"
  | .alphanumeric => "Alphanumeric"
  | .control => "Control"
  | .lowercase => "Lowercase"
  | .numeric => "Numeric"
  | .uppercase => "Uppercase"
  | .whitespace => "Whitespace"
  | .decimalDigit => "DecimalDigit"
  | .spaceSeparator => "SpaceSeparator"
  | .ascii => "Ascii"
  | .asciiAlphabetic => "AsciiAlphabetic"
  | .asciiAlphanumeric => "AsciiAlphanumeric"
  | .asciiControl => "AsciiControl"
  | .asciiDigit => "AsciiDigit"
  | .asciiGraphic => "AsciiGraphic"
  | .asciiHexDigit => "AsciiHexDigit"
  | .asciiLowercase => "AsciiLowercase"
  | .asciiPunctuation => "AsciiPunctuation"
  | .asciiUppercase => "AsciiUppercase"
  | .asciiWhitespace => "AsciiWhitespace"

/-- The usual short names of general categories. -/
def aliases : List (String × UnicodeClass) :=
  [("L", .alphabetic), ("Ll", .lowercase), ("Lu", .uppercase),
    ("N", .numeric), ("Nd", .decimalDigit), ("Cc", .control),
    ("Zs", .spaceSeparator)]

/-- Find a category by its full name or by its short one. -/
def ofName? (name : String) : Option UnicodeClass :=
  match all.find? fun category => category.name == name with
  | some category => some category
  | none => aliases.lookup name

def index (category : UnicodeClass) : Nat :=
  all.idxOf category

/-- A reference to a category inside the brackets of a class. -/
def descriptor (category : UnicodeClass) : String :=
  "\\p\x7b" ++ category.name ++ "\x7d"

/-- The zeros of the runs of ten decimal digits, in ascending order. -/
def decimalZeros : List Nat :=
  [
    0x30, 0x660, 0x6F0, 0x7C0, 0x966, 0x9E6, 0xA66, 0xAE6, 0xB66, 0xBE6, 0xC66,
    0xCE6, 0xD66, 0xDE6, 0xE50, 0xED0, 0xF20, 0x1040, 0x1090, 0x17E0, 0x1810,
    0x1946, 0x19D0, 0x1A80, 0x1A90, 0x1B50, 0x1BB0, 0x1C40, 0x1C50, 0xA620,
    0xA8D0, 0xA900, 0xA9D0, 0xA9F0, 0xAA50, 0xABF0, 0xFF10, 0x104A0, 0x10D30,
    0x11066, 0x110F0, 0x11136, 0x111D0, 0x112F0, 0x11450, 0x114D0, 0x11650,
    0x116C0, 0x11730, 0x118E0, 0x11950, 0x11C50, 0x11D50, 0x11DA0, 0x11F50,
    0x16A60, 0x16AC0, 0x16B50, 0x1D7CE, 0x1D7D8, 0x1D7E2, 0x1D7EC, 0x1D7F6,
    0x1E140, 0x1E2F0, 0x1E4F0, 0x1E950, 0x1FBF0
  ]

/-- The runs of ten decimal digits, ready for lookups. -/
def decimalRuns : CodeSet :=
  CodeSet.ofAscending (decimalZeros.map fun first => (first, first + 9))

/-- The separators that are blanks within a line. -/
def spaceSeparators : CodeSet :=
  CodeSet.ofAscending
    [(0x20, 0x20), (0xA0, 0xA0), (0x1680, 0x1680), (0x2000, 0x200A),
      (0x202F, 0x202F), (0x205F, 0x205F), (0x3000, 0x3000)]

/-- Test whether a character lies between two others. -/
def between (low high char : Char) : Bool :=
  low ≤ char && char ≤ high

def contains : UnicodeClass → Char → Bool
  | .alphabetic, char => Unicode.alphabetic.contains char
  | .alphanumeric, char =>
    Unicode.alphabetic.contains char || Unicode.numeric.contains char
  | .control, char => between '\x00' '\x1F' char || between '\x7F' '\u009F' char
  | .lowercase, char => Unicode.lowercase.contains char
  | .numeric, char => Unicode.numeric.contains char
  | .uppercase, char => Unicode.uppercase.contains char
  | .whitespace, char => Unicode.whitespace.contains char
  | .decimalDigit, char =>
    Unicode.numeric.contains char && decimalRuns.contains char
  | .spaceSeparator, char => spaceSeparators.contains char
  | .ascii, char => between '\x00' '\x7F' char
  | .asciiAlphabetic, char => between 'a' 'z' char || between 'A' 'Z' char
  | .asciiAlphanumeric, char =>
    between 'a' 'z' char || between 'A' 'Z' char || between '0' '9' char
  | .asciiControl, char => between '\x00' '\x1F' char || char == '\x7F'
  | .asciiDigit, char => between '0' '9' char
  | .asciiGraphic, char => between '!' '~' char
  | .asciiHexDigit, char =>
    between '0' '9' char || between 'a' 'f' char || between 'A' 'F' char
  | .asciiLowercase, char => between 'a' 'z' char
  | .asciiPunctuation, char =>
    between '!' '/' char || between ':' '@' char || between '[' '\x60' char ||
      between '{' '~' char
  | .asciiUppercase, char => between 'A' 'Z' char
  | .asciiWhitespace, char =>
    char == ' ' || char == '\t' || char == '\n' || char == '\x0C' ||
      char == '\r'

/-- The maximal runs of members among the code points from `first` on, of which
`count` are left; a run that is under way started at `open?`. -/
def runsFrom (category : UnicodeClass) :
    (count first : Nat) → (open? : Option Nat) → List (Nat × Nat)
  | 0, first, some start => [(start, first - 1)]
  | 0, _, none => []
  | count + 1, first, open? =>
    let member :=
      if Nat.isValidChar first then category.contains (Char.ofNat first)
      else false
    match member, open? with
    | true, some start => runsFrom category count (first + 1) (some start)
    | true, none => runsFrom category count (first + 1) (some first)
    | false, some start =>
      (start, first - 1) :: runsFrom category count (first + 1) none
    | false, none => runsFrom category count (first + 1) none

/-- The maximal runs of members between two code points, both included. -/
def runs (category : UnicodeClass) (low high : Nat) : List (Nat × Nat) :=
  runsFrom category (high + 1 - low) low none

end UnicodeClass

end PegEngine
