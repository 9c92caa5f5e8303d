import PegEngine.Position
import PegEngine.Text.Listing

/-!
# Diagnostics

Everything that goes wrong in a parse is reported as an error with the place to
which it applies.  Reports are kept in the order in which they arise, and two
reports that read the same are one.
-/

namespace PegEngine

/-- What can go wrong in a parse. -/
inductive ParseError where
  | noRule
  | undefinedRule (name : String)
  | missingRuleName
  | invalidEncoding
  | noMatch (expected : List String)
  | semantic (message : String)
  | maxExpressions
  | fault (report : String)
deriving DecidableEq, Repr

/-- The categories of errors. -/
inductive ErrorKind where
  | structural
  | encoding
  | syntactic
  | semantic
  | resourceExhausted
  | fault
deriving DecidableEq, Repr

namespace ErrorKind

def all : List ErrorKind :=
  [.structural, .encoding, .syntactic, .semantic, .resourceExhausted, .fault]

end ErrorKind

namespace ParseError

/-- The category of an error: the grammar is unusable, the input is malformed
or rejected, the code of the grammar complains or fails, or the parse has come
to its limit. -/
def kind : ParseError → ErrorKind
  | .noRule | .undefinedRule _ | .missingRuleName => .structural
  | .invalidEncoding => .encoding
  | .noMatch _ => .syntactic
  | .semantic _ => .semantic
  | .maxExpressions => .resourceExhausted
  | .fault _ => .fault

def message : ParseError → String
  | .noRule => "grammar has no rule"
  | .undefinedRule name => "undefined rule: " ++ name
  | .missingRuleName => "invalid rule: missing name"
  | .invalidEncoding => "invalid encoding"
  | .noMatch expected =>
    "no match found, expected: " ++ Listing.text ", " "or" expected
  | .semantic message => message
  | .maxExpressions => "max number of expressions parsed"
  | .fault report => report

end ParseError

/-- An error with the place to which it applies, and that place in writing. -/
structure Diagnostic where
  position : Position
  location : String
  error : ParseError
deriving DecidableEq, Repr

namespace Diagnostic

def kind (diagnostic : Diagnostic) : ErrorKind := diagnostic.error.kind

def message (diagnostic : Diagnostic) : String := diagnostic.error.message

def render (diagnostic : Diagnostic) : String :=
  diagnostic.location ++ ": " ++ diagnostic.message

end Diagnostic

/-- Diagnostics in the order in which they were first reported. -/
structure Diagnostics where
  toList : List Diagnostic
deriving DecidableEq, Repr

namespace Diagnostics

def empty : Diagnostics := ⟨[]⟩

def isEmpty (diagnostics : Diagnostics) : Bool := diagnostics.toList.isEmpty

/-- Add a diagnostic, unless one that reads the same is there. -/
def push (diagnostics : Diagnostics) (diagnostic : Diagnostic) : Diagnostics :=
  let rendered := diagnostic.render
  if diagnostics.toList.any fun earlier => earlier.render == rendered then
    diagnostics
  else ⟨diagnostics.toList ++ [diagnostic]⟩

def ofList (reports : List Diagnostic) : Diagnostics :=
  reports.foldl push empty

def hasKind (diagnostics : Diagnostics) (kind : ErrorKind) : Bool :=
  diagnostics.toList.any fun diagnostic => diagnostic.kind == kind

/-- The diagnostics in writing, one to a line. -/
def render (diagnostics : Diagnostics) : String :=
  "\n".intercalate (diagnostics.toList.map Diagnostic.render)

end Diagnostics

end PegEngine
