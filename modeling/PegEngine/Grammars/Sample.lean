import PegEngine.Evaluation.Parse

/-!
# Samples of chat

A grammar that cuts a chat message into identifiers and keywords.  A keyword is
an identifier between braces, next to which there may be spacing; spacing
separates tokens and is dropped.  A run of punctuation is an identifier too.
-/

namespace PegEngine

/-- A token of a sample: its text, and whether it stands between braces. -/
structure Token where
  isKeyword : Bool
  text : String
deriving DecidableEq, Repr

namespace Sample

def nodesOnly (values : List (Value Token)) : List (Value Token) :=
  values.filter fun value => value.node?.isSome

/-- Keep the tokens of a sample, and complain if there was nothing at all. -/
def onSample : Action Token := Code.pure fun context =>
  match ((context.label? "vs").bind Value.list?).getD [] with
  | [] => .complaint "empty sample"
  | values => .answer (.list (nodesOnly values))

/-- Make a keyword of the identifier between braces. -/
def onKeyword : Action Token := Code.pure fun context =>
  match (context.label? "v").bind Value.node? with
  | some token => .answer (.node ⟨true, token.text⟩)
  | none => .complaint "keyword without identifier"

/-- Make an identifier of the matched text. -/
def onText : Action Token := Code.pure fun context =>
  .answer (.node ⟨false, Replacement.text context.text⟩)

/-- Spacing of any length but none. -/
def spacing : Expr Token := .oneOrMore (.reference "Spacing")

/-- The identifier that a keyword takes its text from. -/
def identifier : Expr Token := .labeled "v" (.reference "Identifier")

/-- One way of writing a keyword. -/
def keyword (between : List (Expr Token)) : Expr Token :=
  .action
    (.sequence (.exactly "\x7b" :: between ++ [.exactly "\x7d"]))
    onKeyword

/-- The characters that are no punctuation. -/
def wordClass : CharClass :=
  .ofSteps
    [.chars "\x7b\x7d ", .range 'a' 'z', .range 'A' 'Z', .range '0' '9',
      .inverted, .describedAs "[^a-zA-Z0-9\x7b\x7d ]"]

/-- The characters that end an identifier. -/
def tokenClass : CharClass :=
  .ofSteps [.chars "\x7b\x7d \t\r\n", .inverted]

def grammar : Grammar Token :=
  ⟨[⟨"Sample", "\"sample\"",
      .action
        (.labeled "vs"
          (.zeroOrMore
            (.choice
              [.reference "Identifier", .reference "Keyword",
                .reference "Spacing"])))
        onSample⟩,
    ⟨"Keyword", "\"keyword\"",
      .choice
        [keyword [spacing, identifier],
          keyword [identifier, spacing],
          keyword [spacing, identifier, spacing],
          keyword [identifier]]⟩,
    ⟨"Punct", "\"punct\"",
      .action (.oneOrMore (.oneOf wordClass)) onText⟩,
    ⟨"Identifier", "\"identifier\"",
      .choice
        [.reference "Punct", .action (.oneOrMore (.oneOf tokenClass)) onText]⟩,
    ⟨"Spacing", "\"spacing\"",
      .choice [.oneOrMore (.reference "Space"), .oneOrMore (.reference "_")]⟩,
    ⟨"Space", "\"Space\"", .exactly " "⟩,
    ⟨"_", "\"whitespace\"", .oneOf (.ofSteps [.chars "\t\r\n"])⟩]⟩

/-- The name under which a sample is reported. -/
def name (number : Nat) : String := "sample#" ++ toString number

/-- Diagnostics that mention the name of a sample only. -/
def renamed (name : String) (diagnostics : Diagnostics) : Diagnostics :=
  .ofList
    (diagnostics.toList.map fun diagnostic =>
      { diagnostic with location := name })

/-- The tokens of a parsed sample, or its diagnostics. -/
def tokensOf (name : String) (parsed : Parsed Token) :
    Except Diagnostics (List Token) :=
  if parsed.diagnostics.isEmpty then
    .ok (((parsed.value.bind Value.list?).getD []).filterMap Value.node?)
  else .error (renamed name parsed.diagnostics)

/-- The tokens of a sample, or its diagnostics.  There is nothing if the parse
has no report; the code of this grammar never fails. -/
def tokens? (number : Nat) (input : ByteArray) (settings : List Setting) :
    Option (Except Diagnostics (List Token)) := do
  let report ←
    (Session.ofSettings grammar (name number) input settings).parse
  match report.outcome with
  | .parsed parsed => some (tokensOf (name number) parsed)
  | .escaped _ => none

end Sample

end PegEngine
