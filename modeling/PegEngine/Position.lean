import PegEngine.Text.CodePoint
import PegEngine.Text.Quoted
import PegEngine.Text.Record

/-!
# Positions and cursors

A cursor stands on one code point of the input, or past the last one, and
knows its position in lines, columns and bytes.  Columns count code points from
one on; a line break opens the next line and stands at column zero of it.
Moving a cursor forward is the only way in which input is consumed, and going
back to an earlier cursor is the only way in which it is given back.
-/

namespace PegEngine

/-- A place in the input. -/
structure Position where
  line : Nat
  column : Nat
  offset : Nat
deriving DecidableEq, Repr

namespace Position

/-- The place before the first code point has been read. -/
def start : Position := ⟨1, 0, 0⟩

/-- The form of a position that opens a diagnostic. -/
def parenthesized (position : Position) : String :=
  toString position.line ++ ":" ++ toString position.column ++
    " (" ++ toString position.offset ++ ")"

/-- The form of a position in traces. -/
def bracketed (position : Position) : String :=
  toString position.line ++ ":" ++ toString position.column ++
    " [" ++ toString position.offset ++ "]"

/-- The position of a code point that starts at a later offset, when no other
code point lies between. -/
def next (position : Position) (codePoint : Option Char) (offset : Nat) :
    Position :=
  if codePoint = some '\n' then ⟨position.line + 1, 0, offset⟩
  else ⟨position.line, position.column + 1, offset⟩

def asRecord (position : Position) : String :=
  Record.named "Position"
    [("line", toString position.line), ("col", toString position.column),
      ("offset", toString position.offset)]

end Position

/-- A position in the input together with the code point that starts there and
its width in bytes; there is none at the end of the input. -/
structure Cursor where
  position : Position
  current : Option Char
  width : Nat
deriving DecidableEq, Repr

namespace Cursor

def start : Cursor := ⟨Position.start, none, 0⟩

def offset (cursor : Cursor) : Nat := cursor.position.offset

def atEnd (cursor : Cursor) : Bool := cursor.current.isNone

/-- The offset behind the current code point. -/
def nextOffset (cursor : Cursor) : Nat := cursor.offset + cursor.width

/-- What stands behind the current code point. -/
def upcoming (input : ByteArray) (cursor : Cursor) : Decoded :=
  Decoded.ofBytesAt input cursor.nextOffset

/-- Move past the current code point, onto the one behind it. -/
def advance (input : ByteArray) (cursor : Cursor) : Cursor :=
  let decoded := cursor.upcoming input
  ⟨cursor.position.next decoded.codePoint cursor.nextOffset,
    decoded.codePoint, decoded.width⟩

def currentText (cursor : Cursor) : String :=
  Record.option (cursor.current.map Quoted.char)

def asRecord (cursor : Cursor) : String :=
  Record.named "Cursor"
    [("pos", cursor.position.asRecord), ("current", cursor.currentText),
      ("width", toString cursor.width)]

end Cursor

end PegEngine
