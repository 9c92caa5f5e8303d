import PegEngine.Text.CodePoint

/-!
# Reading malformed text

A byte string is shown as text by putting one U+FFFD in place of each maximal
malformed part.  Such a part is the longest run of bytes that begins some
well-formed sequence, or a single byte when it begins none, so a sequence that
is cut short counts once and not once per byte.
-/

namespace PegEngine

namespace Replacement

/-- The closed ranges in which the bytes after a leading byte have to lie.  An
ASCII byte is complete by itself, and a byte that leads no sequence is
followed by nothing. -/
def tailRanges (lead : UInt8) : List (UInt8 × UInt8) :=
  if 0xC2 ≤ lead ∧ lead ≤ 0xDF then [(0x80, 0xBF)]
  else if lead = 0xE0 then [(0xA0, 0xBF), (0x80, 0xBF)]
  else if lead = 0xED then [(0x80, 0x9F), (0x80, 0xBF)]
  else if 0xE1 ≤ lead ∧ lead ≤ 0xEF then [(0x80, 0xBF), (0x80, 0xBF)]
  else if lead = 0xF0 then [(0x90, 0xBF), (0x80, 0xBF), (0x80, 0xBF)]
  else if 0xF1 ≤ lead ∧ lead ≤ 0xF3 then
    [(0x80, 0xBF), (0x80, 0xBF), (0x80, 0xBF)]
  else if lead = 0xF4 then [(0x80, 0x8F), (0x80, 0xBF), (0x80, 0xBF)]
  else []

/-- The number of bytes from an offset on that lie in their ranges, up to the
first one that does not. -/
def fittingTail (bytes : ByteArray) (offset : Nat) :
    List (UInt8 × UInt8) → Nat
  | [] => 0
  | (low, high) :: ranges =>
    match bytes[offset]? with
    | some byte =>
      if low ≤ byte ∧ byte ≤ high then fittingTail bytes (offset + 1) ranges + 1
      else 0
    | none => 0

/-- The length of the malformed part that starts at an offset. -/
def malformedWidth (bytes : ByteArray) (offset : Nat) : Nat :=
  match bytes[offset]? with
  | some lead => fittingTail bytes (offset + 1) (tailRanges lead) + 1
  | none => 1

theorem malformedWidth_pos (bytes : ByteArray) (offset : Nat) :
    0 < malformedWidth bytes offset := by
  unfold malformedWidth
  split <;> omega

/-- The code points shown for the bytes from an offset on. -/
def charsFrom (bytes : ByteArray) (offset : Nat) : List Char :=
  if _beforeEnd : offset < bytes.size then
    match bytes.utf8DecodeChar? offset with
    | some char =>
      have : 0 < char.utf8Size := Char.utf8Size_pos char
      char :: charsFrom bytes (offset + char.utf8Size)
    | none =>
      have : 0 < malformedWidth bytes offset := malformedWidth_pos bytes offset
      Decoded.replacement ::
        charsFrom bytes (offset + malformedWidth bytes offset)
  else []
termination_by bytes.size - offset

/-- The text shown for a byte string. -/
def text (bytes : ByteArray) : String :=
  String.ofList (charsFrom bytes 0)

end Replacement

end PegEngine
