/-!
# Decoding code points

Inputs are byte strings which need not be well-formed UTF-8.  This file reads
the code point that starts at a byte offset: a well-formed sequence gives its
code point and its length, any other byte is replaced by U+FFFD and spans one
byte, and past the last byte there is nothing to read.  Repeating the step
cuts every byte string into code points, since each step before the end
consumes at least one byte.
-/

namespace PegEngine

/-- What stands at a byte offset: a code point (none at the end of the bytes),
the number of bytes that it spans, and whether those bytes were well formed. -/
structure Decoded where
  codePoint : Option Char
  width : Nat
  valid : Bool
deriving DecidableEq, Repr

namespace Decoded

/-- The code point that stands for a malformed byte. -/
def replacement : Char := '\uFFFD'

/-- Nothing is left to decode. -/
def ending : Decoded := ⟨none, 0, true⟩

/-- A malformed byte, decoded alone. -/
def malformed : Decoded := ⟨some replacement, 1, false⟩

/-- A well-formed code point. -/
def scalar (char : Char) : Decoded := ⟨some char, char.utf8Size, true⟩

/-- Decode the code point that starts at a byte offset. -/
def ofBytesAt (bytes : ByteArray) (offset : Nat) : Decoded :=
  if offset < bytes.size then
    match bytes.utf8DecodeChar? offset with
    | some char => scalar char
    | none => malformed
  else ending

/-- Decode the first code point of a byte string. -/
def ofBytes (bytes : ByteArray) : Decoded :=
  ofBytesAt bytes 0

theorem ofBytesAt_of_size_le {bytes : ByteArray} {offset : Nat}
    (atEnd : bytes.size ≤ offset) : ofBytesAt bytes offset = ending := by
  simp [ofBytesAt, Nat.not_lt.mpr atEnd]

/-- Before the end of the bytes, decoding always consumes something. -/
theorem width_ofBytesAt_pos {bytes : ByteArray} {offset : Nat}
    (beforeEnd : offset < bytes.size) : 0 < (ofBytesAt bytes offset).width := by
  rw [ofBytesAt, if_pos beforeEnd]
  split
  · exact Char.utf8Size_pos _
  · exact Nat.one_pos

/-- All code points from an offset on, closed by the empty reading at the end
of the bytes. -/
def allFrom (bytes : ByteArray) (offset : Nat) : List Decoded :=
  if beforeEnd : offset < bytes.size then
    have : 0 < (ofBytesAt bytes offset).width := width_ofBytesAt_pos beforeEnd
    ofBytesAt bytes offset ::
      allFrom bytes (offset + (ofBytesAt bytes offset).width)
  else [ending]
termination_by bytes.size - offset

/-- The whole byte string, code point by code point. -/
def all (bytes : ByteArray) : List Decoded :=
  allFrom bytes 0

end Decoded

end PegEngine
