import PegEngine.Proofs.Decoding
import Mathlib.Algebra.GroupWithZero.Nat
import Mathlib.Data.Nat.Find

/-!
# Decoding what was encoded

A code point is decoded from the first bytes of a byte string, whatever comes
behind them.  It makes no difference if only a window of four bytes is looked
at, though that may cut a later code point: what counts is how far the window is
well formed (`Decoded.throughWindow_eq`).  Decoding again and again what is left
comes to an end, gives back the characters that were encoded, passes over every
byte, and meets nothing malformed exactly if the bytes are valid UTF-8
(`Decoded.decoding_round_trips`).
-/

namespace PegEngine

namespace Decoded

/-- The length of the longest beginning of a byte string that is well formed. -/
def wellFormedLength (bytes : ByteArray) : Nat :=
  Nat.findGreatest (fun length => (bytes.extract 0 length).IsValidUTF8)
    bytes.size

/-- Decode the first code point from what is well formed of the first four
bytes, since no code point spans more. -/
def throughWindow (bytes : ByteArray) : Decoded :=
  if bytes.isEmpty then ending
  else
    let window := bytes.extract 0 4
    match (window.extract 0 (wellFormedLength window)).utf8DecodeChar? 0 with
    | some char => scalar char
    | none => malformed

/-- Decoding what is left of a byte string, again and again, down to the empty
one. -/
inductive Repeats : ByteArray → List Decoded → Prop
  | done {bytes : ByteArray} (empty : bytes.size = 0) :
      Repeats bytes [ofBytes bytes]
  | step {bytes : ByteArray} {later : List Decoded}
      (nonempty : 0 < bytes.size)
      (rest : Repeats (bytes.extract (ofBytes bytes).width bytes.size) later) :
      Repeats bytes (ofBytes bytes :: later)

section Window

variable {bytes : ByteArray} {char : Char}

/-- A code point is found at the start of the bytes that begin with its
encoding, and of no others. -/
theorem utf8DecodeChar?_eq_some_iff :
    bytes.utf8DecodeChar? 0 = some char ↔
      ∃ rest, bytes = [char].utf8Encode ++ rest := by
  constructor
  · intro found
    rw [List.utf8Encode_singleton]
    exact ByteArray.exists_of_utf8DecodeChar?_eq_some found
  · rintro ⟨rest, rfl⟩
    exact List.utf8DecodeChar?_utf8Encode_singleton_append

/-- What is found at the start of a part that begins there is found at the start
of the whole. -/
theorem utf8DecodeChar?_of_extract {length : Nat}
    (found : (bytes.extract 0 length).utf8DecodeChar? 0 = some char) :
    bytes.utf8DecodeChar? 0 = some char := by
  rcases Nat.le_total length bytes.size with atMost | beyond
  · have whole := ByteArray.utf8DecodeChar?_append_eq_some found
      (bytes.extract length bytes.size)
    rwa [← ByteArray.extract_eq_extract_append_extract length (Nat.zero_le _)
      atMost, ByteArray.extract_zero_size] at whole
  · rwa [← Nat.max_eq_left beyond, ByteArray.extract_zero_max_size] at found

/-- A part that begins at the start shows the same first code point if it is
long enough. -/
theorem utf8DecodeChar?_extract {length : Nat}
    (found : bytes.utf8DecodeChar? 0 = some char)
    (longEnough : char.utf8Size ≤ length) :
    (bytes.extract 0 length).utf8DecodeChar? 0 = some char := by
  obtain ⟨rest, rfl⟩ := utf8DecodeChar?_eq_some_iff.mp found
  refine utf8DecodeChar?_eq_some_iff.mpr
    ⟨rest.extract 0 (length - [char].utf8Encode.size), ?_⟩
  have whole : [char].utf8Encode.extract 0 length = [char].utf8Encode := by
    rw [← Nat.max_eq_left (size_utf8Encode_singleton char ▸ longEnough :
      [char].utf8Encode.size ≤ length), ByteArray.extract_zero_max_size]
  rw [ByteArray.extract_append, whole, Nat.zero_sub]

/-- A code point at the start is a part of what is well formed. -/
theorem utf8Size_le_wellFormedLength
    (found : bytes.utf8DecodeChar? 0 = some char) :
    char.utf8Size ≤ wellFormedLength bytes := by
  have atMost := ByteArray.le_size_of_utf8DecodeChar?_eq_some found
  rw [Nat.zero_add] at atMost
  refine Nat.le_findGreatest atMost ?_
  rw [← String.toByteArray_utf8EncodeChar_of_utf8DecodeChar?_eq_some found]
  exact Char.isValidUTF8_toByteArray_utf8EncodeChar

/-- The window of four bytes suffices. -/
theorem throughWindow_eq (bytes : ByteArray) :
    throughWindow bytes = ofBytes bytes := by
  have window : ((bytes.extract 0 4).extract 0
      (wellFormedLength (bytes.extract 0 4))).utf8DecodeChar? 0 =
        bytes.utf8DecodeChar? 0 := by
    ext char
    constructor
    · exact fun found =>
        utf8DecodeChar?_of_extract (utf8DecodeChar?_of_extract found)
    · intro found
      have inWindow :=
        utf8DecodeChar?_extract found (Char.utf8Size_le_four char)
      exact utf8DecodeChar?_extract inWindow
        (utf8Size_le_wellFormedLength inWindow)
  unfold throughWindow ofBytes ofBytesAt
  by_cases empty : bytes.size = 0
  · simp [ByteArray.isEmpty, empty]
  · have nonempty := Nat.pos_of_ne_zero empty
    cases found : bytes.utf8DecodeChar? 0 with
    | none => simp [ByteArray.isEmpty, empty, nonempty, window, found]
    | some char => simp [ByteArray.isEmpty, empty, nonempty, window, found]

end Window

section Start

variable {bytes rest : ByteArray} {char : Char}

/-- Decoding at an offset is decoding the start of what is left there. -/
theorem ofBytes_extract (bytes : ByteArray) (offset : Nat) :
    ofBytes (bytes.extract offset bytes.size) = ofBytesAt bytes offset := by
  have left : 0 < (bytes.extract offset bytes.size).size ↔
      offset < bytes.size := by
    rw [ByteArray.size_extract]
    omega
  simp only [ofBytes, ofBytesAt, left]
  rw [← ByteArray.utf8DecodeChar?_eq_utf8DecodeChar?_extract]

theorem ofBytes_of_size_eq_zero (empty : bytes.size = 0) :
    ofBytes bytes = ending :=
  ofBytesAt_of_size_le (Nat.le_of_eq empty)

theorem size_append_pos (char : Char) (rest : ByteArray) :
    0 < ([char].utf8Encode ++ rest).size := by
  rw [ByteArray.size_append, size_utf8Encode_singleton]
  exact Nat.add_pos_left (Char.utf8Size_pos char) _

theorem ofBytes_append (char : Char) (rest : ByteArray) :
    ofBytes ([char].utf8Encode ++ rest) = scalar char := by
  rw [ofBytes, ofBytesAt, if_pos (size_append_pos char rest),
    List.utf8DecodeChar?_utf8Encode_singleton_append]

/-- A character is decoded and said to be well formed exactly if the bytes begin
with its encoding. -/
theorem codePoint_ofBytes_iff :
    ((ofBytes bytes).codePoint = some char ∧ (ofBytes bytes).valid = true) ↔
      ∃ rest, bytes = [char].utf8Encode ++ rest := by
  constructor
  · rintro ⟨isChar, valid⟩
    have beforeEnd : 0 < bytes.size :=
      codePoint_isSome_iff.mp (Option.isSome_iff_exists.mpr ⟨char, isChar⟩)
    obtain ⟨found, decodes⟩ := exists_scalar_of_valid beforeEnd valid
    obtain rfl : found = char := by
      simpa [ofBytes, decodes, scalar] using isChar
    exact utf8DecodeChar?_eq_some_iff.mp (utf8DecodeChar?_of_scalar decodes)
  · rintro ⟨rest, rfl⟩
    rw [ofBytes_append]
    exact ⟨rfl, rfl⟩

/-- What is left behind the encoding of a character. -/
theorem extract_width_ofBytes (char : Char) (rest : ByteArray) :
    ([char].utf8Encode ++ rest).extract
      (ofBytes ([char].utf8Encode ++ rest)).width
      ([char].utf8Encode ++ rest).size = rest := by
  rw [ofBytes_append]
  exact ByteArray.extract_append_eq_right (size_utf8Encode_singleton char).symm
    ByteArray.size_append

/-- Valid bytes begin with the encoding of a character, unless there are none,
and the bytes behind it are valid. -/
theorem isValidUTF8_iff_of_pos (nonempty : 0 < bytes.size) :
    bytes.IsValidUTF8 ↔
      ∃ char rest, bytes = [char].utf8Encode ++ rest ∧ rest.IsValidUTF8 := by
  constructor
  · rintro ⟨chars, rfl⟩
    cases chars with
    | nil => exact absurd nonempty (Nat.lt_irrefl 0)
    | cons char chars =>
        exact ⟨char, chars.utf8Encode, List.utf8Encode_cons,
          ByteArray.isValidUTF8_utf8Encode⟩
  · rintro ⟨char, rest, rfl, valid⟩
    exact ByteArray.isValidUTF8_utf8Encode.append valid

end Start

namespace Repeats

variable {bytes : ByteArray} {decoded : List Decoded}

/-- There is only one way of decoding what is left. -/
theorem unique {other : List Decoded} (repeats : Repeats bytes decoded)
    (repeatsToo : Repeats bytes other) : decoded = other := by
  induction repeats generalizing other with
  | done empty =>
      cases repeatsToo with
      | done => rfl
      | step nonempty => omega
  | step nonempty rest ih =>
      cases repeatsToo with
      | done empty => omega
      | step _ restToo => rw [ih restToo]

/-- Behind a character goes on what is decoded behind its encoding. -/
theorem cons (char : Char) (repeats : Repeats bytes decoded) :
    Repeats ([char].utf8Encode ++ bytes) (scalar char :: decoded) := by
  rw [← ofBytes_append char bytes]
  refine .step (size_append_pos char bytes) ?_
  rwa [extract_width_ofBytes]

/-- Encoded characters are decoded one after the other. -/
theorem encoded (chars : List Char) :
    Repeats chars.utf8Encode (chars.map scalar ++ [ending]) := by
  induction chars with
  | nil => exact .done rfl
  | cons char chars ih =>
      rw [List.utf8Encode_cons]
      exact ih.cons char

/-- Decoding what is left at an offset gives the code points from there on. -/
theorem allFrom (bytes : ByteArray) (offset : Nat) :
    Repeats (bytes.extract offset bytes.size) (allFrom bytes offset) := by
  fun_induction Decoded.allFrom bytes offset with
  | case1 offset beforeEnd positive ih =>
      rw [← ofBytes_extract]
      refine .step (by rw [ByteArray.size_extract]; omega) ?_
      rw [ofBytes_extract, ByteArray.extract_extract, ByteArray.size_extract,
        show min (offset + (min bytes.size bytes.size - offset)) bytes.size =
          bytes.size by omega]
      exact ih
  | case2 offset atEnd =>
      have empty : (bytes.extract offset bytes.size).size = 0 := by
        rw [ByteArray.size_extract]
        omega
      rw [← ofBytes_of_size_eq_zero empty]
      exact .done empty

theorem all (bytes : ByteArray) : Repeats bytes (all bytes) := by
  have repeats := allFrom bytes 0
  rwa [ByteArray.extract_zero_size] at repeats

/-- The widths of what is decoded add up to the whole. -/
theorem sum_widths (repeats : Repeats bytes decoded) :
    (decoded.map width).sum = bytes.size := by
  induction repeats with
  | done empty => simp [ofBytes_of_size_eq_zero empty, ending, empty]
  | @step bytes later nonempty rest ih =>
      have atMost := add_width_le nonempty
      rw [Nat.zero_add] at atMost
      rw [List.map_cons, List.sum_cons, ih, ByteArray.size_extract,
        Nat.min_self]
      exact Nat.add_sub_cancel' atMost

/-- Nothing malformed is met exactly if the bytes are valid UTF-8. -/
theorem valid_iff (repeats : Repeats bytes decoded) :
    (∀ step ∈ decoded, step.valid = true) ↔ bytes.IsValidUTF8 := by
  induction repeats with
  | @done bytes empty =>
      rw [ofBytes_of_size_eq_zero empty, ByteArray.size_eq_zero_iff.mp empty]
      exact iff_of_true (by simp [ending]) ByteArray.isValidUTF8_empty
  | @step bytes later nonempty rest ih =>
      rw [List.forall_mem_cons, ih, isValidUTF8_iff_of_pos nonempty]
      constructor
      · rintro ⟨valid, restValid⟩
        obtain ⟨char, isChar⟩ :=
          Option.isSome_iff_exists.mp (codePoint_isSome_iff.mpr nonempty)
        obtain ⟨behind, rfl⟩ := codePoint_ofBytes_iff.mp ⟨isChar, valid⟩
        rw [extract_width_ofBytes] at restValid
        exact ⟨char, behind, rfl, restValid⟩
      · rintro ⟨char, behind, rfl, restValid⟩
        rw [extract_width_ofBytes, ofBytes_append]
        exact ⟨rfl, restValid⟩

end Repeats

/-- Decoding gives back what was encoded.  It may be done through a window of
four bytes.  The encoding of a character gives that character, whatever comes
behind it, and nothing else does.  Encoded characters are decoded one after the
other.  Of every byte string, all code points are decoded in finitely many
steps and in one way only; their widths add up to the whole, and all of them are
well formed exactly if the bytes are valid UTF-8. -/
theorem decoding_round_trips :
    (∀ bytes : ByteArray, throughWindow bytes = ofBytes bytes) ∧
    (∀ (char : Char) (rest : ByteArray),
      ofBytes ([char].utf8Encode ++ rest) =
        ⟨some char, [char].utf8Encode.size, true⟩) ∧
    (∀ (bytes : ByteArray) (char : Char),
      ((ofBytes bytes).codePoint = some char ∧ (ofBytes bytes).valid = true) ↔
        ∃ rest, bytes = [char].utf8Encode ++ rest) ∧
    (∀ chars : List Char,
      Repeats chars.utf8Encode (chars.map scalar ++ [ending])) ∧
    ∀ bytes : ByteArray, ∃ decoded, decoded = Decoded.all bytes ∧
      (∀ other, Repeats bytes other ↔ other = decoded) ∧
      (decoded.map width).sum = bytes.size ∧
      ((∀ step ∈ decoded, step.valid = true) ↔ bytes.IsValidUTF8) := by
  refine ⟨throughWindow_eq, fun char rest => ?_,
    fun _ _ => codePoint_ofBytes_iff, Repeats.encoded, fun bytes => ?_⟩
  · rw [ofBytes_append, size_utf8Encode_singleton]
    rfl
  · have repeats := Repeats.all bytes
    refine ⟨_, rfl, fun other => ⟨?_, ?_⟩, repeats.sum_widths,
      repeats.valid_iff⟩
    · exact fun repeatsToo => repeatsToo.unique repeats
    · rintro rfl
      exact repeats

/-- A stray byte before a truncated sequence, with a character between them. -/
example : all ⟨#[0x80, 0xc3, 0xa9, 0xe2, 0x82]⟩ =
    [malformed, scalar 'é', malformed, malformed, ending] := by
  decide +kernel

end Decoded

end PegEngine
