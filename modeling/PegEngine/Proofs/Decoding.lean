import PegEngine.Proofs.Sightings

/-!
# Characters ahead

Where no sequence is malformed, decoding gives back the characters that were
encoded.  `Decoded.Ahead` says which characters stand between an offset and the
end of the bytes; it turns statements about offsets into statements about lists
of characters.
-/

namespace PegEngine

namespace Decoded

variable {bytes : ByteArray} {offset : Nat}

theorem utf8DecodeChar?_of_scalar {char : Char}
    (decodes : ofBytesAt bytes offset = scalar char) :
    bytes.utf8DecodeChar? offset = some char := by
  unfold ofBytesAt at decodes
  split at decodes
  · split at decodes
    case h_1 found isFound =>
      rw [isFound]
      exact congrArg Decoded.codePoint decodes
    case h_2 => cases congrArg Decoded.valid decodes
  · cases congrArg Decoded.codePoint decodes

/-- The bytes that a well-formed code point spans are its encoding. -/
theorem extract_of_scalar {char : Char}
    (decodes : ofBytesAt bytes offset = scalar char) :
    bytes.extract offset (offset + char.utf8Size) = [char].utf8Encode := by
  have found := utf8DecodeChar?_of_scalar decodes
  have atMost := ByteArray.le_size_of_utf8DecodeChar?_eq_some found
  rw [ByteArray.utf8DecodeChar?_eq_utf8DecodeChar?_extract] at found
  rw [List.utf8Encode_singleton,
    String.toByteArray_utf8EncodeChar_of_utf8DecodeChar?_eq_some found,
    ByteArray.extract_extract, Nat.add_zero, Nat.min_eq_left atMost]

theorem exists_scalar_of_valid (beforeEnd : offset < bytes.size)
    (valid : (ofBytesAt bytes offset).valid = true) :
    ∃ char, ofBytesAt bytes offset = scalar char := by
  unfold ofBytesAt at valid ⊢
  rw [if_pos beforeEnd] at valid ⊢
  split at valid
  · exact ⟨_, rfl⟩
  · cases valid

/-- The bytes before a boundary are valid UTF-8 if none of the earlier
boundaries is malformed. -/
theorem Boundary.isValidUTF8 (boundary : Boundary bytes offset)
    (wellFormed : ∀ earlier < offset, ¬ Malformed bytes earlier) :
    (bytes.extract 0 offset).IsValidUTF8 := by
  induction boundary with
  | refl =>
      rw [ByteArray.extract_same]
      exact ByteArray.isValidUTF8_empty
  | @tail middle next reached follows ih =>
      have before := follows.lt
      obtain ⟨beforeEnd, isNext⟩ := follows
      have valid : (ofBytesAt bytes middle).valid = true := by
        simpa using fun invalid => wellFormed middle before ⟨reached, invalid⟩
      obtain ⟨char, decodes⟩ := exists_scalar_of_valid beforeEnd valid
      have spans := extract_of_scalar decodes
      have width : next = middle + char.utf8Size := by
        rw [isNext, decodes]
        rfl
      rw [ByteArray.extract_eq_extract_append_extract middle (Nat.zero_le _)
        (Nat.le_of_lt before), width, spans]
      exact (ih fun earlier isEarlier =>
        wellFormed earlier (Nat.lt_trans isEarlier before)).append
          ByteArray.isValidUTF8_utf8Encode

/-- The bytes from an offset to the end are the encoding of some characters. -/
structure Ahead (bytes : ByteArray) (offset : Nat) (chars : List Char) :
    Prop where
  le_size : offset ≤ bytes.size
  encodes : bytes.extract offset bytes.size = chars.utf8Encode

theorem ahead_zero (chars : List Char) : Ahead chars.utf8Encode 0 chars :=
  ⟨Nat.zero_le _, ByteArray.extract_zero_size⟩

/-- Of the characters ahead, the first ones may be passed. -/
theorem Ahead.pass {first later : List Char}
    (ahead : Ahead bytes offset (first ++ later)) :
    Ahead bytes (offset + first.utf8Encode.size) later ∧
      bytes.extract offset (offset + first.utf8Encode.size) =
        first.utf8Encode := by
  obtain ⟨atMost, encodes⟩ := ahead
  rw [List.utf8Encode_append] at encodes
  have sizes := congrArg ByteArray.size encodes
  rw [ByteArray.size_extract, ByteArray.size_append, Nat.min_self] at sizes
  have within : offset + first.utf8Encode.size ≤ bytes.size := by omega
  rw [ByteArray.extract_eq_extract_append_extract
    (offset + first.utf8Encode.size) (Nat.le_add_right _ _) within] at encodes
  have sameSize : (bytes.extract offset
      (offset + first.utf8Encode.size)).size = first.utf8Encode.size := by
    rw [ByteArray.size_extract]
    omega
  have same := ByteArray.append_inj_left encodes sameSize
  rw [same, ByteArray.append_right_inj] at encodes
  exact ⟨⟨within, encodes⟩, same⟩

/-- Of encoded characters, the later ones are ahead where the first ones
end. -/
theorem ahead_append (first later : List Char) :
    Ahead (first ++ later).utf8Encode first.utf8Encode.size later := by
  have passed := (ahead_zero (first ++ later)).pass.1
  rwa [Nat.zero_add] at passed

/-- Passing one character. -/
theorem Ahead.pass_one {char : Char} {chars : List Char}
    (ahead : Ahead bytes offset (char :: chars)) :
    Ahead bytes (offset + [char].utf8Encode.size) chars ∧
      bytes.extract offset (offset + [char].utf8Encode.size) =
        [char].utf8Encode :=
  Ahead.pass ahead

theorem Ahead.ofBytesAt_nil (ahead : Ahead bytes offset []) :
    offset = bytes.size ∧ ofBytesAt bytes offset = ending := by
  have sizes := congrArg ByteArray.size ahead.encodes
  rw [ByteArray.size_extract, List.utf8Encode_nil,
    ByteArray.size_empty] at sizes
  have atEnd : bytes.size ≤ offset := by omega
  exact ⟨Nat.le_antisymm ahead.le_size atEnd, ofBytesAt_of_size_le atEnd⟩

/-- The first of the characters ahead is the one that decoding gives. -/
theorem Ahead.ofBytesAt_cons {char : Char} {chars : List Char}
    (ahead : Ahead bytes offset (char :: chars)) :
    ofBytesAt bytes offset = scalar char := by
  have found : bytes.utf8DecodeChar? offset = some char := by
    rw [ByteArray.utf8DecodeChar?_eq_utf8DecodeChar?_extract, ahead.encodes,
      List.utf8DecodeChar?_utf8Encode_cons]
  have beforeEnd := ByteArray.lt_size_of_isSome_utf8DecodeChar?
    (Option.isSome_iff_exists.mpr ⟨char, found⟩)
  rw [ofBytesAt, if_pos beforeEnd, found]

theorem size_utf8Encode_singleton (char : Char) :
    [char].utf8Encode.size = char.utf8Size := by
  simp [List.utf8Encode_singleton]

theorem Ahead.tail {char : Char} {chars : List Char}
    (ahead : Ahead bytes offset (char :: chars)) :
    Ahead bytes (offset + (ofBytesAt bytes offset).width) chars := by
  have passed := ahead.pass_one.1
  rw [size_utf8Encode_singleton] at passed
  rw [ahead.ofBytesAt_cons]
  exact passed

end Decoded

end PegEngine
