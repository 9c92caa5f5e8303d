import PegEngine.Position
import Mathlib.Logic.Relation

/-!
# Code-point boundaries

Repeated decoding cuts a byte string at its boundaries.  Where a boundary lies
in lines and columns can be told from the code points that start no later, so
a cursor on a boundary is determined by its offset (`Cursor.ofOffset`).  This
file shows that reading takes cursors from boundary to boundary, as long as it
stops at the end of the bytes (`Cursor.Stands.advance`): whoever goes back to an
offset goes back to the very cursor that was there.
-/

namespace PegEngine

namespace Decoded

theorem codePoint_isSome_iff {bytes : ByteArray} {offset : Nat} :
    (ofBytesAt bytes offset).codePoint.isSome ↔ offset < bytes.size := by
  by_cases beforeEnd : offset < bytes.size
  · simp only [ofBytesAt, if_pos beforeEnd]
    split <;> simp [scalar, malformed, beforeEnd]
  · simp [ofBytesAt, beforeEnd, ending]

theorem add_width_le {bytes : ByteArray} {offset : Nat}
    (beforeEnd : offset < bytes.size) :
    offset + (ofBytesAt bytes offset).width ≤ bytes.size := by
  simp only [ofBytesAt, if_pos beforeEnd]
  split
  case h_1 char decoded =>
    exact ByteArray.le_size_of_utf8DecodeChar?_eq_some decoded
  case h_2 => exact beforeEnd

/-- One offset follows another if a single code point lies between them. -/
def Follows (bytes : ByteArray) (offset next : Nat) : Prop :=
  offset < bytes.size ∧ next = offset + (ofBytesAt bytes offset).width

/-- The offsets at which repeated decoding arrives. -/
def Boundary (bytes : ByteArray) : Nat → Prop :=
  Relation.ReflTransGen (Follows bytes) 0

theorem Follows.lt {bytes : ByteArray} {offset next : Nat}
    (follows : Follows bytes offset next) : offset < next := by
  obtain ⟨beforeEnd, rfl⟩ := follows
  exact Nat.lt_add_of_pos_right (width_ofBytesAt_pos beforeEnd)

theorem le_of_follows {bytes : ByteArray} {offset later : Nat}
    (follows : Relation.ReflTransGen (Follows bytes) offset later) :
    offset ≤ later := by
  induction follows with
  | refl => exact Nat.le_refl _
  | tail _ step ih => exact Nat.le_trans ih (Nat.le_of_lt step.lt)

theorem boundary_zero (bytes : ByteArray) : Boundary bytes 0 :=
  .refl

theorem Boundary.le_size {bytes : ByteArray} {offset : Nat}
    (boundary : Boundary bytes offset) : offset ≤ bytes.size := by
  induction boundary with
  | refl => exact Nat.zero_le _
  | tail _ step ih =>
      obtain ⟨beforeEnd, rfl⟩ := step
      exact add_width_le beforeEnd

/-- The code points from an offset on that start no later than a limit, where
the end of the bytes counts as one without a character. -/
def upTo (bytes : ByteArray) (limit offset : Nat) : List (Option Char) :=
  if offset ≤ limit then
    (ofBytesAt bytes offset).codePoint ::
      if beforeEnd : offset < bytes.size then
        have : 0 < (ofBytesAt bytes offset).width :=
          width_ofBytesAt_pos beforeEnd
        upTo bytes limit (offset + (ofBytesAt bytes offset).width)
      else []
  else []
termination_by bytes.size - offset

theorem upTo_of_lt {bytes : ByteArray} {limit offset : Nat}
    (beyond : limit < offset) : upTo bytes limit offset = [] := by
  rw [upTo, if_neg (Nat.not_le.mpr beyond)]

theorem upTo_self (bytes : ByteArray) (offset : Nat) :
    upTo bytes offset offset = [(ofBytesAt bytes offset).codePoint] := by
  rw [upTo, if_pos (Nat.le_refl _)]
  by_cases beforeEnd : offset < bytes.size
  · rw [dif_pos beforeEnd, upTo_of_lt]
    exact Nat.lt_add_of_pos_right (width_ofBytesAt_pos beforeEnd)
  · rw [dif_neg beforeEnd]

theorem upTo_of_follows {bytes : ByteArray} {limit offset next : Nat}
    (follows : Follows bytes offset next) (atMost : offset ≤ limit) :
    upTo bytes limit offset =
      (ofBytesAt bytes offset).codePoint :: upTo bytes limit next := by
  obtain ⟨beforeEnd, rfl⟩ := follows
  rw [upTo, if_pos atMost, dif_pos beforeEnd]

/-- Moving the limit to the next boundary adds one code point. -/
theorem upTo_next {bytes : ByteArray} {start offset next : Nat}
    (reached : Relation.ReflTransGen (Follows bytes) start offset)
    (follows : Follows bytes offset next) :
    upTo bytes next start =
      upTo bytes offset start ++ [(ofBytesAt bytes next).codePoint] := by
  induction reached using Relation.ReflTransGen.head_induction_on with
  | refl =>
      rw [upTo_of_follows follows (Nat.le_of_lt follows.lt), upTo_self,
        upTo_self]
      rfl
  | head step reached ih =>
      have atMost := Nat.le_trans (Nat.le_of_lt step.lt) (le_of_follows reached)
      rw [upTo_of_follows step atMost, upTo_of_follows step
        (Nat.le_trans atMost (Nat.le_of_lt follows.lt)), ih]
      rfl

end Decoded

namespace Position

/-- The position of the code point at an offset.  Its line is counted by the
line breaks that start no later, its column by the code points since then. -/
def ofOffset (bytes : ByteArray) (offset : Nat) : Position where
  line := 1 + (Decoded.upTo bytes offset 0).count (some '\n')
  column := ((Decoded.upTo bytes offset 0).reverse.takeWhile
    fun codePoint => codePoint ≠ some '\n').length
  offset := offset

theorem ofOffset_zero (bytes : ByteArray) :
    ofOffset bytes 0 =
      start.next (Decoded.ofBytesAt bytes 0).codePoint 0 := by
  by_cases lineBreak : (Decoded.ofBytesAt bytes 0).codePoint = some '\n' <;>
    simp [ofOffset, Decoded.upTo_self, next, start, lineBreak]

theorem ofOffset_next {bytes : ByteArray} {offset next : Nat}
    (boundary : Decoded.Boundary bytes offset)
    (follows : Decoded.Follows bytes offset next) :
    ofOffset bytes next = (ofOffset bytes offset).next
      (Decoded.ofBytesAt bytes next).codePoint next := by
  have extended := Decoded.upTo_next boundary follows
  by_cases lineBreak : (Decoded.ofBytesAt bytes next).codePoint = some '\n' <;>
    simp [ofOffset, extended, Position.next, lineBreak, Nat.add_assoc]

end Position

namespace Cursor

/-- The cursor on the code point at an offset. -/
def ofOffset (bytes : ByteArray) (offset : Nat) : Cursor where
  position := Position.ofOffset bytes offset
  current := (Decoded.ofBytesAt bytes offset).codePoint
  width := (Decoded.ofBytesAt bytes offset).width

@[simp]
theorem offset_ofOffset (bytes : ByteArray) (offset : Nat) :
    (ofOffset bytes offset).offset = offset :=
  rfl

/-- Standing on a boundary, with the position that belongs to it. -/
structure Stands (bytes : ByteArray) (cursor : Cursor) : Prop where
  boundary : Decoded.Boundary bytes cursor.offset
  eq_ofOffset : cursor = ofOffset bytes cursor.offset

namespace Stands

variable {bytes : ByteArray} {cursor other : Cursor}

/-- A cursor is determined by its offset. -/
theorem eq_of_offset_eq (stands : cursor.Stands bytes)
    (alike : other.Stands bytes) (sameOffset : cursor.offset = other.offset) :
    cursor = other := by
  rw [stands.eq_ofOffset, alike.eq_ofOffset, sameOffset]

theorem current_eq (stands : cursor.Stands bytes) :
    cursor.current = (Decoded.ofBytesAt bytes cursor.offset).codePoint :=
  congrArg Cursor.current stands.eq_ofOffset

theorem position_eq (stands : cursor.Stands bytes) :
    cursor.position = Position.ofOffset bytes cursor.offset :=
  congrArg Cursor.position stands.eq_ofOffset

theorem nextOffset_eq (stands : cursor.Stands bytes) :
    cursor.nextOffset =
      cursor.offset + (Decoded.ofBytesAt bytes cursor.offset).width :=
  congrArg (cursor.offset + ·) (congrArg Cursor.width stands.eq_ofOffset)

theorem follows (stands : cursor.Stands bytes)
    (present : cursor.current.isSome) :
    Decoded.Follows bytes cursor.offset cursor.nextOffset := by
  rw [stands.current_eq, Decoded.codePoint_isSome_iff] at present
  exact ⟨present, stands.nextOffset_eq⟩

end Stands

theorem stands_ofOffset {bytes : ByteArray} {offset : Nat}
    (boundary : Decoded.Boundary bytes offset) :
    (ofOffset bytes offset).Stands bytes :=
  ⟨boundary, rfl⟩

@[simp]
theorem offset_advance (bytes : ByteArray) (cursor : Cursor) :
    (cursor.advance bytes).offset = cursor.nextOffset := by
  simp only [advance, offset, Position.next]
  split <;> rfl

/-- The first reading arrives at the first code point. -/
theorem stands_advance_start (bytes : ByteArray) :
    (start.advance bytes).Stands bytes := by
  have atStart : (start.advance bytes).offset = 0 := offset_advance bytes start
  refine ⟨atStart ▸ Decoded.boundary_zero bytes, ?_⟩
  rw [atStart, ofOffset, Position.ofOffset_zero]
  rfl

theorem Stands.advance {bytes : ByteArray} {cursor : Cursor}
    (stands : cursor.Stands bytes) (present : cursor.current.isSome) :
    (cursor.advance bytes).Stands bytes := by
  have follows := stands.follows present
  refine ⟨offset_advance bytes cursor ▸ stands.boundary.tail follows, ?_⟩
  rw [offset_advance, ofOffset, Position.ofOffset_next stands.boundary follows,
    ← stands.position_eq]
  rfl

end Cursor

end PegEngine
