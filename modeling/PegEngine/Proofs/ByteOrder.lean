import Mathlib.Tactic.SplitIfs

/-!
# The order of texts by bytes

Texts are compared by their characters.  Comparing their bytes in UTF-8 instead
gives the same order (`ByteOrder.bytes_lt_bytes`), since of two different
characters the smaller one has the smaller byte where their codes first differ
(`ByteOrder.below_utf8EncodeChar`).
-/

namespace PegEngine

namespace ByteOrder

/-- The bytes of a text in UTF-8. -/
def bytes (text : String) : List UInt8 := text.toUTF8.data.toList

/-- Two lists of bytes differ somewhere, and the first one has the smaller byte
where they do so first. -/
inductive Below : List UInt8 → List UInt8 → Prop
  | here {small great : UInt8} {later others : List UInt8}
      (less : small < great) : Below (small :: later) (great :: others)
  | later {byte : UInt8} {later others : List UInt8}
      (below : Below later others) : Below (byte :: later) (byte :: others)

theorem Below.append {first second : List UInt8} (below : Below first second)
    (later others : List UInt8) :
    Below (first ++ later) (second ++ others) := by
  induction below with
  | here less => exact .here less
  | later below ih => exact .later ih

theorem Below.lt {first second : List UInt8} (below : Below first second) :
    first < second := by
  induction below with
  | here less => exact .rel less
  | later below ih => exact .cons ih

/-- Bytes are compared as the numbers that they stand for. -/
theorem below_of_lt {small great : Nat} {later others : List UInt8}
    (fits : great < 256) (less : small < great) :
    Below (UInt8.ofNat small :: later) (UInt8.ofNat great :: others) := by
  refine .here (UInt8.lt_iff_toNat_lt.mpr ?_)
  rw [UInt8.toNat_ofNat', UInt8.toNat_ofNat']
  omega

theorem below_of_le {small great : Nat} {later others : List UInt8}
    (fits : great < 256) (atMost : small ≤ great)
    (below : small = great → Below later others) :
    Below (UInt8.ofNat small :: later) (UInt8.ofNat great :: others) := by
  rcases Nat.lt_or_eq_of_le atMost with less | rfl
  · exact below_of_lt fits less
  · exact .later (below rfl)

/-- The first byte tells how many bytes there are, and more bytes stand for a
greater character; for the same number of bytes the first difference decides. -/
theorem below_utf8EncodeChar {first second : Char} (less : first < second) :
    Below (String.utf8EncodeChar first) (String.utf8EncodeChar second) := by
  have numbers : first.val.toNat < second.val.toNat := less
  have valid : second.val.toNat < 0x110000 := by
    rcases second.valid with small | ⟨-, great⟩ <;> omega
  unfold String.utf8EncodeChar
  dsimp only
  split_ifs
  all_goals try omega
  · exact below_of_lt (by omega) (by omega)
  · exact below_of_lt (by omega) (by omega)
  · exact below_of_lt (by omega) (by omega)
  · exact below_of_lt (by omega) (by omega)
  · exact below_of_le (by omega) (by omega) fun same =>
      below_of_lt (by omega) (by omega)
  · exact below_of_lt (by omega) (by omega)
  · exact below_of_lt (by omega) (by omega)
  · exact below_of_le (by omega) (by omega) fun same =>
      below_of_le (by omega) (by omega) fun sameToo =>
        below_of_lt (by omega) (by omega)
  · exact below_of_lt (by omega) (by omega)
  · exact below_of_le (by omega) (by omega) fun same =>
      below_of_le (by omega) (by omega) fun sameToo =>
        below_of_le (by omega) (by omega) fun _ =>
          below_of_lt (by omega) (by omega)

theorem bytes_eq (text : String) :
    bytes text = text.toList.flatMap String.utf8EncodeChar := by
  conv =>
    lhs
    rw [← String.ofList_toList (s := text)]
  rw [bytes, String.toUTF8_eq_toByteArray, String.toByteArray_ofList,
    List.utf8Encode, List.data_toByteArray]

theorem flatMap_lt_flatMap {first second : List Char} (less : first < second) :
    first.flatMap String.utf8EncodeChar <
      second.flatMap String.utf8EncodeChar := by
  induction less with
  | @nil char later =>
      obtain ⟨byte, others, encoded⟩ :=
        List.exists_cons_of_ne_nil (String.utf8EncodeChar_ne_nil (c := char))
      rw [List.flatMap_cons, encoded]
      exact List.nil_lt_cons _ _
  | cons less ih => exact List.append_left_lt ih
  | rel less => exact ((below_utf8EncodeChar less).append _ _).lt

/-- The order of texts is the order of their bytes. -/
theorem bytes_lt_bytes {first second : String} (less : first < second) :
    bytes first < bytes second := by
  rw [bytes_eq, bytes_eq]
  exact flatMap_lt_flatMap less

end ByteOrder

end PegEngine
