import Mathlib.Tactic.SplitIfs

/-!
# The order of bytes

Texts are compared by the code points of their characters. This is the order of their bytes in
UTF-8: the bytes of a character are digits of its code point, and a larger number of them begins
with a larger byte.
-/

namespace SdlCodegen.Text

/-- The bytes of a text in UTF-8. -/
def bytes (text : String) : List UInt8 :=
  text.toUTF8.data.toList

/-- The bytes of a text are those of its characters. -/
theorem bytes_eq_flatMap (text : String) :
    bytes text = text.toList.flatMap String.utf8EncodeChar := by
  have htext : text.toUTF8 = (String.ofList text.toList).toByteArray := by
    rw [String.ofList_toList]
    rfl
  rw [bytes, htext]
  change (List.utf8Encode text.toList).data.toList = _
  rw [List.utf8Encode, List.data_toByteArray]

/-- Bytes are in order if the first ones are, or are the same with the others in order. -/
theorem cons_lt_cons_of_le {a b : Nat} {as bs : List UInt8} (hb : b < UInt8.size) (hle : a ≤ b)
    (h : a = b → as < bs) : UInt8.ofNat a :: as < UInt8.ofNat b :: bs := by
  rw [List.cons_lt_cons_iff]
  rcases Nat.lt_or_eq_of_le hle with hlt | rfl
  · exact .inl ((UInt8.ofNat_lt_iff_lt (Nat.lt_trans hlt hb) hb).mpr hlt)
  · exact .inr ⟨rfl, h rfl⟩

/-- The bytes of a smaller character come first, whatever follows. -/
theorem utf8EncodeChar_append_lt {c d : Char} (h : c < d) (rest others : List UInt8) :
    String.utf8EncodeChar c ++ rest < String.utf8EncodeChar d ++ others := by
  have hlt : c.val.toNat < d.val.toNat := h
  have hmax : d.val.toNat < 0x110000 := d.valid.elim (fun hd => by omega) (fun hd => hd.2)
  have hsize : UInt8.size = 256 := rfl
  -- one digit after the other is at most as large, and not all of them can be the same
  dsimp only [String.utf8EncodeChar]
  split_ifs <;> dsimp only [List.cons_append, List.nil_append] <;>
    repeat' first
    | (exfalso; omega)
    | refine cons_lt_cons_of_le (by omega) (by omega) fun _ => ?_

/-- A character has at least one byte. -/
theorem exists_utf8EncodeChar_eq_cons (c : Char) :
    ∃ first others, String.utf8EncodeChar c = first :: others := by
  dsimp only [String.utf8EncodeChar]
  split_ifs <;> exact ⟨_, _, rfl⟩

/-- Lists of characters are in the order of their bytes. -/
theorem flatMap_utf8EncodeChar_lt {cs ds : List Char} (h : cs < ds) :
    cs.flatMap String.utf8EncodeChar < ds.flatMap String.utf8EncodeChar := by
  induction h with
  | @nil d ds =>
    obtain ⟨first, others, hd⟩ := exists_utf8EncodeChar_eq_cons d
    rw [List.flatMap_cons, hd]
    exact List.nil_lt_cons first _
  | rel hchar => exact utf8EncodeChar_append_lt hchar _ _
  | cons _ ih => exact List.append_left_lt ih

/-- Texts are in the order of their bytes. -/
theorem bytes_lt_bytes {first second : String} (h : first < second) :
    bytes first < bytes second := by
  rw [bytes_eq_flatMap, bytes_eq_flatMap]
  exact flatMap_utf8EncodeChar_lt h

end SdlCodegen.Text
