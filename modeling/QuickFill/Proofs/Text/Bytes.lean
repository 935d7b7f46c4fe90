import Mathlib.Tactic.SplitIfs

/-!
# Texts as bytes

Texts are compared character by character.  Written in UTF-8 and compared byte by byte they
come in the same order: a greater character has a greater first byte, or the same first bytes
and then a greater one.
-/

namespace QuickFill

namespace Text

/-- The bytes of a text in UTF-8. -/
def bytes (text : String) : List UInt8 :=
  text.toUTF8.data.toList

theorem bytes_eq (text : String) : bytes text = text.toList.flatMap String.utf8EncodeChar := by
  rw [bytes, String.toUTF8_eq_toByteArray, ← String.utf8Encode_toList, List.utf8Encode,
    List.toList_data_toByteArray]

theorem byte_lt_iff {first second : Nat} (firstLt : first < 256) (secondLt : second < 256) :
    UInt8.ofNat first < UInt8.ofNat second ↔ first < second := by
  rw [UInt8.lt_iff_toNat_lt, UInt8.toNat_ofNat_of_lt' firstLt, UInt8.toNat_ofNat_of_lt' secondLt]

theorem byte_inj {first second : Nat} (firstLt : first < 256) (secondLt : second < 256) :
    UInt8.ofNat first = UInt8.ofNat second ↔ first = second := by
  rw [← UInt8.toNat_inj, UInt8.toNat_ofNat_of_lt' firstLt, UInt8.toNat_ofNat_of_lt' secondLt]

/-- A greater character has greater bytes, whatever follows. -/
theorem encodeChar_append_lt {first second : Char} (lt : first < second)
    (rest others : List UInt8) :
    String.utf8EncodeChar first ++ rest < String.utf8EncodeChar second ++ others := by
  have codeLt : first.val.toNat < second.val.toNat := lt
  have bound : second.val.toNat < 1114112 := by
    rcases second.valid with low | high
    · exact Nat.lt_trans low (by decide)
    · exact high.2
  -- Each byte after the first has six bits of the code, so codes are compared six bits at a time.
  have sextet (code other : Nat) (less : code < other) :
      code / 64 < other / 64 ∨ code / 64 = other / 64 ∧ code % 64 < other % 64 := by
    omega
  have nested (code : Nat) : code / 64 / 64 = code / 4096 ∧ code / 4096 / 64 = code / 262144 :=
    ⟨Nat.div_div_eq_div_mul code 64 64, Nat.div_div_eq_div_mul code 4096 64⟩
  have low := sextet _ _ codeLt
  have middle := sextet (first.val.toNat / 64) (second.val.toNat / 64)
  have high := sextet (first.val.toNat / 4096) (second.val.toNat / 4096)
  rw [(nested _).1, (nested _).1] at middle
  rw [(nested _).2, (nested _).2] at high
  have top (code : Nat) (less : code < 1114112) : code / 262144 % 8 = code / 262144 :=
    Nat.mod_eq_of_lt (by omega)
  have firstTop := top _ (Nat.lt_trans codeLt bound)
  have secondTop := top _ bound
  unfold String.utf8EncodeChar
  simp only
  split_ifs <;>
    simp (disch := omega) only [List.cons_append, List.nil_append, List.cons_lt_cons_iff,
      byte_lt_iff, byte_inj] <;> omega

theorem flatMap_encodeChar_lt {first second : List Char} (lt : first < second) :
    first.flatMap String.utf8EncodeChar < second.flatMap String.utf8EncodeChar := by
  induction lt with
  | @nil character rest =>
      obtain ⟨byte, more, encoded⟩ := List.exists_cons_of_ne_nil
        (String.utf8EncodeChar_ne_nil (c := character))
      rw [List.flatMap_nil, List.flatMap_cons, encoded, List.cons_append]
      exact List.nil_lt_cons _ _
  | @rel character other rest others lt =>
      rw [List.flatMap_cons, List.flatMap_cons]
      exact encodeChar_append_lt lt _ _
  | @cons character rest others _ ih =>
      rw [List.flatMap_cons, List.flatMap_cons]
      exact List.append_left_lt ih

/-- A greater text has greater bytes. -/
theorem bytes_lt_of_lt {first second : String} (lt : first < second) :
    bytes first < bytes second := by
  rw [bytes_eq, bytes_eq]
  exact flatMap_encodeChar_lt lt

end Text

end QuickFill
